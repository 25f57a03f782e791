import Typeset.Config.Environment
import Typeset.Config.Profile
import Typeset.LabelPattern

/-!
# Configurations

Everything about a conversion that does not depend on the request.  A configuration is built by
calls each of which sets one thing; what they say is checked when the configuration is asked for.
-/

namespace Typeset

/-- Who watches the conversion of documents: someone who does not care, or someone who keeps every
event. -/
inductive Observer where
  | silent
  | recording
  deriving DecidableEq, Repr

/-- Everything about a conversion that does not depend on the request. -/
structure Configuration where
  scratchDirectory : Path
  labelPattern : Pattern
  showDebug : Bool
  profile : FormatProfile
  environment : EngineEnvironment
  observer : Option Observer
  deriving DecidableEq, Repr

/-- Why a configuration cannot be used. -/
inductive ConfigurationError where
  | labelPattern (error : LabelPattern.Error)
  | emptyScratchDirectory
  deriving DecidableEq, Repr

/-- The error in words. -/
def ConfigurationError.message : ConfigurationError → Text
  | labelPattern error => error.message
  | emptyScratchDirectory => "Scratch directory must not be empty".toList

namespace Configuration

/-- The configuration on a host with the given directory for temporary files. -/
def standard (temporary : Path) : Configuration where
  scratchDirectory := temporary
  labelPattern := LabelPattern.standard
  showDebug := false
  profile := .standard
  environment := .under (Path.join temporary "md2pdf".toList)
  observer := none

/-- A call that sets one thing. -/
inductive Setting where
  | scratchDirectory (path : Path)
  | labelPattern (source : Text)
  | showDebug (value : Bool)
  | implicitFigures (value : Bool)
  | pdfEngine (engine : Text)
  | template (path : Path)
  | profile (profile : FormatProfile)
  | environment (environment : EngineEnvironment)
  | observer (observer : Observer)
  deriving DecidableEq, Repr

/-- A configuration that is being built, and the source of a label pattern that has not been
compiled yet. -/
structure Builder where
  configuration : Configuration
  labelPattern : Option Text
  deriving DecidableEq, Repr

namespace Builder

/-- The beginning of every configuration. -/
def start (temporary : Path) : Builder where
  configuration := .standard temporary
  labelPattern := none

/-- Changes the profile. -/
def changeProfile (builder : Builder) (change : FormatProfile → FormatProfile) : Builder :=
  { builder with
    configuration :=
      { builder.configuration with profile := change builder.configuration.profile } }

/-- Sets one thing. -/
def set (builder : Builder) : Setting → Builder
  | .scratchDirectory path =>
      { builder with configuration := { builder.configuration with scratchDirectory := path } }
  | .labelPattern source => { builder with labelPattern := some source }
  | .showDebug value =>
      { builder with configuration := { builder.configuration with showDebug := value } }
  | .implicitFigures value => builder.changeProfile ({ · with implicitFigures := value })
  | .pdfEngine engine =>
      builder.changeProfile ({ · with pdfArguments := [FormatProfile.pdfEngineArgument engine] })
  | .template path => builder.changeProfile ({ · with template := some path })
  | .profile profile => builder.changeProfile fun _ => profile
  | .environment environment =>
      { builder with configuration := { builder.configuration with environment } }
  | .observer observer =>
      { builder with configuration := { builder.configuration with observer := some observer } }

/-- Sets several things, one after another. -/
def setAll (builder : Builder) (settings : List Setting) : Builder :=
  settings.foldl set builder

/-- The configuration, if what has been set can be used. -/
def build [Pattern.Sizes] (builder : Builder) : Except ConfigurationError Configuration := do
  let configuration ←
    match builder.labelPattern with
    | none => pure builder.configuration
    | some source =>
        match LabelPattern.compile source with
        | .ok pattern => pure { builder.configuration with labelPattern := pattern }
        | .error error => throw (.labelPattern error)
  if configuration.scratchDirectory.isEmpty then throw .emptyScratchDirectory
  else return configuration

end Builder

end Configuration

end Typeset
