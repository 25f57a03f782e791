import Typeset.CommandLine.Flag
import Typeset.Path
import Typeset.Text.Quoted

/-!
# Options

What a command line asks for, once flags, environment variables and defaults have been brought
together.
-/

namespace Typeset

namespace CommandLine

/-- Where the payload comes from. -/
inductive PayloadSource where
  | standardInput
  | file (path : Path)
  deriving DecidableEq, Repr

/-- The source that an argument names. -/
def PayloadSource.ofArgument (argument : Text) : PayloadSource :=
  if argument = ['-'] then .standardInput else .file argument

/-- The source as messages show it. -/
def PayloadSource.display : PayloadSource → Text
  | .standardInput => "stdin".toList
  | .file path => Text.quoted path

/-- What a command line asks for. -/
structure Options where
  payload : PayloadSource
  batch : Bool
  program : Path
  pdfEngine : Text
  template : Option Path
  scratchDirectory : Option Path
  cacheRoot : Option Path
  labelPattern : Option Text
  implicitFigures : Bool
  showDebug : Bool
  outputDirectory : Path
  baseUrl : Option Text
  endpoint : Option Text
  bucket : Option Text
  region : Text
  token : Option Text
  publicBaseUrl : Option Text
  noProgress : Bool
  verbose : Bool
  quiet : Bool
  deriving DecidableEq, Repr

/-- The flags that have been given, with their values.  A switch that is on has the value `true`. -/
abbrev Given := List (Flag × Text)

namespace Given

/-- The value of a flag. -/
def value? (given : Given) (flag : Flag) : Option Text :=
  given.lookup flag

/-- Whether a switch is on. -/
def isOn (given : Given) (flag : Flag) : Bool :=
  given.value? flag == some "true".toList

/-- The options for a payload. -/
def options (given : Given) (payload : Text) : Options where
  payload := .ofArgument payload
  batch := given.isOn .batch
  program := (given.value? .program).getD "pandoc".toList
  pdfEngine := (given.value? .pdfEngine).getD "xelatex".toList
  template := given.value? .template
  scratchDirectory := given.value? .scratchDirectory
  cacheRoot := given.value? .cacheRoot
  labelPattern := given.value? .labelPattern
  implicitFigures := given.isOn .implicitFigures
  showDebug := given.isOn .showDebug
  outputDirectory := (given.value? .outputDirectory).getD "md2pdf-out".toList
  baseUrl := given.value? .baseUrl
  endpoint := given.value? .endpoint
  bucket := given.value? .bucket
  region := (given.value? .region).getD "us-east-1".toList
  token := given.value? .token
  publicBaseUrl := given.value? .publicBaseUrl
  noProgress := given.isOn .noProgress
  verbose := given.isOn .verbose
  quiet := given.isOn .quiet

end Given

end CommandLine

end Typeset
