import Typeset.Config.Basic
import Typeset.Text.Quoted

/-!
# Listings

Everything that a configuration says, in one line, for people who look for a mistake in it.
-/

namespace Typeset

namespace Listing

/-- A value with named parts. -/
def named (name : String) (parts : List (String × Text)) : Text :=
  name.toList ++ " \x7b ".toList ++
    Text.joined ", ".toList (parts.map fun (part, value) => part.toList ++ ": ".toList ++ value) ++
    " \x7d".toList

/-- A truth value. -/
def ofBool (value : Bool) : Text :=
  if value then "true".toList else "false".toList

/-- A list of texts. -/
def ofTexts (values : List Text) : Text :=
  '[' :: Text.joined ", ".toList (values.map Text.quoted) ++ [']']

/-- A text that may be missing. -/
def ofText? : Option Text → Text
  | some value => "Some(".toList ++ value.quoted ++ [')']
  | none => "None".toList

end Listing

/-- The profile in one line. -/
def FormatProfile.listing (profile : FormatProfile) : Text :=
  Listing.named "FormatProfile"
    [("implicit_figures", Listing.ofBool profile.implicitFigures),
      ("pdf_args", Listing.ofTexts profile.pdfArguments),
      ("tex_args", Listing.ofTexts profile.texArguments),
      ("transcript_args", Listing.ofTexts profile.transcriptArguments),
      ("template", Listing.ofText? profile.template)]

/-- The environment in one line. -/
def EngineEnvironment.listing (environment : EngineEnvironment) : Text :=
  Listing.named "EngineEnvironment"
    [("home_dir", Text.quoted environment.home), ("cache_dir", Text.quoted environment.cache),
      ("texmf_var_dir", Text.quoted environment.texmfVar)]

/-- The configuration in one line.  Of an observer it only says that there is one. -/
def Configuration.listing (configuration : Configuration) : Text :=
  Listing.named "ConversionConfig"
    [("scratch_dir", Text.quoted configuration.scratchDirectory),
      ("label_pattern", configuration.labelPattern.source.quoted),
      ("show_debug", Listing.ofBool configuration.showDebug),
      ("profile", configuration.profile.listing),
      ("environment", configuration.environment.listing),
      ("progress_callback",
        Listing.ofText?
          (configuration.observer.map fun _ => "<dyn ConversionProgressCallback>".toList))]

/-- What has been set so far, in one line. -/
def Configuration.Builder.listing (builder : Configuration.Builder) : Text :=
  Listing.named "ConversionConfigBuilder"
    [("config", builder.configuration.listing),
      ("label_pattern", Listing.ofText? builder.labelPattern)]

end Typeset
