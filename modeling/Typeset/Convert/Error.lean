import Typeset.Config.Basic
import Typeset.Diagnosis
import Typeset.Scratch
import Typeset.Storage.Error

/-!
# Failed conversions

Why a document that was well formed could not be turned into an uploaded artifact.
-/

namespace Typeset

/-- Why a document could not be converted and uploaded. -/
inductive ConvertError where
  | generation (fileName : Text) (diagnosis : Diagnosis)
  | storage (fileName key : Text) (source : StorageError)
  | scratch (directory : Path) (source : Scratch.Error)
  | environment (source : OsError)
  | configuration (source : ConfigurationError)
  deriving DecidableEq, Repr

namespace ConvertError

/-- The error in words. -/
def message : ConvertError → Text
  | generation _ diagnosis => diagnosis.message
  | storage fileName key source =>
      "Failed to upload '".toList ++ fileName ++ "' as '".toList ++ key ++ "': ".toList ++
        source.message
  | scratch directory source =>
      "Cannot create a scratch file in '".toList ++ directory ++ "': ".toList ++ source.message
  | environment source => "Cannot prepare the engine environment: ".toList ++ source.message
  | configuration source => "Invalid configuration: ".toList ++ source.message

/-- The status that a failed conversion is answered with. -/
def status : Nat := 500

/-- The diagnosis, if the engine rejected the document. -/
def diagnosis? : ConvertError → Option Diagnosis
  | generation _ diagnosis => some diagnosis
  | _ => none

/-- The document that the error belongs to, if there is one. -/
def fileName? : ConvertError → Option Text
  | generation fileName _ => some fileName
  | storage fileName _ _ => some fileName
  | _ => none

end ConvertError

end Typeset
