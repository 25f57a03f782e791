import Typeset.Format
import Typeset.Pattern

/-!
# Jobs

A unit of work: one document in one output format.
-/

namespace Typeset

/-- One document that is to be converted to one format, for an owner.  A label pattern of its own
takes the place of the configured one. -/
structure DocumentJob where
  owner : Text
  fileName : Text
  format : OutputFormat
  markdown : Text
  implicitFigures : Bool
  labelPattern : Option Pattern
  deriving DecidableEq, Repr

namespace DocumentJob

/-- The key under which the result is stored: the owner, and below it the file with the extension
of its format. -/
def storageKey (job : DocumentJob) : Text :=
  job.owner ++ '/' :: job.fileName ++ '.' :: job.format.extension

/-- How the source of the document is read. -/
def inputFormat (job : DocumentJob) : InputFormat :=
  ⟨job.implicitFigures⟩

end DocumentJob

end Typeset
