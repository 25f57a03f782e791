import Typeset.Json.Typed
import Typeset.Json.Value

/-!
# Formats

What a document is converted to, which conversions a request may ask for, and how the source is
read.
-/

namespace Typeset

open Json (Value Reader)

/-- What a document is converted to. -/
inductive OutputFormat where
  | pdf
  | tex
  deriving DecidableEq, Repr

namespace OutputFormat

/-- The extension of files of the format. -/
def extension : OutputFormat → Text
  | pdf => "pdf".toList
  | tex => "tex".toList

/-- The media type of the format. -/
def contentType : OutputFormat → Text
  | pdf => "application/pdf".toList
  | tex => "application/x-tex".toList

/-- The name of the format in requests and responses. -/
def name : OutputFormat → Text
  | pdf => "PDF".toList
  | tex => "TEX".toList

/-- The format as JSON. -/
def toJson (format : OutputFormat) : Value :=
  .text format.name

/-- Reads a format. -/
def reader (depth : Nat) : Reader OutputFormat :=
  Reader.variant depth [(pdf.name, pdf), (tex.name, tex)]

end OutputFormat

/-- What a request may ask for: one format, or a PDF document and then its source. -/
inductive FileType where
  | pdf
  | tex
  | all
  deriving DecidableEq, Repr

namespace FileType

/-- The formats to generate, in order. -/
def formats : FileType → List OutputFormat
  | pdf => [.pdf]
  | tex => [.tex]
  | all => [.pdf, .tex]

/-- The name of the file type in requests. -/
def name : FileType → Text
  | pdf => "PDF".toList
  | tex => "TEX".toList
  | all => "ALL".toList

/-- The file type as JSON. -/
def toJson (fileType : FileType) : Value :=
  .text fileType.name

/-- Reads a file type. -/
def reader (depth : Nat) : Reader FileType :=
  Reader.variant depth [(pdf.name, pdf), (tex.name, tex), (all.name, all)]

end FileType

/-- How the source is read: whether an image that stands alone becomes a figure with a caption. -/
structure InputFormat where
  implicitFigures : Bool
  deriving DecidableEq, Repr

namespace InputFormat

/-- The name under which the engine knows the input format. -/
def readerName (format : InputFormat) : Text :=
  if format.implicitFigures then "markdown".toList else "markdown-implicit_figures".toList

/-- The input format as JSON. -/
def toJson (format : InputFormat) : Value :=
  .object [("implicit_figures".toList, .boolean format.implicitFigures)]

/-- The input format as a record. -/
def record : Reader.Record (Option Bool) InputFormat where
  name := "InputFormat".toList
  members :=
    [⟨"implicit_figures".toList, Option.isSome, fun _ => return some (← Reader.boolean)⟩]
  unread := none
  complete := fun implicitFigures => do
    return ⟨← Reader.Record.required "implicit_figures" implicitFigures⟩

/-- Reads an input format. -/
def reader (depth : Nat) : Reader InputFormat :=
  record.reader depth

end InputFormat

end Typeset
