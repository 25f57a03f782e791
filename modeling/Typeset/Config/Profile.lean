import Typeset.Format
import Typeset.Path

/-!
# Profiles

How documents are read, and with which arguments the engine is run for each output format.  The
text of a failed document is produced with arguments of its own.  A template goes with every run.
-/

namespace Typeset

open Json (Value Reader)

/-- How documents are read and with which arguments the engine is run. -/
structure FormatProfile where
  implicitFigures : Bool
  pdfArguments : List Text
  texArguments : List Text
  transcriptArguments : List Text
  template : Option Path
  deriving DecidableEq, Repr

namespace FormatProfile

/-- The argument that chooses the program for PDF documents. -/
def pdfEngineArgument (engine : Text) : Text :=
  "--pdf-engine=".toList ++ engine

/-- The argument that chooses a template. -/
def templateArgument (template : Path) : Text :=
  "--template=".toList ++ template

/-- The profile that is used unless something else is configured. -/
def standard : FormatProfile where
  implicitFigures := false
  pdfArguments := [pdfEngineArgument "xelatex".toList]
  texArguments := ["--standalone".toList]
  transcriptArguments := ["--standalone".toList]
  template := none

/-- Arguments with the template, if there is one, at the end. -/
def withTemplate (profile : FormatProfile) (arguments : List Text) : List Text :=
  match profile.template with
  | some template => arguments ++ [templateArgument template]
  | none => arguments

/-- The arguments for a run that writes a file. -/
def fileRun (profile : FormatProfile) (format : OutputFormat) : List Text :=
  profile.withTemplate
    (match format with
      | .pdf => profile.pdfArguments
      | .tex => profile.texArguments)

/-- The arguments for a run that returns a text. -/
def transcriptRun (profile : FormatProfile) : List Text :=
  profile.withTemplate profile.transcriptArguments

/-- The profile as JSON. -/
def toJson (profile : FormatProfile) : Value :=
  .object
    [("implicit_figures".toList, .boolean profile.implicitFigures),
      ("pdf_args".toList, .ofTexts profile.pdfArguments),
      ("tex_args".toList, .ofTexts profile.texArguments),
      ("transcript_args".toList, .ofTexts profile.transcriptArguments),
      ("template".toList, .ofText? profile.template)]

/-- The members of a profile that have been read. -/
structure Partial where
  implicitFigures : Option Bool
  pdfArguments : Option (List Text)
  texArguments : Option (List Text)
  transcriptArguments : Option (List Text)
  template : Option (Option Path)

/-- A profile as a record, given how deep its members may go. -/
def record (depth : Nat) : Reader.Record Partial FormatProfile where
  name := "FormatProfile".toList
  members :=
    [⟨"implicit_figures".toList, (·.implicitFigures.isSome),
        fun state => return { state with implicitFigures := some (← Reader.boolean) }⟩,
      ⟨"pdf_args".toList, (·.pdfArguments.isSome),
        fun state => return { state with pdfArguments := some (← texts) }⟩,
      ⟨"tex_args".toList, (·.texArguments.isSome),
        fun state => return { state with texArguments := some (← texts) }⟩,
      ⟨"transcript_args".toList, (·.transcriptArguments.isSome),
        fun state => return { state with transcriptArguments := some (← texts) }⟩,
      ⟨"template".toList, (·.template.isSome),
        fun state => return { state with template := some (← Reader.optional Reader.path) }⟩]
  unread := ⟨none, none, none, none, none⟩
  complete := fun state => do
    return {
      implicitFigures := ← Reader.Record.required "implicit_figures" state.implicitFigures
      pdfArguments := ← Reader.Record.required "pdf_args" state.pdfArguments
      texArguments := ← Reader.Record.required "tex_args" state.texArguments
      transcriptArguments := ← Reader.Record.required "transcript_args" state.transcriptArguments
      template := state.template.join }
where
  /-- A list of texts. -/
  texts : Reader (List Text) := Reader.list depth Reader.text

/-- Reads a profile. -/
def reader (depth : Nat) : Reader FormatProfile :=
  (record (depth - 1)).reader depth

/-- The profile that a JSON text holds. -/
def ofJson (document : Text) : Except Json.Failure FormatProfile :=
  Reader.whole (reader Reader.depthLimit) document

end FormatProfile

end Typeset
