import Typeset.Format
import Typeset.Path

/-!
# Conversion requests

What an engine is asked to do: read a source in one format and write another, to a file or into
memory.  A conversion that writes to a file can be repeated into memory, for its text.
-/

namespace Typeset

/-- One run of an engine.  Without a destination the result is returned as a text. -/
structure ConversionRequest where
  source : Text
  inputFormat : InputFormat
  outputFormat : OutputFormat
  arguments : List Text
  destination : Option Path
  deriving DecidableEq, Repr

namespace ConversionRequest

/-- The request for the text that the same source is converted to, with other arguments. -/
def forTranscript (request : ConversionRequest) (arguments : List Text) : ConversionRequest :=
  { request with outputFormat := .tex, arguments, destination := none }

/-- The arguments of the command that carries the request out. -/
def commandArguments (request : ConversionRequest) : List Text :=
  ["--from".toList, request.inputFormat.readerName, "--to".toList, "latex".toList] ++
    request.arguments ++
    match request.destination with
    | some path => ["--output".toList, path]
    | none => []

end ConversionRequest

/-- What a successful conversion produced. -/
inductive Artifact where
  | file (path : Path)
  | transcript (text : Text)
  deriving DecidableEq, Repr

/-- How a conversion ended.  A failure may leave the text that was produced before it. -/
inductive ConversionOutcome where
  | success (artifact : Artifact)
  | failure (rawError : Text) (transcript : Option Text)
  deriving DecidableEq, Repr

end Typeset
