import Typeset.CommandLine.Arguments
import Typeset.CommandLine.Setup
import Typeset.Libraries
import Typeset.Service

/-!
# What a command does

A command ends with an exit code and with what it has written to standard output and to standard
error.  Standard output holds the response to the payload and nothing else; how the conversion went
on is told on standard error.
-/

namespace Typeset

namespace CommandLine

/-- How a command has ended. -/
structure Outcome where
  exitCode : Nat
  output : Text
  errors : Text
  deriving DecidableEq, Repr

/-- The exit code for a response: 0 if all went well, 2 if the payload was refused, 1 otherwise. -/
def exitCode (response : Response) : Nat :=
  if response.isSuccess then 0
  else if 400 ≤ response.status && response.status < 500 then 2
  else 1

namespace Progress

/-- A text in green. -/
def green (text : Text) : Text := "\x1b[32m".toList ++ text ++ "\x1b[0m".toList

/-- A text in red. -/
def red (text : Text) : Text := "\x1b[31m".toList ++ text ++ "\x1b[0m".toList

/-- A text in bold. -/
def bold (text : Text) : Text := "\x1b[1m".toList ++ text ++ "\x1b[0m".toList

/-- Whether a document has failed. -/
def isFailure : Event → Bool
  | .error _ _ => true
  | _ => false

/-- The lines about batches that have ended, where `failed` says that a document has failed before.
-/
def summaryFrom (failed : Bool) : List Event → Text
  | [] => []
  | .batchComplete total uploaded :: events =>
      let count := bold (Text.ofNat uploaded)
      let line :=
        if failed then
          red "✘".toList ++ ' ' :: count ++ '/' :: Text.ofNat total ++
            " document(s) uploaded before the failure\n".toList
        else green "✔".toList ++ ' ' :: count ++ " document(s) uploaded\n".toList
      line ++ summaryFrom failed events
  | event :: events => summaryFrom (failed || isFailure event) events

/-- The lines about batches that have ended. -/
def summary (events : List Event) : Text :=
  summaryFrom false events

end Progress

/-- A response as it is printed. -/
def printed (response : Response) : Text :=
  response.toJson.pretty 0 ++ ['\n']

/-- Answers a payload. -/
def respond [Pattern.Sizes] (converter : Converter) (batch : Bool) (payload : Text) :
    Run Response :=
  if batch then converter.handleBatch payload else converter.handleSingle payload

/-- Does what options ask for. -/
def convert [Pattern.Sizes] (options : Options) (host : Host) : Run Outcome := do
  match options.setup host (← get).files with
  | .error error => return ⟨1, [], error.message⟩
  | .ok (payload, converter) =>
      let response ← respond converter options.batch payload
      return ⟨exitCode response, printed response, Progress.summary (← get).events⟩

/-- Does what a command line asks for. -/
def run [Pattern.Sizes] (arguments : List Text) (defined : Variables) (host : Host) : Run Outcome :=
  match command arguments defined with
  | .error error => return ⟨2, [], error.message⟩
  | .ok .showHelp => return ⟨0, help, []⟩
  | .ok .showVersion => return ⟨0, versionLine, []⟩
  | .ok (.convert options) => convert options host

end CommandLine

end Typeset
