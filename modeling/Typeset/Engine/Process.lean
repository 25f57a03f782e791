import Typeset.Config.Environment
import Typeset.Engine.Request
import Typeset.Text.Blank
import Typeset.Text.Utf8

/-!
# Engines that are programs

An engine can be a program that is run once for every request.  It gets the source on its standard
input; what it writes and how it ends decide the outcome.  How a program runs is up to the host,
which may change files on the way.
-/

namespace Typeset

/-- What a program is started with. -/
structure Invocation where
  program : Path
  arguments : List Text
  environment : List (Text × Path)
  input : Text
  deriving DecidableEq, Repr

/-- How a program ends: by itself, or by a signal that may make the host dump its core. -/
inductive ExitStatus where
  | exited (code : Nat)
  | killed (signal : Nat) (dumpsCore : Bool := false)
  deriving DecidableEq, Repr

namespace ExitStatus

/-- Whether the program has done what it should. -/
def isSuccess (status : ExitStatus) : Bool :=
  status == exited 0

/-- The names of the signals, from the first on. -/
def signalNames : List String :=
  ["SIGHUP", "SIGINT", "SIGQUIT", "SIGILL", "SIGTRAP", "SIGABRT", "SIGBUS", "SIGFPE", "SIGKILL",
    "SIGUSR1", "SIGSEGV", "SIGUSR2", "SIGPIPE", "SIGALRM", "SIGTERM", "SIGSTKFLT", "SIGCHLD",
    "SIGCONT", "SIGSTOP", "SIGTSTP", "SIGTTIN", "SIGTTOU", "SIGURG", "SIGXCPU", "SIGXFSZ",
    "SIGVTALRM", "SIGPROF", "SIGWINCH", "SIGIO", "SIGPWR", "SIGSYS"]

/-- The name of a signal in brackets, if it has one. -/
def signalName (signal : Nat) : Text :=
  match signalNames[signal - 1]? with
  | some name => if signal = 0 then [] else " (".toList ++ name.toList ++ [')']
  | none => []

/-- The status in words. -/
def message : ExitStatus → Text
  | exited code => "exit status: ".toList ++ Text.ofNat code
  | killed signal dumpsCore =>
      "signal: ".toList ++ Text.ofNat signal ++ signalName signal ++
        if dumpsCore then " (core dumped)".toList else []

end ExitStatus

/-- What a program has written, how it ended, and whether it took all of its input. -/
structure Finished where
  status : ExitStatus
  output : Bytes
  errors : Bytes
  tookInput : Bool
  deriving DecidableEq, Repr

/-- How the host runs programs. -/
abbrev Launcher := Invocation → Files → Except OsError Finished × Files

/-- An engine that is a program.  `leading` are arguments that come before those of the request. -/
structure EngineProgram where
  program : Path
  leading : List Text
  environment : EngineEnvironment
  deriving DecidableEq, Repr

namespace EngineProgram

/-- What the program is started with for a request. -/
def invocation (engine : EngineProgram) (request : ConversionRequest) : Invocation where
  program := engine.program
  arguments := engine.leading ++ request.commandArguments
  environment := engine.environment.assignments
  input := request.source

/-- Whether an invocation holds a character that no argument can carry. -/
def holdsNul (invocation : Invocation) : Bool :=
  invocation.program.contains '\x00' || invocation.arguments.any (·.contains '\x00') ||
    invocation.environment.any (·.2.contains '\x00')

/-- The error text of a program that failed. -/
def errorText (finished : Finished) : Text :=
  let written := (Utf8.decode finished.errors).trim
  if written.isEmpty then "Engine exited with ".toList ++ finished.status.message else written

/-- The error text if the program could not be started. -/
def startErrorText (program : Path) (error : OsError) : Text :=
  "Failed to start '".toList ++ program ++ "': ".toList ++ error.message

/-- The outcome of a run that has ended. -/
def outcome (request : ConversionRequest) (finished : Finished) : ConversionOutcome :=
  let output := Utf8.decode finished.output
  if finished.status.isSuccess then
    match request.destination with
    | some path => .success (.file path)
    | none => .success (.transcript output)
  else
    .failure (errorText finished)
      (if request.destination.isNone && !output.isEmpty then some output else none)

/-- Runs the program for a request. -/
def generate (engine : EngineProgram) (launch : Launcher) (request : ConversionRequest)
    (files : Files) : ConversionOutcome × Files :=
  let invocation := engine.invocation request
  if holdsNul invocation then
    (.failure (startErrorText engine.program .nulInData) none, files)
  else
    match launch invocation files with
    | (.error error, files) => (.failure (startErrorText engine.program error) none, files)
    | (.ok finished, files) => (outcome request finished, files)

end EngineProgram

end Typeset
