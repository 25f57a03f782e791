import Typeset.CommandLine.Options

/-!
# Reading the command line

Arguments are read from left to right.  A flag whose value is another argument is settled only when
the next flag or the payload is met, or at the end; so of two mistakes an unknown argument can be
reported before a missing or repeated value to its left.  After `--` every argument is taken as it
is.  Environment variables are looked at after the arguments, and only for flags that have not been
given.
-/

namespace Typeset

namespace CommandLine

/-- Why a command line cannot be followed. -/
inductive UsageError where
  | nothingGiven
  | noPayload
  | unexpectedArgument (argument : Text)
  | unexpectedValue (flag : Flag) (value : Text)
  | missingValue (flag : Flag)
  | invalidSwitch (flag : Flag) (value : Text)
  | repeated (flag : Flag)
  deriving DecidableEq, Repr

/-- What a command line can ask for. -/
inductive Command where
  | convert (options : Options)
  | showHelp
  | showVersion
  deriving DecidableEq, Repr

/-- Why reading ends before the last argument. -/
inductive Stop where
  | failed (error : UsageError)
  | asked (command : Command)
  deriving DecidableEq, Repr

/-- A flag whose value is another argument, and the value, if it has come already. -/
structure Pending where
  flag : Flag
  value : Option Text
  deriving DecidableEq, Repr

/-- What has been read: the flags and the payload, a flag that is not settled yet, and whether all
further arguments are taken as they are. -/
structure Reading where
  given : Given
  payload : Option Text
  pending : Option Pending
  verbatim : Bool
  deriving DecidableEq, Repr

namespace Reading

/-- Nothing has been read. -/
def start : Reading := ⟨[], none, none, false⟩

/-- Adds a flag with its value to those that have been given. -/
def give (given : Given) (flag : Flag) (value : Text) : Except UsageError Given :=
  match flag.kind with
  | .path => if value.isEmpty then .error (.missingValue flag) else .ok (given ++ [(flag, value)])
  | .switch =>
      if value = "true".toList || value = "false".toList then .ok (given ++ [(flag, value)])
      else if value.isEmpty then .error (.missingValue flag)
      else .error (.invalidSwitch flag value)
  | _ => .ok (given ++ [(flag, value)])

/-- Adds a flag that must not be there already. -/
def giveOnce (given : Given) (flag : Flag) (value : Text) : Except UsageError Given :=
  if (given.value? flag).isSome then .error (.repeated flag) else give given flag value

/-- Settles the flag that is not settled yet. -/
def settle (reading : Reading) : Except UsageError Reading :=
  match reading.pending with
  | none => .ok reading
  | some ⟨flag, none⟩ => .error (.missingValue flag)
  | some ⟨flag, some value⟩ => do
      let given ← giveOnce reading.given flag value
      return { reading with given, pending := none }

/-- Reads a flag together with its value. -/
def takeWithValue (reading : Reading) (flag : Flag) (value : Text) : Except UsageError Reading := do
  let reading ← reading.settle
  let given ← giveOnce reading.given flag value
  return { reading with given }

/-- Reads a flag whose value is the next argument. -/
def takeBeforeValue (reading : Reading) (flag : Flag) : Except UsageError Reading := do
  let reading ← reading.settle
  return { reading with pending := some ⟨flag, none⟩ }

/-- Reads a flag that no value belongs to. -/
def takeAlone (reading : Reading) (flag : Flag) : Except Stop Reading :=
  match reading.settle with
  | .error error => .error (.failed error)
  | .ok reading =>
      match flag with
      | .help => .error (.asked .showHelp)
      | .version => .error (.asked .showVersion)
      | flag =>
          match giveOnce reading.given flag "true".toList with
          | .error error => .error (.failed error)
          | .ok given => .ok { reading with given }

/-- A result that ends the reading if it is a mistake. -/
def orFail : Except UsageError Reading → Except Stop Reading :=
  Except.mapError .failed

/-- Reads a flag by its name, and the value, if one came with it. -/
def takeNamed (reading : Reading) (name : Text) (value : Option Text) : Except Stop Reading :=
  match Flag.ofName? name with
  | none => .error (.failed (.unexpectedArgument ("--".toList ++ name)))
  | some flag =>
      match flag.takesValue, value with
      | true, some value => orFail (reading.takeWithValue flag value)
      | true, none => orFail (reading.takeBeforeValue flag)
      | false, some value => .error (.failed (.unexpectedValue flag value))
      | false, none => reading.takeAlone flag

/-- Reads flags by their letters.  What follows the letter of a flag with a value is the value. -/
def takeLetters (reading : Reading) : Text → Except Stop Reading
  | [] => .ok reading
  | letter :: rest =>
      match Flag.ofLetter? letter with
      | none => .error (.failed (.unexpectedArgument ['-', letter]))
      | some flag =>
          if flag.takesValue then
            match rest with
            | [] => orFail (reading.takeBeforeValue flag)
            | '=' :: value => orFail (reading.takeWithValue flag value)
            | value => orFail (reading.takeWithValue flag value)
          else
            match reading.takeAlone flag with
            | .error stop => .error stop
            | .ok reading => reading.takeLetters rest

/-- Reads an argument that is no flag: a value that is awaited, or the payload. -/
def takePlain (reading : Reading) (argument : Text) : Except Stop Reading :=
  match reading.pending, reading.verbatim with
  | some ⟨flag, none⟩, false => .ok { reading with pending := some ⟨flag, some argument⟩ }
  | _, _ =>
      if reading.payload.isSome then .error (.failed (.unexpectedArgument argument))
      else
        match reading.settle with
        | .error error => .error (.failed error)
        | .ok reading => .ok { reading with payload := some argument }

/-- The name and the value in a text such as `name=value`. -/
def splitValue (text : Text) : Text × Option Text :=
  match text.dropWhile (· != '=') with
  | [] => (text, none)
  | _ :: value => (text.takeWhile (· != '='), some value)

/-- Reads one argument. -/
def take (reading : Reading) (argument : Text) : Except Stop Reading :=
  if reading.verbatim then reading.takePlain argument
  else
    match argument with
    | ['-', '-'] => .ok { reading with verbatim := true }
    | '-' :: '-' :: text => reading.takeNamed (splitValue text).1 (splitValue text).2
    | ['-'] => reading.takePlain argument
    | '-' :: letters => reading.takeLetters letters
    | _ => reading.takePlain argument

/-- Reads arguments, one after another. -/
def takeAll (reading : Reading) (arguments : List Text) : Except Stop Reading :=
  arguments.foldlM take reading

end Reading

/-- The variables of the environment. -/
abbrev Variables := List (Text × Text)

/-- The flags that have been given, with those that only the environment gives. -/
def Given.withVariables (given : Given) (defined : Variables) :
    List Flag → Except UsageError Given
  | [] => .ok given
  | flag :: flags =>
      match given.value? flag, flag.environmentName?.bind fun name => List.lookup name defined with
      | none, some value => do
          let given ← Reading.give given flag value
          given.withVariables defined flags
      | _, _ => given.withVariables defined flags

/-- What has been asked for, once all arguments have been read. -/
def Reading.finish (reading : Reading) (defined : Variables) : Except UsageError Command := do
  let reading ← reading.settle
  let given ← reading.given.withVariables defined Flag.all
  match reading.payload with
  | some payload => return .convert (given.options payload)
  | none => if given.isEmpty then throw .nothingGiven else throw .noPayload

/-- What a command line asks for. -/
def command (arguments : List Text) (defined : Variables) : Except UsageError Command :=
  match Reading.start.takeAll arguments with
  | .error (.failed error) => .error error
  | .error (.asked command) => .ok command
  | .ok reading => reading.finish defined

/-- What the program is, in one line. -/
def about : Text :=
  "Convert markdown to PDF/LaTeX with pandoc and localize build errors".toList

/-- A line of the help about a flag. -/
def helpLine (flag : Flag) : Text :=
  let letter := match flag.letter? with
    | some letter => ['-', letter, ',', ' ']
    | none => "    ".toList
  let start := "  ".toList ++ letter ++ flag.display
  start ++ List.replicate (38 - start.length) ' ' ++ "  ".toList ++ flag.summary

/-- How the program is used. -/
def usage : Text :=
  "Usage: md2pdf [OPTIONS] <PAYLOAD>".toList

/-- The help. -/
def help : Text :=
  Text.joined ['\n']
    ([about, [], usage, [], "Arguments:".toList,
      "  <PAYLOAD>  JSON request payload file, or - for stdin".toList, [], "Options:".toList] ++
      Flag.all.map helpLine ++ [[]])

/-- The name of the program and its version. -/
def versionLine : Text :=
  "md2pdf 0.3.0\n".toList

/-- The error in words. -/
def UsageError.message : UsageError → Text
  | nothingGiven => help
  | noPayload =>
      "error: the following required arguments were not provided:\n  <PAYLOAD>\n".toList
  | unexpectedArgument argument =>
      "error: unexpected argument '".toList ++ argument ++ "' found\n".toList
  | unexpectedValue flag value =>
      "error: unexpected value '".toList ++ value ++ "' for '".toList ++ flag.display ++
        "' found; no more were expected\n".toList
  | missingValue flag =>
      "error: a value is required for '".toList ++ flag.display ++
        "' but none was supplied\n".toList
  | invalidSwitch flag value =>
      "error: invalid value '".toList ++ value ++ "' for '".toList ++ flag.display ++
        "'\n  [possible values: true, false]\n".toList
  | repeated flag =>
      "error: the argument '".toList ++ flag.display ++
        "' cannot be used multiple times\n".toList

end CommandLine

end Typeset
