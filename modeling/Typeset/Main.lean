import Typeset.CommandLine.Session

/-!
# The program

Shows the host's files to a command, lets it run, and makes what it has changed real.  This host
starts no programs and reaches no services: whoever has an engine supplies it as a `Launcher`.
-/

namespace Typeset

namespace Program

open CommandLine

/-- The variables of the environment that commands look at. -/
def readVariables : IO Variables := do
  let names := "TMPDIR".toList :: Flag.all.filterMap Flag.environmentName?
  let found ← names.mapM fun name => do
    let value ← IO.getEnv (String.ofList name)
    return value.map fun value => (name, value.toList)
  return found.filterMap id

/-- Everything that is left on a stream, after what has been read. -/
partial def readAll (stream : IO.FS.Stream) (read : Bytes) : IO Bytes := do
  let block ← stream.read 65536
  if block.isEmpty then return read else readAll stream (read ++ block.toList)

/-- The files with what is at a location of the host, if anything is. -/
def observe (files : Files) (location : Location) : IO Files := do
  let path := (← IO.currentDir) / String.ofList (Files.pathOf location)
  try
    if ← path.isDir then return files.put location .directory
    else return files.put location (.file (← IO.FS.readBinFile path).toList)
  catch _ => return files

/-- The files with what is on the way to a path. -/
def observeWay (files : Files) (path : Path) : IO Files := do
  let names := Path.segments (files.absolute path)
  (List.range names.length).foldlM (fun files count => observe files (names.take (count + 1))) files

/-- The paths that options name. -/
def pathsOf (options : Options) : List Path :=
  (match options.payload with
    | .standardInput => []
    | .file path => [path]) ++
  options.scratchDirectory.toList ++ options.cacheRoot.toList ++ [options.outputDirectory]

/-- The files that a command can see. -/
def observeFor (options : Options) (temporary : Path) : IO Files := do
  let here := Path.segments (← IO.currentDir).toString.toList
  let files : Files := ⟨here, []⟩
  (['.'] :: temporary :: pathsOf options).foldlM observeWay files

/-- Makes the difference between files real. -/
def realize (before after : Files) : IO Unit := do
  for (location, entry) in after.entries.reverse do
    if before.entries.lookup location != some entry then
      let path := String.ofList (Files.pathOf location)
      match entry with
      | .directory => IO.FS.createDirAll path
      | .file content => IO.FS.writeBinFile path ⟨content.toArray⟩
  for (location, _) in before.entries do
    if (after.entry? location).isNone then
      IO.FS.removeFile (String.ofList (Files.pathOf location))

/-- The stamps for scratch files that start at a time and at a number. -/
def stampsFrom (millis number attempt : Nat) : Scratch.Stamp :=
  let random := Text.ofNat (number + attempt)
  if alphanum : random.all Char.isAlphanum = true then ⟨millis, random, alphanum⟩
  else ⟨millis, [], rfl⟩

/-- The host of a command: it starts no programs and reaches no services. -/
def host (temporary : Path) (standardInput : Bytes) (stamps : Nat → Scratch.Stamp) : Host where
  temporary := temporary
  standardInput := standardInput
  engine program := .ofProgram program fun _ _ files => (.error .notFound, files)
  storage target := target.storage fun _ _ => none
  stamps := stamps

/-- The options of a command line that asks for a conversion. -/
def optionsOf (arguments : List Text) (defined : Variables) : Option Options :=
  match command arguments defined with
  | .ok (.convert options) => some options
  | _ => none

/-- Runs a command line and makes what it has changed real. -/
def runArguments (arguments : List Text) : IO Outcome := do
  let defined ← readVariables
  let temporary := (List.lookup "TMPDIR".toList defined).getD "/tmp".toList
  let options := optionsOf arguments defined
  let before ← match options with
    | some options => observeFor options temporary
    | none => pure ⟨[], []⟩
  let standardInput ←
    if options.any (·.payload == .standardInput) then readAll (← IO.getStdin) [] else pure []
  let stamps := stampsFrom (← IO.monoMsNow) (← IO.rand 100000 899999)
  let host := host temporary standardInput stamps
  let (outcome, world) := (CommandLine.run arguments defined host).run ⟨before, [], []⟩
  realize before world.files
  return outcome

end Program

end Typeset

/-- Does what the command line asks for. -/
def main (arguments : List String) : IO UInt32 := do
  let outcome ← Typeset.Program.runArguments (arguments.map String.toList)
  (← IO.getStderr).putStr (String.ofList outcome.errors)
  (← IO.getStdout).putStr (String.ofList outcome.output)
  return outcome.exitCode.toUInt32
