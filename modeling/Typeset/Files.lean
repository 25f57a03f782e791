import Typeset.Path

/-!
# Files

The files of a host: directories and regular files at locations.  A path is resolved segment by
segment from the root or from the working directory, and every segment on the way has to be a
directory.  The root is always a directory.
-/

namespace Typeset

/-- Why the host refuses an operation. -/
inductive OsError where
  | notFound
  | permissionDenied
  | alreadyExists
  | notADirectory
  | isADirectory
  | nameTooLong
  | nulInName
  | nulInData
  | notRegular
  | noFreeName
  deriving DecidableEq, Repr

/-- The error in words. -/
def OsError.message : OsError → Text
  | notFound => "No such file or directory (os error 2)".toList
  | permissionDenied => "Permission denied (os error 13)".toList
  | alreadyExists => "File exists (os error 17)".toList
  | notADirectory => "Not a directory (os error 20)".toList
  | isADirectory => "Is a directory (os error 21)".toList
  | nameTooLong => "File name too long (os error 36)".toList
  | nulInName => "file name contained an unexpected NUL byte".toList
  | nulInData => "nul byte found in provided data".toList
  | notRegular =>
      "the source path is neither a regular file nor a symlink to a regular file".toList
  | noFreeName => "too many temporary files exist".toList

/-- What is at a location. -/
inductive Entry where
  | directory
  | file (content : Bytes)
  deriving DecidableEq, Repr

/-- A place in the tree of files: the names on the way from the root. -/
abbrev Location := List Text

/-- The files of a host, and the directory that relative paths start from. -/
structure Files where
  workingDirectory : Location
  entries : List (Location × Entry)
  deriving DecidableEq, Repr

namespace Files

/-- The largest number of bytes of a name. -/
def maxName : Nat := 255

/-- The largest number of bytes of a path. -/
def maxPath : Nat := 4095

/-- What is at a location, if anything is. -/
def entry? (files : Files) (location : Location) : Option Entry :=
  if location = [] then some .directory else files.entries.lookup location

/-- The files with an entry at a location. -/
def put (files : Files) (location : Location) (entry : Entry) : Files :=
  { files with
    entries := (location, entry) :: files.entries.filter fun other => other.1 != location }

/-- The files without the entry at a location. -/
def erase (files : Files) (location : Location) : Files :=
  { files with entries := files.entries.filter fun other => other.1 != location }

/-- Follows segments from a location.  Whatever is gone through has to be a directory; what the
last segment names need not be there. -/
def walk (files : Files) (here : Location) : List Text → Except OsError Location
  | [] => .ok here
  | segment :: segments =>
      match files.entry? here with
      | none => .error .notFound
      | some (.file _) => .error .notADirectory
      | some .directory =>
          if segment = ['.'] then files.walk here segments
          else if segment = ['.', '.'] then files.walk here.dropLast segments
          else if maxName < Text.byteLength segment then .error .nameTooLong
          else files.walk (here ++ [segment]) segments

/-- The location that a path names. -/
def locate (files : Files) (path : Path) : Except OsError Location :=
  if path.contains '\x00' then .error .nulInName
  else if path.isEmpty then .error .notFound
  else if maxPath < Text.byteLength path then .error .nameTooLong
  else files.walk (if Path.isAbsolute path then [] else files.workingDirectory) path.segments

/-- Whether a path ends in a separator, so that it can only name a directory. -/
def namesDirectory (path : Path) : Bool :=
  path.getLast? == some '/'

/-- What a path names. -/
def find (files : Files) (path : Path) : Except OsError Entry := do
  let location ← files.locate path
  match files.entry? location with
  | none => .error .notFound
  | some .directory => .ok .directory
  | some (.file content) =>
      if namesDirectory path then .error .notADirectory else .ok (.file content)

/-- Whether a path names a directory. -/
def isDirectory (files : Files) (path : Path) : Bool :=
  match files.find path with
  | .ok .directory => true
  | _ => false

/-- Whether a path names something. -/
def isPresent (files : Files) (path : Path) : Bool :=
  match files.find path with
  | .ok _ => true
  | .error _ => false

/-- The content of a file. -/
def read (files : Files) (path : Path) : Except OsError Bytes := do
  match ← files.find path with
  | .directory => .error .isADirectory
  | .file content => .ok content

/-- The files with a file at a path, whether or not there has been one. -/
def write (files : Files) (path : Path) (content : Bytes) : Except OsError Files := do
  let location ← files.locate path
  if namesDirectory path || files.entry? location = some .directory then .error .isADirectory
  else .ok (files.put location (.file content))

/-- The files with a new empty file at a path. -/
def create (files : Files) (path : Path) : Except OsError Files := do
  let location ← files.locate path
  if (files.entry? location).isSome then .error .alreadyExists
  else .ok (files.put location (.file []))

/-- The files without the file at a path. -/
def remove (files : Files) (path : Path) : Except OsError Files := do
  match ← files.find path with
  | .directory => .error .isADirectory
  | .file _ => return files.erase (← files.locate path)

/-- The files with a new directory at a path. -/
def makeDirectory (files : Files) (path : Path) : Except OsError Files := do
  let location ← files.locate path
  if (files.entry? location).isSome then .error .alreadyExists
  else .ok (files.put location .directory)

/-- Makes a directory whose parent is there, unless it is there already. -/
def ensureDirectory (files : Files) (path : Path) : Except OsError Files :=
  match files.makeDirectory path with
  | .ok files => .ok files
  | .error error => if files.isDirectory path then .ok files else .error error

/-- Makes a directory and the directories on the way to it, at most `room` of them, unless they are
there already.  Directories that have been made stay after a failure. -/
def makeDirectoriesWithin (files : Files) (path : Path) : Nat → Except OsError Unit × Files
  | 0 => (.error .notFound, files)
  | room + 1 =>
      if path.isEmpty then (.ok (), files)
      else
        match files.ensureDirectory path with
        | .ok files => (.ok (), files)
        | .error .notFound =>
            match path.parent? with
            | none => (.error .notFound, files)
            | some parent =>
                match files.makeDirectoriesWithin parent room with
                | (.error error, files) => (.error error, files)
                | (.ok (), files) =>
                    match files.ensureDirectory path with
                    | .ok files => (.ok (), files)
                    | .error error => (.error error, files)
        | .error error => (.error error, files)

/-- Makes a directory and the directories on the way to it, unless they are there already. -/
def makeDirectories (files : Files) (path : Path) : Except OsError Unit × Files :=
  files.makeDirectoriesWithin path (path.length + 1)

/-- What a file holds when another one has been copied to it.  It is emptied before anything is
copied, and so nothing is left of a file that is copied onto itself. -/
def copied (files : Files) (source destination : Path) (content : Bytes) : Bytes :=
  if (files.locate source).toOption = (files.locate destination).toOption then [] else content

/-- The files with a copy of a file.  The source is opened before the destination. -/
def copy (files : Files) (source destination : Path) : Except OsError Files := do
  match ← files.find source with
  | .directory => .error .notRegular
  | .file content => files.write destination (files.copied source destination content)

/-- What is below a location, each with the way from there. -/
def below (files : Files) (location : Location) : List (Location × Entry) :=
  files.entries.filterMap fun (place, entry) =>
    match location.isPrefixOf? place with
    | some (name :: names) => some (name :: names, entry)
    | _ => none

/-- The path of a location. -/
def pathOf (location : Location) : Path :=
  '/' :: Text.joined ['/'] location

/-- A path that does not depend on the working directory. -/
def absolute (files : Files) (path : Path) : Path :=
  Path.join (pathOf files.workingDirectory) path

end Files

end Typeset
