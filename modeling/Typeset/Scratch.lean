import Typeset.Files
import Typeset.Format
import Typeset.Text.Quoted

/-!
# Scratch files

The engine writes each document to a file in the scratch directory before it is uploaded.  The
directory is shared, so a name combines the owner, the document, a time and a random part, and it
is reserved by creating the file.  If a name is taken already, the next one is tried.
-/

namespace Typeset

namespace Scratch

/-- Whether a character can be part of a scratch name as it is. -/
def isSafe (char : Char) : Bool :=
  char.isAlphanum || char == '-' || char == '_'

/-- An owner or a document as part of a file name: one character for each character, and at least
one. -/
def sanitize (raw : Text) : Text :=
  match raw with
  | [] => ['_']
  | raw => raw.map fun char => if isSafe char then char else '_'

/-- What makes a scratch name unique: the time in milliseconds, and a random part of letters and
digits. -/
structure Stamp where
  millis : Nat
  random : Text
  random_alphanum : random.all Char.isAlphanum = true

/-- The name of a scratch file. -/
def fileName (owner document : Text) (format : OutputFormat) (stamp : Stamp) : Text :=
  sanitize owner ++ '-' :: sanitize document ++ '-' :: Text.ofNat stamp.millis ++
    '-' :: stamp.random ++ '.' :: format.extension

/-- Why a scratch file could not be made or released. -/
structure Error where
  error : OsError
  path : Path
  deriving DecidableEq, Repr

/-- The error in words. -/
def Error.message (error : Error) : Text :=
  error.error.message ++ " at path ".toList ++ Text.quoted error.path

/-- How many names are tried. -/
def maxAttempts : Nat := 65536

/-- Reserves a file in a directory under the first free one of the names that the stamps from
`attempt` on give; `more` of them are left. -/
def reserve (directory : Path) (name : Stamp → Text) (stamps : Nat → Stamp) (files : Files)
    (attempt : Nat) : Nat → Except Error (Path × Files)
  | 0 => .error ⟨.noFreeName, directory⟩
  | more + 1 =>
      let path := Path.join directory (name (stamps attempt))
      match files.create path with
      | .ok files => .ok (path, files)
      | .error .alreadyExists => reserve directory name stamps files (attempt + 1) more
      | .error error => .error ⟨error, path⟩

/-- Reserves a scratch file for a document of an owner. -/
def create (directory : Path) (owner document : Text) (format : OutputFormat)
    (stamps : Nat → Stamp) (files : Files) : Except Error (Path × Files) :=
  reserve (files.absolute directory) (fileName owner document format) stamps files 0 maxAttempts

/-- Deletes a scratch file. -/
def release (path : Path) (files : Files) : Except Error Files :=
  match files.remove path with
  | .ok files => .ok files
  | .error error => .error ⟨error, path⟩

end Scratch

end Typeset
