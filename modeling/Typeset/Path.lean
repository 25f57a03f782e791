import Typeset.Format
import Typeset.Text.Basic

/-!
# Paths

A path is the text that names a file.  It is kept as it was given, because messages show it; only
when a file is looked for is it taken apart.
-/

namespace Typeset

/-- The text that names a file. -/
abbrev Path := Text

namespace Path

/-- Whether the path starts at the root. -/
def isAbsolute (path : Path) : Bool :=
  path.head? == some '/'

/-- A path below a base; an absolute path stays as it is. -/
def join (base tail : Path) : Path :=
  if isAbsolute tail then tail
  else if base.isEmpty || base.getLast? == some '/' then base ++ tail
  else base ++ '/' :: tail

/-- The segments between separators; empty ones do not count. -/
def segments (path : Path) : List Text :=
  (Text.splitAt '/' path).filter (!·.isEmpty)

/-- A reversed path without the separators and lone dots at its end. -/
def trimReversed : Text → Text
  | [] => []
  | ['/'] => ['/']
  | '/' :: rest => trimReversed rest
  | '.' :: '/' :: rest => trimReversed ('/' :: rest)
  | path => path

/-- The path without its last segment; the root and the empty path have no parent. -/
def parent? (path : Path) : Option Path :=
  match trimReversed path.reverse with
  | [] => none
  | ['/'] => none
  | trimmed => some (trimReversed (trimmed.dropWhile (· != '/'))).reverse

/-- The last segment, unless it is one of dots. -/
def fileName? (path : Path) : Option Text :=
  let name := ((trimReversed path.reverse).takeWhile (· != '/')).reverse
  if name.isEmpty || name = ['.'] || name = ['.', '.'] then none else some name

/-- What follows the last dot of the last segment.  A dot that the segment begins with does not
count. -/
def extension? (path : Path) : Option Text := do
  let name ← fileName? path
  let reversed := name.reverse
  match reversed.dropWhile (· != '.') with
  | [] => none
  | [_] => none
  | _ => some (reversed.takeWhile (· != '.')).reverse

/-- The media type of the file at a path, told by its extension. -/
def contentType (path : Path) : Text :=
  match extension? path with
  | some extension =>
      if extension = OutputFormat.pdf.extension then OutputFormat.pdf.contentType
      else if extension = OutputFormat.tex.extension then OutputFormat.tex.contentType
      else "application/octet-stream".toList
  | none => "application/octet-stream".toList

end Path

end Typeset
