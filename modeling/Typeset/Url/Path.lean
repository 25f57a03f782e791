import Typeset.Url.Percent

/-!
# Paths of URLs

A path is read segment by segment.  A segment of one dot stands for nothing, and a segment of two
dots takes back the segment before it; what is kept is the path without such segments.  Drive
letters, such as `C:`, are never taken back from the path of a file.
-/

namespace Typeset

/-- The kinds of schemes: web addresses have a host and treat backslashes as separators, files may
lack a host, and everything else is read as it stands. -/
inductive SchemeKind where
  | web
  | file
  | other
  deriving DecidableEq, Repr

namespace SchemeKind

/-- The kind of a scheme. -/
def ofScheme (scheme : Text) : SchemeKind :=
  if ["http", "https", "ws", "wss", "ftp"].any (·.toList == scheme) then web
  else if scheme = "file".toList then file
  else other

/-- Whether backslashes separate segments. -/
def isSpecial (kind : SchemeKind) : Bool :=
  kind != other

/-- Whether a character separates segments. -/
def separates (kind : SchemeKind) (char : Char) : Bool :=
  char == '/' || (char == '\\' && kind.isSpecial)

/-- Reserved in a single segment of a path. -/
def segmentReserved (kind : SchemeKind) : List Char :=
  if kind.isSpecial then Percent.webSegment else Percent.segment

/-- Reserved in a query. -/
def queryReserved (kind : SchemeKind) : List Char :=
  if kind.isSpecial then Percent.webQuery else Percent.query

end SchemeKind

namespace UrlPath

/-- Whether a segment is two dots, each of which may be encoded. -/
def isDoubleDot (segment : Text) : Bool :=
  ["..", ".%2e", "%2e.", "%2e%2e"].any (·.toList == segment.lowered)

/-- Whether a segment is one dot, which may be encoded. -/
def isSingleDot (segment : Text) : Bool :=
  [".", "%2e"].any (·.toList == segment.lowered)

/-- Whether a segment is a drive letter and what follows one. -/
def isDrive (segment : Text) : Bool :=
  match segment with
  | [letter, mark] => letter.isAlpha && (mark == ':' || mark == '|')
  | _ => false

/-- Whether a segment is a drive letter in its normal form. -/
def isNormalDrive (segment : Text) : Bool :=
  isDrive segment && segment.getLast? == some ':'

/-- The last segment of a path. -/
def lastSegment (path : Text) : Text :=
  (path.reverse.takeWhile (· != '/')).reverse

/-- The path up to its last separator. -/
def dropLastSegment (path : Text) : Text :=
  (path.reverse.dropWhile (· != '/')).reverse

/-- Whether a path ends in a separator. -/
def endsInSlash (path : Text) : Bool :=
  path.getLast? == some '/'

/-- The path without the separator at its end, unless that is the only one or ends a drive
letter. -/
def dropSlash (path : Text) : Text :=
  let shorter := path.dropLast
  if endsInSlash path && shorter.contains '/' && !isDrive (lastSegment shorter) then shorter
  else path

/-- The path without its last segment. -/
def shorten (kind : SchemeKind) (path : Text) : Text :=
  if kind = .file && isNormalDrive (lastSegment path) then path else dropLastSegment path

/-- A path with a separator at its end. -/
def withSlash (path : Text) : Text :=
  if endsInSlash path then path else path ++ ['/']

/-- A path with a segment after it, and a separator after that if the segment was followed by
one. -/
def close (kind : SchemeKind) (path segment : Text) (isSeparated : Bool) : Text :=
  if isDoubleDot segment then
    let shorter := shorten kind (dropSlash path)
    if isSeparated then withSlash shorter else shorter
  else if isSingleDot segment then withSlash path
  else
    let segment :=
      if kind = .file && path = ['/'] && isDrive segment then segment.take 1 ++ [':'] else segment
    path ++ segment ++ (if isSeparated then ['/'] else [])

/-- The path of a file starts with a single separator. -/
def settle (kind : SchemeKind) (path : Text) : Text :=
  if kind = .file then '/' :: path.dropWhile (· == '/') else path

/-- Reads the rest of a path up to a query or a fragment, given the path and the part of a segment
that have been read already. -/
def readFrom (kind : SchemeKind) (path segment : Text) : Text → Text × Text
  | [] => (settle kind (close kind path segment false), [])
  | char :: rest =>
      if kind.separates char then readFrom kind (close kind path segment true) [] rest
      else if char = '?' || char = '#' then
        (settle kind (close kind path segment false), char :: rest)
      else readFrom kind path (segment ++ Percent.encodeChar Percent.path char) rest

/-- Whether a character is left out wherever it stands in a URL. -/
def isIgnored (char : Char) : Bool :=
  char == '\t' || char == '\n' || char == '\r'

/-- The path without a last segment that is empty. -/
def dropEmptyLast (path : Text) : Text :=
  if 1 < path.length && endsInSlash path then path.dropLast else path

/-- The path with one more segment.  Segments of dots do not count. -/
def push (kind : SchemeKind) (path segment : Text) : Text :=
  if segment = ['.'] || segment = ['.', '.'] then path
  else
    let path := if path.length = 1 then path else path ++ ['/']
    let segment := segment.filter (!isIgnored ·)
    settle kind (close kind path (Percent.encode kind.segmentReserved segment) false)

/-- The path with more segments. -/
def pushAll (kind : SchemeKind) (path : Text) (segments : List Text) : Text :=
  segments.foldl (push kind) path

end UrlPath

end Typeset
