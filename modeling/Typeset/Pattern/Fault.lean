import Typeset.Pattern.Tree

/-!
# Refused patterns

Why a pattern is refused, and the text that says so: the pattern with carets under the part at
fault, and the reason below.  A pattern of several lines is shown with line numbers between rules,
and a part that runs over several lines is described instead of underlined.
-/

namespace Typeset

namespace Pattern

/-- Why a pattern is refused. -/
inductive Fault where
  | classEscapeInvalid
  | classRangeInvalid
  | classRangeLiteral
  | classUnclosed
  | decimalInvalid
  | escapeHexEmpty
  | escapeHexInvalid
  | escapeHexInvalidDigit
  | escapeUnexpectedEnd
  | escapeUnrecognized
  | flagDanglingNegation
  | flagDuplicate
  | flagRepeatedNegation
  | flagUnexpectedEnd
  | flagUnrecognized
  | groupNameDuplicate
  | groupNameEmpty
  | groupNameInvalid
  | groupNameUnexpectedEnd
  | groupUnclosed
  | groupUnopened
  | nestingTooDeep (limit : Nat)
  | repetitionCountInvalid
  | repetitionCountMissing
  | repetitionCountUnclosed
  | repetitionMissing
  | wordBoundaryUnclosed
  | wordBoundaryUnrecognized
  | wordBoundaryUnexpectedEnd
  | propertyInvalid
  | propertyNotFound
  | propertyValueNotFound
  | backreference
  | lookAround
  | unicodeNotAllowed
  | invalidUtf8
  deriving DecidableEq, Repr

/-- The reason in words. -/
def Fault.message : Fault → Text
  | classEscapeInvalid => "invalid escape sequence found in character class".toList
  | classRangeInvalid =>
      "invalid character class range, the start must be <= the end".toList
  | classRangeLiteral => "invalid range boundary, must be a literal".toList
  | classUnclosed => "unclosed character class".toList
  | decimalInvalid => "decimal literal invalid".toList
  | escapeHexEmpty => "hexadecimal literal empty".toList
  | escapeHexInvalid => "hexadecimal literal is not a Unicode scalar value".toList
  | escapeHexInvalidDigit => "invalid hexadecimal digit".toList
  | escapeUnexpectedEnd =>
      "incomplete escape sequence, reached end of pattern prematurely".toList
  | escapeUnrecognized => "unrecognized escape sequence".toList
  | flagDanglingNegation => "dangling flag negation operator".toList
  | flagDuplicate => "duplicate flag".toList
  | flagRepeatedNegation => "flag negation operator repeated".toList
  | flagUnexpectedEnd => "expected flag but got end of regex".toList
  | flagUnrecognized => "unrecognized flag".toList
  | groupNameDuplicate => "duplicate capture group name".toList
  | groupNameEmpty => "empty capture group name".toList
  | groupNameInvalid => "invalid capture group character".toList
  | groupNameUnexpectedEnd => "unclosed capture group name".toList
  | groupUnclosed => "unclosed group".toList
  | groupUnopened => "unopened group".toList
  | nestingTooDeep limit =>
      "exceed the maximum number of nested parentheses/brackets (".toList ++ Text.ofNat limit ++
        ")".toList
  | repetitionCountInvalid =>
      "invalid repetition count range, the start must be <= the end".toList
  | repetitionCountMissing => "repetition quantifier expects a valid decimal".toList
  | repetitionCountUnclosed => "unclosed counted repetition".toList
  | repetitionMissing => "repetition operator missing expression".toList
  | wordBoundaryUnclosed =>
      ("special word boundary assertion is either unclosed or contains an invalid " ++
        "character").toList
  | wordBoundaryUnrecognized =>
      ("unrecognized special word boundary assertion, valid choices are: start, end, " ++
        "start-half or end-half").toList
  | wordBoundaryUnexpectedEnd =>
      ("found either the beginning of a special word boundary or a bounded repetition on a " ++
        "\\b with an opening brace, but no closing brace").toList
  | propertyInvalid => "invalid Unicode character class".toList
  | propertyNotFound => "Unicode property not found".toList
  | propertyValueNotFound => "Unicode property value not found".toList
  | backreference => "backreferences are not supported".toList
  | lookAround =>
      "look-around, including look-ahead and look-behind, is not supported".toList
  | unicodeNotAllowed => "Unicode not allowed here".toList
  | invalidUtf8 => "pattern can match invalid UTF-8".toList

/-- A fault, the part of the pattern it is about, and a second part that belongs to it: the first
use of a name or flag that is used twice. -/
structure Refusal where
  fault : Fault
  span : Span
  earlier : Option Span
  deriving DecidableEq, Repr

namespace Refusal

/-- The line of an offset and its column in code points, both counted from 0. -/
def place (source : Text) (offset : Nat) : Nat × Nat :=
  let before := source.take offset
  (before.count '\n', (before.reverse.takeWhile (· != '\n')).length)

/-- The spans of a refusal, the one that starts first before the other. -/
def spans (refusal : Refusal) : List Span :=
  match refusal.earlier with
  | none => [refusal.span]
  | some other =>
      if other.start ≤ refusal.span.start then [other, refusal.span] else [refusal.span, other]

/-- Whether the span begins and ends on one line. -/
def isOneLine (source : Text) (span : Span) : Bool :=
  (place source span.start).1 == (place source span.stop).1

/-- Carets under the spans, which are columns in ascending order; a span of no width still gets
one caret.  `column` is how far the line of carets has been written. -/
def carets (column : Nat) : List (Nat × Nat) → Text
  | [] => []
  | (start, stop) :: rest =>
      let width := max 1 (stop - start)
      List.replicate (start - column) ' ' ++ List.replicate width '^' ++
        carets (max column start + width) rest

/-- A line of the pattern with what is under it. -/
def notedLine (source : Text) (refusal : Refusal) (margin : Text) (padding line : Nat)
    (content : Text) : Text :=
  let columns := refusal.spans.filterMap fun span =>
    if isOneLine source span && (place source span.start).1 == line then
      some ((place source span.start).2, (place source span.stop).2)
    else none
  let under :=
    if columns.isEmpty then []
    else List.replicate padding ' ' ++ carets 0 columns ++ ['\n']
  margin ++ content ++ ['\n'] ++ under

/-- The lines of the pattern; a last line that is empty does not count. -/
def sourceLines (source : Text) : List Text :=
  let lines := Text.splitAt '\n' source
  let lines := if lines.getLast? == some [] then lines.dropLast else lines
  lines.map fun line => if line.getLast? == some '\r' then line.dropLast else line

/-- The pattern with carets under the spans that stand on one line. -/
def notated (source : Text) (refusal : Refusal) : Text :=
  let lines := sourceLines source
  let count := lines.length + (if source.getLast? == some '\n' then 1 else 0)
  let numberWidth := if count ≤ 1 then 0 else (Text.ofNat count).length
  let margin (line : Nat) : Text :=
    if numberWidth = 0 then "    ".toList
    else
      let number := Text.ofNat (line + 1)
      List.replicate (numberWidth - number.length) ' ' ++ number ++ ": ".toList
  let padding := if numberWidth = 0 then 4 else numberWidth + 2
  ((lines.zipIdx).map fun (content, line) =>
    notedLine source refusal (margin line) padding line content).flatten

/-- Where a span that runs over several lines begins and ends, counted from 1. -/
def longNote (source : Text) (span : Span) : Text :=
  let first := place source span.start
  let last := place source span.stop
  "on line ".toList ++ Text.ofNat (first.1 + 1) ++ " (column ".toList ++
    Text.ofNat (first.2 + 1) ++ ") through line ".toList ++ Text.ofNat (last.1 + 1) ++
    " (column ".toList ++ Text.ofNat last.2 ++ ")".toList

/-- The text that tells the author of a pattern why it is refused. -/
def message (source : Text) (refusal : Refusal) : Text :=
  let reason := "error: ".toList ++ refusal.fault.message
  let heading := "regex parse error:\n".toList
  if source.contains '\n' then
    let rule := List.replicate 79 '~' ++ ['\n']
    let long := refusal.spans.filter fun span => !isOneLine source span
    let notes :=
      if long.isEmpty then []
      else Text.joined ['\n'] (long.map (longNote source)) ++ ['\n']
    heading ++ rule ++ notated source refusal ++ rule ++ notes ++ reason
  else heading ++ notated source refusal ++ reason

end Refusal

end Pattern

end Typeset
