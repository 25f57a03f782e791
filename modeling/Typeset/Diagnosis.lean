import Typeset.InlineMath
import Typeset.LabelIndex

/-!
# Diagnoses

A build that fails names a line of the transcript that was built, which the author of the document
has never seen.  A diagnosis names the section instead: the one before the first entry of the
label index on or after the line, because a failure inside a section is reported on a line past
its marker.  If the text that the build complains about opens with a marker, the failure belongs to
the section that the marker begins, one entry later.
-/

namespace Typeset

/-- A reference to a line in an error: `l.` and decimal digits, with the text around it. -/
structure LineReference where
  before : Text
  digits : Text
  after : Text
  deriving DecidableEq, Repr

namespace LineReference

/-- The digits and the rest of a text that begins with a reference. -/
def leading? : Text → Option (Text × Text)
  | 'l' :: '.' :: rest =>
      match rest.takeWhile isDecimalDigit with
      | [] => none
      | digits => some (digits, rest.dropWhile isDecimalDigit)
  | _ => none

/-- The first reference in a text. -/
def find? : Text → Option LineReference
  | [] => none
  | char :: rest =>
      match leading? (char :: rest) with
      | some (digits, after) => some ⟨[], digits, after⟩
      | none => (find? rest).map fun found => { found with before := char :: found.before }

/-- The reference as it stands in the text. -/
def token (reference : LineReference) : Text :=
  'l' :: '.' :: reference.digits

/-- The largest line number. -/
def maxLine : Nat := Nat.pow 2 64 - 1

/-- The line that is referred to.  Digits that are not all ASCII, and numbers that are too large,
stand for the largest line number. -/
def line (reference : LineReference) : Nat :=
  match Text.toNat? reference.digits with
  | some number => if number ≤ maxLine then number else maxLine
  | none => maxLine

/-- The text that the build complains about: what follows the reference. -/
def fragment (reference : LineReference) : Text :=
  reference.after.trim

end LineReference

/-- A failure that has been placed in a section. -/
structure Diagnostic where
  sectionLabel : Text
  offendingFragment : Text
  detail : Text
  trailer : Option Text
  deriving DecidableEq, Repr

/-- What is known of a failure. -/
inductive Diagnosis where
  | attributed (diagnostic : Diagnostic)
  | unattributed (rawError : Text)
  deriving DecidableEq, Repr

namespace Diagnosis

/-- Where a failure belongs: the position in the index, which gets an entry for an unknown place if
there is no such position. -/
def locate (index : LabelIndex) (line : Nat) (opensMarker : Bool) : LabelIndex × Nat :=
  let found : Int :=
    match index.firstAtOrAfter? line with
    | some position => position
    | none => -1
  let target := found - 1 + (if opensMarker then 1 else 0)
  if 0 ≤ target && target < index.size then (index, target.toNat)
  else (index.pushUnidentified, index.size)

/-- The label at a position. -/
def labelAt (index : LabelIndex) (position : Nat) : Text :=
  match index.get? position with
  | some entry => entry.label
  | none => LabelIndex.unidentifiedLabel

/-- The values that lead to a diagnosis, for people who look for a mistake in it. -/
def trailer (reference : LineReference) (index : LabelIndex) (transcript : Text) : Text :=
  "error line: ".toList ++ Text.ofNat reference.line ++
    ". token: \"".toList ++ reference.token ++
    "\" (".toList ++ Text.ofNat reference.token.byteLength ++
    " chars) at byte ".toList ++ Text.ofNat reference.before.byteLength ++
    ". offending fragment: \"".toList ++ reference.fragment ++
    "\". index: ".toList ++ index.display ++
    ". transcript: ".toList ++ transcript

/-- A text for the author: without markers, and with its mathematics in normal form. -/
def cleaned (pattern : Pattern) (text : Text) : Text :=
  InlineMath.normalize (pattern.strip text)

/-- The diagnosis of an error, given the transcript of the build. -/
def diagnose (rawError transcript : Text) (pattern : Pattern) (showDebug : Bool) : Diagnosis :=
  match LineReference.find? rawError with
  | none => .unattributed rawError
  | some reference =>
      let (index, position) :=
        locate (LabelIndex.build transcript pattern) reference.line
          (pattern.opens reference.fragment)
      .attributed
        { sectionLabel := labelAt index position
          offendingFragment := cleaned pattern reference.fragment
          detail := cleaned pattern rawError
          trailer := if showDebug then some (trailer reference index transcript) else none }

/-- The label of the section, if the failure could be placed. -/
def sectionLabel? : Diagnosis → Option Text
  | attributed diagnostic => some diagnostic.sectionLabel
  | unattributed _ => none

/-- What the message begins with when a failure could not be placed. -/
def unattributedLead : Text :=
  "Further information could not be ascertained. ".toList

/-- The text for the author of the document, without the values that led to it. -/
def plainMessage (diagnostic : Diagnostic) : Text :=
  "Error in Q".toList ++ diagnostic.sectionLabel ++
    " due to the following content: \"".toList ++ diagnostic.offendingFragment ++
    "\". More details: ".toList ++ diagnostic.detail

/-- The text for the author of the document. -/
def message : Diagnosis → Text
  | attributed diagnostic =>
      match diagnostic.trailer with
      | some trailer => trailer ++ '\n' :: plainMessage diagnostic
      | none => plainMessage diagnostic
  | unattributed rawError => unattributedLead ++ rawError

end Diagnosis

end Typeset
