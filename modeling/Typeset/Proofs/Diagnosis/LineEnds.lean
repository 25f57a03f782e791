import Typeset.Diagnosis
import Typeset.Proofs.LabelPattern.Scanner
import Typeset.Proofs.Text.LineEnds

/-!
# Transcripts with CRLF

Some engines end the lines of a transcript with CRLF instead of LF.  The standard pattern finds the
same markers then: a label holds no line feed and no marker stops inside a CRLF, so a marker of the
one text is written in the other.  Every place moves, by one character for each line passed, but its
line stays the same, because a CR before an LF ends no line of its own.

So the two indexes are equal, and of a diagnosis only the trailer can tell the transcripts apart.
-/

namespace Typeset

open LabelPattern Pattern

/-- A marker that is written with CRLF at the ends of lines is written without. -/
theorem LabelPattern.opensMarker_of_withCrlf {text : Text} (opened : OpensMarker text.withCrlf) :
    OpensMarker text := by
  rcases opened with ⟨label, rest, isLabel, shape⟩
  have lead : '\n' ∉ markerLead := by decide
  have unbroken : '\n' ∉ markerLead ++ label := by
    rw [List.mem_append, not_or]
    exact ⟨lead, isLabel.2⟩
  rw [marker_append, ← List.append_assoc] at shape
  rcases Text.exists_of_withCrlf_eq_append_cons unbroken (by decide) (by decide) shape with
    ⟨after, split, _⟩
  refine ⟨label, after, isLabel, ?_⟩
  rw [split, marker_append, List.append_assoc]

namespace LabelIndex

theorem entriesFrom_plain (line : Nat) (char : Char) (rest : Text) (pieces : List Piece) :
    entriesFrom line (char :: rest) (.plain char :: pieces) =
      entriesFrom (line + Text.lineBreaks rest.head? [char]) rest pieces := rfl

theorem entriesFrom_found (line : Nat) (hit : Match) (rest : Text) (pieces : List Piece) :
    entriesFrom line (hit.text ++ rest) (.found hit :: pieces) =
      ⟨line, labelOf hit⟩ ::
        entriesFrom (line + Text.lineBreaks rest.head? hit.text) rest pieces := by
  rw [entriesFrom, Piece.text, List.drop_left]

/-- Along both texts, the same matches are passed on the same lines. -/
theorem entriesFrom_withCrlf (line : Nat) {text : Text} (plain : '\r' ∉ text) :
    entriesFrom line text.withCrlf (standard.pieces text.withCrlf) =
      entriesFrom line text (standard.pieces text) := by
  induction text using scan.induct generalizing line with
  | case1 => rw [Text.withCrlf_nil]
  | case2 char rest label after opened ih =>
      rcases leadingMarker?_eq_some_iff.mp opened with ⟨isLabel, split⟩
      rw [split] at plain ⊢
      rw [List.mem_append, not_or] at plain
      have unbroken : '\n' ∉ marker label := mt lineFeed_mem_marker_iff.mp isLabel.2
      have unmoved (next : Option Char) : Text.lineBreaks next (marker label) = 0 :=
        Text.lineBreaks_of_not_mem next unbroken plain.1
      rw [Text.withCrlf_append unbroken, pieces_marker_append isLabel, pieces_marker_append isLabel,
        entriesFrom_found line ⟨marker label, _⟩, entriesFrom_found line ⟨marker label, _⟩,
        unmoved, unmoved, ih _ plain.2]
  | case3 char rest missed ih =>
      have closed := leadingMarker?_eq_none_iff.mp missed
      rw [List.mem_cons, not_or] at plain
      by_cases broken : char = '\n'
      · subst broken
        have carried (rest : Text) : ¬OpensMarker ('\r' :: rest) :=
          not_opensMarker_cons (by decide) rest
        have fed (rest : Text) : ¬OpensMarker ('\n' :: rest) :=
          not_opensMarker_cons (by decide) rest
        have joined : Text.lineBreaks (some '\n') ['\r'] = 0 := rfl
        have counted (next : Option Char) : Text.lineBreaks next ['\n'] = 1 := rfl
        rw [Text.withCrlf_lineFeed, pieces_cons_of_closed (carried _),
          pieces_cons_of_closed (fed _), pieces_cons_of_closed (fed _), entriesFrom_plain,
          entriesFrom_plain, entriesFrom_plain, List.head?_cons, joined, counted, counted,
          ih _ plain.2, Nat.add_zero]
      · have stillClosed : ¬OpensMarker (char :: Text.withCrlf rest) := by
          rw [← Text.withCrlf_cons broken]
          exact mt opensMarker_of_withCrlf closed
        have unmoved (next : Option Char) : Text.lineBreaks next [char] = 0 := by
          apply Text.lineBreaks_of_not_mem
          · simpa using Ne.symm broken
          · simpa using plain.1
        rw [Text.withCrlf_cons broken, pieces_cons_of_closed stillClosed,
          pieces_cons_of_closed closed, entriesFrom_plain, entriesFrom_plain, unmoved, unmoved,
          ih _ plain.2]

end LabelIndex

namespace Diagnosis

/-- The diagnosis without the values that led to it. -/
def withoutTrailer : Diagnosis → Diagnosis
  | attributed diagnostic => attributed { diagnostic with trailer := none }
  | unattributed rawError => unattributed rawError

/-- Apart from its trailer, a diagnosis depends on the transcript only through the index. -/
theorem withoutTrailer_diagnose_congr {transcript other : Text} {pattern : Pattern}
    (same : LabelIndex.build transcript pattern = LabelIndex.build other pattern) (rawError : Text)
    (showDebug : Bool) :
    (diagnose rawError transcript pattern showDebug).withoutTrailer =
      (diagnose rawError other pattern showDebug).withoutTrailer := by
  rw [diagnose, diagnose, same]
  cases LineReference.find? rawError with
  | none => rfl
  | some reference => simp only [withoutTrailer]

end Diagnosis

/-- The ends of lines make no difference: the index is the same with CRLF, and so is all that a
diagnosis tells the author. -/
theorem LabelIndex.build_withCrlf (transcript : Text) (plain : '\r' ∉ transcript) :
    build transcript.withCrlf standard = build transcript standard ∧
      ∀ rawError showDebug,
        (Diagnosis.diagnose rawError transcript.withCrlf standard showDebug).withoutTrailer =
          (Diagnosis.diagnose rawError transcript standard showDebug).withoutTrailer := by
  have same : build transcript.withCrlf standard = build transcript standard := by
    rw [build, build, entriesFrom_withCrlf 1 plain, Text.lineCount_withCrlf plain]
  refine ⟨same, ?_⟩
  intro rawError showDebug
  exact Diagnosis.withoutTrailer_diagnose_congr same rawError showDebug

theorem LabelIndex.build_withCrlf_marked :
    let transcript : Text := "intro\n\\lambdalabel\x7bQ1\x7d\nbody".toList
    (build transcript.withCrlf standard).entries =
        [⟨1, startLabel⟩, ⟨2, ['1']⟩, ⟨3, endLabel⟩] ∧
      (Diagnosis.diagnose "! Oops. l.3 \\foo".toList transcript.withCrlf standard
          true).withoutTrailer =
        (Diagnosis.diagnose "! Oops. l.3 \\foo".toList transcript standard
          true).withoutTrailer := by
  intro transcript
  have plain : '\r' ∉ transcript := by decide
  rcases build_withCrlf transcript plain with ⟨index, diagnosis⟩
  refine ⟨?_, diagnosis _ true⟩
  rw [index]
  decide +kernel

end Typeset
