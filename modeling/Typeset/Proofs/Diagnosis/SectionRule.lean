import Typeset.Proofs.Diagnosis.Attribution
import Typeset.Proofs.LabelIndex.Entries

/-!
# The rule of attribution

Where a failure belongs is said by the lines of the sections alone: it is the last section that
begins before the line of the failure, or, if the fragment opens a marker, the first one that begins
on the line or after it.  Lines before the second and lines after the last are treated on their own.

The search in the index finds the place where the sections that begin before the line end.  There is
one such place because the sections begin on their lines in order, and the two candidates are the
entries on its two sides.
-/

namespace Typeset

namespace LabelIndex

/-- The label of the last section that begins before a line. -/
def labelBefore (sections : List LabelEntry) (line : Nat) : Text :=
  (sections.reverse.find? (·.line < line)).elim startLabel LabelEntry.label

/-- The label of the first section that begins on a line or after it. -/
def labelFrom (sections : List LabelEntry) (line : Nat) : Text :=
  (sections.find? (line ≤ ·.line)).elim endLabel LabelEntry.label

variable {early late : List LabelEntry} {line : Nat}

theorem exists_split_of_pairwise {sections : List LabelEntry}
    (ordered : sections.Pairwise (·.line ≤ ·.line)) (line : Nat) :
    ∃ early late, sections = early ++ late ∧ (∀ entry ∈ early, entry.line < line) ∧
      ∀ entry ∈ late, line ≤ entry.line := by
  induction sections with
  | nil => exact ⟨[], [], rfl, by simp, by simp⟩
  | cons first sections ih =>
      rw [List.pairwise_cons] at ordered
      by_cases before : first.line < line
      · rcases ih ordered.2 with ⟨early, late, rfl, passed, reached⟩
        refine ⟨first :: early, late, rfl, ?_, reached⟩
        intro entry member
        rcases List.mem_cons.mp member with rfl | member
        · exact before
        · exact passed entry member
      · refine ⟨[], first :: sections, rfl, by simp, ?_⟩
        intro entry member
        rcases List.mem_cons.mp member with rfl | member
        · omega
        · have later := ordered.1 entry member
          omega

theorem labelBefore_append (passed : ∀ entry ∈ early, entry.line < line)
    (reached : ∀ entry ∈ late, line ≤ entry.line) :
    labelBefore (early ++ late) line = early.getLast?.elim startLabel LabelEntry.label := by
  have none_late : late.reverse.find? (·.line < line) = none := by
    rw [List.find?_eq_none]
    intro entry member
    have after := reached entry (List.mem_reverse.mp member)
    simp only [decide_eq_true_eq]
    omega
  rw [labelBefore, List.reverse_append, List.find?_append, none_late, Option.none_or]
  cases final : early.getLast? with
  | none =>
      rw [List.getLast?_eq_none_iff.mp final]
      rfl
  | some last =>
      rcases List.getLast?_eq_some_iff.mp final with ⟨before, rfl⟩
      have here := passed last (by simp)
      simp [here]

theorem labelFrom_append (passed : ∀ entry ∈ early, entry.line < line)
    (reached : ∀ entry ∈ late, line ≤ entry.line) :
    labelFrom (early ++ late) line = late.head?.elim endLabel LabelEntry.label := by
  have none_early : early.find? (line ≤ ·.line) = none := by
    rw [List.find?_eq_none]
    intro entry member
    have before := passed entry member
    simp only [decide_eq_true_eq]
    omega
  rw [labelFrom, List.find?_append, none_early, Option.none_or]
  cases late with
  | nil => rfl
  | cons first late =>
      have here := reached first (by simp)
      simp [here]

/-- A line of the transcript after the first leads to the place between the sections that begin
before it and the others. -/
theorem exists_place_of_line {transcript : Text} (pattern : Pattern) (after : 2 ≤ line)
    (within : line ≤ transcript.lineCount) :
    let index := build transcript pattern
    ∃ place, index.firstAtOrAfter? line = some (place + 1) ∧ place + 1 < index.size ∧
      Diagnosis.labelAt index place = labelBefore (sections transcript pattern) line ∧
      Diagnosis.labelAt index (place + 1) = labelFrom (sections transcript pattern) line := by
  intro index
  rcases exists_split_of_pairwise (pairwise_sections transcript pattern) line with
    ⟨early, late, split, passed, reached⟩
  have entries : index.entries =
      (⟨1, startLabel⟩ :: early) ++ (late ++ [⟨transcript.lineCount, endLabel⟩]) := by
    rw [entries_build_eq_sections, split]
    simp
  have present : early.length + 1 < index.entries.length := by
    simp [entries]
  have earlier : early.length < index.entries.length := Nat.lt_of_succ_lt present
  refine ⟨early.length, ?_, present, ?_, ?_⟩
  · apply firstAtOrAfter?_eq_some present
    · cases late with
      | nil => simpa [entries] using within
      | cons first late => simpa [entries] using reached first (by simp)
    · intro other before
      cases other with
      | zero =>
          have start : index.entries[0].line = 1 := by
            simp [entries]
          omega
      | succ other =>
          have inside : other < early.length := Nat.lt_of_succ_lt_succ before
          simpa [entries, inside] using passed early[other] (List.getElem_mem inside)
  · rw [Diagnosis.labelAt_eq earlier, split, labelBefore_append passed reached]
    cases final : early.getLast? with
    | none =>
        rw [List.getLast?_eq_none_iff] at final
        subst final
        simp [entries]
    | some last =>
        rcases List.getLast?_eq_some_iff.mp final with ⟨before, rfl⟩
        simp [entries]
  · rw [Diagnosis.labelAt_eq present, split, labelFrom_append passed reached]
    cases late with
    | nil => simp [entries]
    | cons first late => simp [entries]

/-- The search for the first line, or for one before it, stops at the start. -/
theorem firstAtOrAfter?_of_le_one {transcript : Text} {pattern : Pattern} (top : line ≤ 1) :
    (build transcript pattern).firstAtOrAfter? line = some 0 := by
  have present : 0 < (build transcript pattern).entries.length := by
    simp [entries_build_eq_sections]
  apply firstAtOrAfter?_eq_some present
  · simpa [entries_build_eq_sections] using top
  · intro other before
    exact absurd before (Nat.not_lt_zero other)

/-- No entry is on a line past the transcript. -/
theorem firstAtOrAfter?_of_lineCount_lt {transcript : Text} {pattern : Pattern}
    (past : transcript.lineCount < line) :
    (build transcript pattern).firstAtOrAfter? line = none := by
  rw [firstAtOrAfter?_eq_none_iff]
  intro entry member
  have first_line : 1 ≤ transcript.lineCount := Nat.le_add_left 1 _
  have before : entry.line ≤ transcript.lineCount := by
    rw [entries_build_eq_sections, List.mem_append, List.mem_cons, List.mem_singleton] at member
    rcases member with (rfl | member) | rfl
    · exact first_line
    · exact (line_of_mem_sections member).2
    · exact Nat.le_refl _
  omega

end LabelIndex

namespace Diagnosis

open LabelIndex

/-- The label at the place that a line leads to. -/
def labelOfLine (index : LabelIndex) (line : Nat) (opensMarker : Bool) : Text :=
  labelAt (locate index line opensMarker).1 (locate index line opensMarker).2

theorem labelAt_pushUnidentified (index : LabelIndex) :
    labelAt index.pushUnidentified index.size = unidentifiedLabel := by
  simp [labelAt, LabelIndex.get?, pushUnidentified, LabelIndex.size]

theorem labelOfLine_of_none {index : LabelIndex} {line : Nat} (opensMarker : Bool)
    (missed : index.firstAtOrAfter? line = none) :
    labelOfLine index line opensMarker = unidentifiedLabel := by
  cases opensMarker with
  | false =>
      simp only [labelOfLine, locate, missed]
      exact labelAt_pushUnidentified index
  | true =>
      simp only [labelOfLine, locate, missed]
      exact labelAt_pushUnidentified index

theorem labelOfLine_of_zero {index : LabelIndex} {line : Nat}
    (search : index.firstAtOrAfter? line = some 0) :
    labelOfLine index line false = unidentifiedLabel := by
  simp only [labelOfLine, locate, search]
  exact labelAt_pushUnidentified index

theorem labelOfLine_of_some {index : LabelIndex} {line found target : Nat} {opensMarker : Bool}
    (search : index.firstAtOrAfter? line = some found)
    (step : found + opensMarker.toNat = target + 1) (within : target < index.size) :
    labelOfLine index line opensMarker = labelAt index target := by
  rw [labelOfLine, locate_eq search step within]

/-- The label for a failure on a line of a transcript with so many lines, given its sections.  A
failure without a line is past the transcript. -/
def ruledLabel (sections : List LabelEntry) (lines : Nat) (opensMarker : Bool) :
    Option Nat → Text
  | none => unidentifiedLabel
  | some line =>
      if lines < line then unidentifiedLabel
      else if line ≤ 1 then (if opensMarker then startLabel else unidentifiedLabel)
      else if opensMarker then labelFrom sections line
      else labelBefore sections line

theorem labelOfLine_build (transcript : Text) (pattern : Pattern) (line : Nat)
    (opensMarker : Bool) :
    labelOfLine (build transcript pattern) line opensMarker =
      ruledLabel (sections transcript pattern) transcript.lineCount opensMarker (some line) := by
  rw [ruledLabel]
  by_cases past : transcript.lineCount < line
  · rw [if_pos past]
    exact labelOfLine_of_none opensMarker (firstAtOrAfter?_of_lineCount_lt past)
  by_cases top : line ≤ 1
  · rw [if_neg past, if_pos top]
    have search : (build transcript pattern).firstAtOrAfter? line = some 0 :=
      firstAtOrAfter?_of_le_one top
    cases opensMarker with
    | false => exact labelOfLine_of_zero search
    | true =>
        have present : 0 < (build transcript pattern).entries.length := by
          simp [entries_build_eq_sections]
        rw [labelOfLine_of_some search rfl present, labelAt_eq present]
        simp [entries_build_eq_sections]
  · rw [if_neg past, if_neg top]
    rcases exists_place_of_line pattern (Nat.lt_of_not_le top)
      (Nat.le_of_not_lt past) with ⟨place, search, present, before, here⟩
    cases opensMarker with
    | false => exact (labelOfLine_of_some search rfl (Nat.lt_of_succ_lt present)).trans before
    | true => exact (labelOfLine_of_some search rfl present).trans here

/-- Digits that write no line number of their own stand for a line past every transcript. -/
theorem ruledLabel_line (sections : List LabelEntry) {lines : Nat} (opensMarker : Bool)
    (reference : LineReference) (numbered : lines < LineReference.maxLine) :
    ruledLabel sections lines opensMarker (some reference.line) =
      ruledLabel sections lines opensMarker (Text.toNat? reference.digits) := by
  cases number : Text.toNat? reference.digits with
  | none =>
      have last : reference.line = LineReference.maxLine := by
        rw [LineReference.line, number]
      rw [last]
      exact if_pos numbered
  | some line =>
      by_cases within : line ≤ LineReference.maxLine
      · rw [LineReference.line_eq number within]
      · have last : reference.line = LineReference.maxLine := by
          rw [LineReference.line, number]
          exact if_neg within
        have past : lines < line := by
          omega
        have unreached : ruledLabel sections lines opensMarker (some LineReference.maxLine) =
            unidentifiedLabel := if_pos numbered
        rw [last, unreached]
        exact (if_pos past).symm

/-- Every failure with a reference is attributed by the rule, whatever the pattern of the markers.

The lines of a transcript have numbers, as a text in memory has fewer bytes than there are
numbers. -/
theorem exists_diagnostic_ruled {rawError transcript : Text} {reference : LineReference}
    (first : reference.IsFirstIn rawError)
    (numbered : transcript.lineCount < LineReference.maxLine) (pattern : Pattern)
    (showDebug : Bool) :
    ∃ diagnostic, diagnose rawError transcript pattern showDebug = .attributed diagnostic ∧
      diagnostic.sectionLabel =
        ruledLabel (sections transcript pattern) transcript.lineCount
          (pattern.opens reference.fragment) (Text.toNat? reference.digits) := by
  rw [diagnose, LineReference.find?_eq_some_iff.mpr first]
  refine ⟨_, rfl, ?_⟩
  rw [← ruledLabel_line _ _ _ numbered]
  exact labelOfLine_build transcript pattern reference.line (pattern.opens reference.fragment)

/-- Sections that begin with a hash, which is their label. -/
def hashPattern : Pattern where
  source := "(#)".toList
  node := .capture 1 (.one (.single '#'))

theorem exists_diagnostic_ruled_hash :
    let transcript : Text := "a\n#b\nc".toList
    (∃ diagnostic, diagnose "! l.3 x".toList transcript hashPattern false =
        .attributed diagnostic ∧ diagnostic.sectionLabel = ['#']) ∧
      ∃ diagnostic, diagnose "! l.\u0663 x".toList transcript hashPattern false =
        .attributed diagnostic ∧ diagnostic.sectionLabel = unidentifiedLabel := by
  intro transcript
  have numbered : transcript.lineCount < LineReference.maxLine := by decide +kernel
  constructor
  · have first : LineReference.IsFirstIn ⟨"! ".toList, ['3'], " x".toList⟩ "! l.3 x".toList :=
      LineReference.isFirstIn_of_find? (by decide +kernel)
    rcases exists_diagnostic_ruled first numbered hashPattern false with ⟨diagnostic, told, label⟩
    exact ⟨diagnostic, told, label.trans (by decide +kernel)⟩
  · have first : LineReference.IsFirstIn ⟨"! ".toList, ['\u0663'], " x".toList⟩
        "! l.\u0663 x".toList :=
      LineReference.isFirstIn_of_find? (by decide +kernel)
    rcases exists_diagnostic_ruled first numbered hashPattern false with ⟨diagnostic, told, label⟩
    exact ⟨diagnostic, told, label.trans (by decide +kernel)⟩

end Diagnosis

end Typeset
