import Typeset.Proofs.LabelIndex.Entries
import Typeset.Proofs.LabelPattern.Marker
import Typeset.Proofs.Text.Splitting

/-!
# Scanning for markers

The labels that the standard pattern finds can be read off a transcript without any pattern.  Where
the lead of a marker is written, the label goes up to the next closing brace, unless the line ends
before it; everywhere else the scan moves on by one character.

A marker lies within a line.  A transcript can therefore be scanned line by line, and a marker that
is not closed on its line takes nothing from the lines after it.
-/

namespace Typeset

namespace LabelPattern

variable {text label rest : Text}

/-- The label of the marker that a text begins with, and what follows the marker. -/
def leadingMarker? (text : Text) : Option (Text × Text) :=
  match markerLead.isPrefixOf? text with
  | none => none
  | some tail =>
      match tail.dropWhile (· != '\x7d') with
      | [] => none
      | _ :: rest =>
          let label := tail.takeWhile (· != '\x7d')
          if '\n' ∈ label then none else some (label, rest)

theorem takeWhile_closing (open_label : '\x7d' ∉ label) (rest : Text) :
    (label ++ '\x7d' :: rest).takeWhile (· != '\x7d') = label ∧
      (label ++ '\x7d' :: rest).dropWhile (· != '\x7d') = '\x7d' :: rest := by
  have passed : ∀ char ∈ label, (char != '\x7d') = true := by
    intro char member
    rw [bne_iff_ne]
    rintro rfl
    exact open_label member
  constructor
  · rw [List.takeWhile_append_of_pos passed]
    simp
  · rw [List.dropWhile_append_of_pos passed]
    simp

theorem leadingMarker?_eq_some_iff :
    leadingMarker? text = some (label, rest) ↔ IsLabel label ∧ text = marker label ++ rest := by
  constructor
  · intro opened
    unfold leadingMarker? at opened
    cases lead : markerLead.isPrefixOf? text with
    | none => simp [lead] at opened
    | some tail =>
        rw [lead] at opened
        have stopped := List.head?_dropWhile_not (· != '\x7d') tail
        have whole := List.takeWhile_append_dropWhile (p := (· != '\x7d')) (l := tail)
        cases dropped : tail.dropWhile (· != '\x7d') with
        | nil => simp [dropped] at opened
        | cons closing after =>
            rw [dropped] at stopped whole
            simp only [List.head?_cons, bne_eq_false_iff_eq] at stopped
            subst closing
            simp only [dropped] at opened
            split at opened
            · cases opened
            · rename_i unbroken
              simp only [Option.some.injEq, Prod.mk.injEq] at opened
              rcases opened with ⟨rfl, rfl⟩
              refine ⟨⟨?_, unbroken⟩, ?_⟩
              · intro closing
                have passed := List.all_eq_true.mp List.all_takeWhile _ closing
                simp at passed
              · rw [marker_append, whole]
                exact (List.append_eq_of_isPrefixOf?_eq_some lead).symm
  · rintro ⟨⟨unclosed, unbroken⟩, rfl⟩
    have lead : markerLead.isPrefixOf? (marker label ++ rest) = some (label ++ '\x7d' :: rest) :=
      List.isPrefixOf?_eq_some_iff_append_eq.mpr (marker_append label rest).symm
    rw [leadingMarker?, lead]
    simp only [takeWhile_closing unclosed rest, unbroken, if_false]

theorem leadingMarker?_eq_none_iff : leadingMarker? text = none ↔ ¬OpensMarker text := by
  rw [Option.eq_none_iff_forall_ne_some]
  constructor
  · rintro missed ⟨label, rest, isLabel, split⟩
    exact missed (label, rest) (leadingMarker?_eq_some_iff.mpr ⟨isLabel, split⟩)
  · rintro closed ⟨label, rest⟩ opened
    rcases leadingMarker?_eq_some_iff.mp opened with ⟨isLabel, split⟩
    exact closed ⟨label, rest, isLabel, split⟩

theorem length_lt_of_leadingMarker? (opened : leadingMarker? text = some (label, rest)) :
    rest.length < text.length := by
  rw [(leadingMarker?_eq_some_iff.mp opened).2, marker_append]
  simp only [List.length_append, List.length_cons]
  omega

/-- The labels of the markers in a text, from left to right. -/
def scan : Text → List Text
  | [] => []
  | char :: rest =>
      match _opened : leadingMarker? (char :: rest) with
      | some (label, after) => label :: scan after
      | none => scan rest
termination_by text => text.length
decreasing_by
  · exact length_lt_of_leadingMarker? _opened
  · exact Nat.lt_succ_self _

theorem scan_marker (isLabel : IsLabel label) (rest : Text) :
    scan (marker label ++ rest) = label :: scan rest := by
  have opened : leadingMarker? (marker label ++ rest) = some (label, rest) :=
    leadingMarker?_eq_some_iff.mpr ⟨isLabel, rfl⟩
  have shape : marker label ++ rest = '\\' :: (markerLead.tail ++ (label ++ '\x7d' :: rest)) :=
    marker_append label rest
  rw [shape] at opened ⊢
  rw [scan]
  split
  · rename_i found
    rw [opened] at found
    cases found
    rfl
  · rename_i missed
    rw [opened] at missed
    cases missed

theorem scan_cons {char : Char} (closed : ¬OpensMarker (char :: rest)) :
    scan (char :: rest) = scan rest := by
  have missed := leadingMarker?_eq_none_iff.mpr closed
  rw [scan]
  split
  · rename_i found
    rw [missed] at found
    cases found
  · rfl

/-- The standard pattern captures the labels that the scan finds. -/
theorem map_labelOf_occurrences (text : Text) :
    (standard.occurrences text).map LabelIndex.labelOf = scan text := by
  induction text using scan.induct with
  | case1 =>
      rw [Pattern.occurrences, solid_standard.pieces_nil, scan]
      rfl
  | case2 char rest label after opened ih =>
      rcases leadingMarker?_eq_some_iff.mp opened with ⟨isLabel, split⟩
      rw [split, scan_marker isLabel, Pattern.occurrences, pieces_marker_append isLabel, ← ih]
      rfl
  | case3 char rest missed ih =>
      have closed := leadingMarker?_eq_none_iff.mp missed
      rw [scan_cons closed, Pattern.occurrences, pieces_cons_of_closed closed, ← ih]
      rfl

theorem isLabel_of_mem_scan (member : label ∈ scan text) : IsLabel label := by
  induction text using scan.induct with
  | case1 =>
      rw [scan] at member
      cases member
  | case2 char rest first after opened ih =>
      rcases leadingMarker?_eq_some_iff.mp opened with ⟨isLabel, split⟩
      rw [split, scan_marker isLabel] at member
      rcases List.mem_cons.mp member with rfl | later
      · exact isLabel
      · exact ih later
  | case3 char rest missed ih =>
      rw [scan_cons (leadingMarker?_eq_none_iff.mp missed)] at member
      exact ih member

/-- What begins with a marker up to the end of a line begins with the marker before that. -/
theorem opensMarker_of_append_lineFeed {later : Text}
    (opened : OpensMarker (text ++ '\n' :: later)) : OpensMarker text := by
  rcases opened with ⟨label, rest, isLabel, split⟩
  rcases Text.exists_of_append_eq_append_cons
    (mt lineFeed_mem_marker_iff.mp isLabel.2) split.symm with ⟨more, shape, _⟩
  exact ⟨label, more, isLabel, shape⟩

/-- A text can be scanned line by line. -/
theorem scan_append_lineFeed (text later : Text) :
    scan (text ++ '\n' :: later) = scan text ++ scan later := by
  induction text using scan.induct with
  | case1 =>
      have closed : ¬OpensMarker ([] ++ '\n' :: later) := by
        intro opened
        rcases opensMarker_of_append_lineFeed opened with ⟨_, _, _, split⟩
        cases split
      exact (scan_cons closed).trans (by rw [scan, List.nil_append])
  | case2 char rest label after opened ih =>
      rcases leadingMarker?_eq_some_iff.mp opened with ⟨isLabel, split⟩
      rw [split, List.append_assoc, scan_marker isLabel, scan_marker isLabel, ih, List.cons_append]
  | case3 char rest missed ih =>
      have closed := leadingMarker?_eq_none_iff.mp missed
      have stillClosed : ¬OpensMarker (char :: (rest ++ '\n' :: later)) := by
        intro opened
        exact closed (opensMarker_of_append_lineFeed opened)
      rw [List.cons_append, scan_cons stillClosed, scan_cons closed, ih]

/-- Between its ends, the index that the standard pattern gives to a transcript has the labels that
the scan finds.  They hold neither closing braces nor line feeds, and those after the end of a line
do not depend on what is before it. -/
theorem map_label_build_standard (transcript : Text) :
    (LabelIndex.build transcript standard).entries.map LabelEntry.label =
        LabelIndex.startLabel :: scan transcript ++ [LabelIndex.endLabel] ∧
      (∀ label ∈ scan transcript, '\x7d' ∉ label ∧ '\n' ∉ label) ∧
      ∀ later, scan (transcript ++ '\n' :: later) = scan transcript ++ scan later := by
  refine ⟨?_, ?_, scan_append_lineFeed transcript⟩
  · rw [LabelIndex.map_label_build, map_labelOf_occurrences]
  · intro label member
    exact isLabel_of_mem_scan member

end LabelPattern

end Typeset
