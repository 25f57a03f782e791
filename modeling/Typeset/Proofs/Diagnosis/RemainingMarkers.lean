import Typeset.Diagnosis
import Typeset.Proofs.Diagnosis.Attribution
import Typeset.Proofs.InlineMath.Cuts
import Typeset.Proofs.LabelPattern.Marker

/-!
# Markers that a diagnosis still holds

Texts for authors are made in two steps: the markers are taken out, and the mathematics is put in
normal form.  Markers are taken out once, and what stood on both sides of one may make a marker when
it comes together; nothing looks for it any more.  And what begins like a marker and is broken over
lines is none, until the normal form takes out the line feeds beside dollars.

These are all the ways in which a marker can remain.  The lead and the closing brace of a marker are
neither blanks nor dollars, so in the normal form they stand where the text had them, and the normal
form of what is between them does not depend on what is around.
-/

namespace Typeset

namespace LabelPattern

open InlineMath

variable {text rest label normal : Text}

/-- What is left of a text when its markers are taken out, from left to right. -/
inductive Stripped : Text → Text → Prop where
  | nil : Stripped [] []
  | plain (char : Char) (rest kept : Text) (closed : ¬OpensMarker (char :: rest))
      (tail : Stripped rest kept) : Stripped (char :: rest) (char :: kept)
  | marker (label rest kept : Text) (isLabel : IsLabel label) (tail : Stripped rest kept) :
      Stripped (marker label ++ rest) kept

theorem strip_cons {char : Char} (closed : ¬OpensMarker (char :: rest)) :
    standard.strip (char :: rest) = char :: standard.strip rest := by
  rw [Pattern.strip, pieces_cons_of_closed closed]
  rfl

theorem strip_marker (rest : Text) (isLabel : IsLabel label) :
    standard.strip (marker label ++ rest) = standard.strip rest := by
  rw [Pattern.strip, pieces_marker_append isLabel]
  rfl

theorem stripped_strip (text : Text) : Stripped text (standard.strip text) := by
  induction size : text.length using Nat.strongRecOn generalizing text with
  | ind size ih =>
      cases text with
      | nil =>
          rw [Pattern.strip, solid_standard.pieces_nil]
          exact .nil
      | cons char rest =>
          by_cases opened : OpensMarker (char :: rest)
          · rcases opened with ⟨label, rest, isLabel, split⟩
            rw [split] at size ⊢
            rw [strip_marker rest isLabel]
            refine .marker label rest _ isLabel (ih rest.length ?_ rest rfl)
            rw [← size, marker_append]
            simp
            omega
          · rw [strip_cons opened]
            refine .plain char rest _ opened (ih rest.length ?_ rest rfl)
            rw [← size]
            exact Nat.lt_succ_self _

theorem Stripped.eq_strip {kept : Text} (stripped : Stripped text kept) :
    kept = standard.strip text := by
  induction stripped with
  | nil => rw [Pattern.strip, solid_standard.pieces_nil]; rfl
  | plain char rest kept closed tail ih => rw [strip_cons closed, ih]
  | marker label rest kept isLabel tail ih => rw [strip_marker rest isLabel, ih]

/-- What follows the backslash at the beginning of every standard marker. -/
def markerName : Text :=
  "lambdalabel\x7bQ".toList

theorem markerLead_eq : markerLead = '\\' :: markerName := rfl

theorem solid_markerName : ∀ char ∈ markerName, IsSolid char := by
  have checked : markerName.all (fun char => !isBlank char && char != delimiter) = true := by
    decide +kernel
  intro char member
  simpa [IsSolid] using List.all_eq_true.mp checked char member

theorem replaceBrackets_markerLead (rest : Text) :
    replaceBrackets (markerLead ++ rest) = markerLead ++ replaceBrackets rest := by
  have plain : '\\' ∉ markerName := by decide
  have named : replaceBrackets (markerLead ++ rest) =
      '\\' :: replaceBrackets (markerName ++ rest) := rfl
  rw [named, replaceBrackets_word rest plain]
  rfl

theorem collapseFrom_markerName (rest : Text) :
    collapseFrom (some '\\') [] (markerName ++ rest) =
      markerName ++ collapseFrom (some 'Q') [] rest :=
  collapseFrom_word '\\' markerName rest fun char member => (solid_markerName char member).1

/-- The normal form of a text can be cut at the lead of a marker. -/
theorem normalize_append_markerLead (before rest : Text) :
    InlineMath.normalize (before ++ (markerLead ++ rest)) =
      collapse (replaceBrackets before ++ ['\\']) ++
        (markerName ++ collapseFrom (some 'Q') [] (replaceBrackets rest)) := by
  have lead (rest : Text) : markerLead ++ rest = '\\' :: (markerName ++ rest) := rfl
  rw [InlineMath.normalize, lead, replaceBrackets_append_cons before _ rfl, ← lead,
    replaceBrackets_markerLead, lead, collapse, collapseFrom_append_cons none [] _ _ rfl,
    collapseFrom_markerName]
  rfl

/-- Whether a text is what the normal form of a marker has for a label. -/
def IsNormalLabel (label normal : Text) : Prop :=
  collapseFrom (some 'Q') [] (replaceBrackets label ++ ['\x7d']) = normal ++ ['\x7d']

theorem exists_isNormalLabel (label : Text) : ∃ normal, IsNormalLabel label normal :=
  exists_collapseFrom_concat (some 'Q') [] (replaceBrackets label) rfl

theorem IsNormalLabel.closing_iff (normalized : IsNormalLabel label normal) :
    '\x7d' ∉ normal ↔ '\x7d' ∉ label := by
  have counted := count_collapseFrom (some 'Q') (replaceBrackets label ++ ['\x7d'])
    (show isBlank '\x7d' = false from rfl) (List.forall_mem_nil _)
  rw [normalized, List.count_append, List.count_append,
    count_replaceBrackets label (by decide) (by decide) rfl] at counted
  rw [← List.count_eq_zero, ← List.count_eq_zero]
  omega

theorem replaceBrackets_append_closing (label after : Text) :
    replaceBrackets (label ++ '\x7d' :: after) =
      replaceBrackets label ++ '\x7d' :: replaceBrackets after := by
  rw [replaceBrackets_append_cons label after rfl, replaceBrackets_cons after (by decide)]

theorem IsNormalLabel.normalize_marker (normalized : IsNormalLabel label normal) :
    InlineMath.normalize (marker label) = marker normal := by
  have whole := normalize_append_markerLead [] (label ++ ['\x7d'])
  rw [replaceBrackets_append_closing label [], show replaceBrackets [] = [] from rfl,
    normalized] at whole
  rw [marker, List.append_assoc, ← List.nil_append (markerLead ++ _), whole, marker,
    List.append_assoc]
  rfl

/-- What the normal form makes of a marker does not depend on what is around it. -/
theorem IsNormalLabel.held_normalize (normalized : IsNormalLabel label normal)
    (before after : Text) :
    marker normal <:+: InlineMath.normalize (before ++ marker label ++ after) := by
  rcases exists_collapseFrom_concat none [] (replaceBrackets before)
    (show isBlank '\\' = false from rfl) with ⟨kept, split⟩
  refine ⟨kept, collapseFrom (some '\x7d') [] (replaceBrackets after), ?_⟩
  rw [List.append_assoc before, marker_append, normalize_append_markerLead, collapse, split,
    replaceBrackets_append_closing, collapseFrom_append_cons _ _ _ _ rfl, normalized]
  rw [marker, markerLead_eq]
  simp only [List.append_assoc, List.cons_append, List.nil_append]

/-- A marker in the normal form has been made of a marker, up to line feeds: it is found again after
the brackets have been replaced, and then in the text. -/
theorem exists_marker_of_normalize (held : marker normal <:+: InlineMath.normalize text) :
    ∃ label, IsNormalLabel label normal ∧ marker label <:+: text := by
  rcases held with ⟨first, rest, shape⟩
  have lead : first ++ marker normal ++ rest =
      first ++ '\\' :: (markerName ++ (normal ++ '\x7d' :: rest)) := by
    rw [List.append_assoc, marker_append]
    rfl
  rw [lead] at shape
  rcases exists_of_collapseFrom_eq_append (List.forall_mem_nil _) rfl shape.symm with
    ⟨ahead, named, replaced, _, named_shape⟩
  rcases exists_of_collapseFrom_eq_word (by decide) solid_markerName named_shape with
    ⟨inner, rfl, inner_shape⟩
  rcases exists_of_collapseFrom_eq_append (List.forall_mem_nil _) rfl inner_shape with
    ⟨spelled, behind, rfl, normalized, _⟩
  have written : replaceBrackets text =
      ahead ++ (markerLead ++ (spelled ++ '\x7d' :: behind)) := replaced
  have dollarless : delimiter ∉ markerLead := by decide
  rcases exists_of_replaceBrackets_eq_append written with ⟨before, _, rfl, _, led⟩
  rcases exists_of_replaceBrackets_eq_word dollarless led with ⟨_, rfl, labelled⟩
  rcases exists_of_replaceBrackets_eq_append labelled with ⟨label, _, rfl, rfl, closed⟩
  rcases exists_of_replaceBrackets_eq_cons (by decide) closed with ⟨after, rfl, _⟩
  refine ⟨label, normalized, before, after, ?_⟩
  rw [List.append_assoc, marker_append]

/-- A normal form holds a marker exactly if the text holds one, or what would be one without the
line feeds that the normal form takes out of it. -/
theorem exists_marker_normalize_iff :
    (∃ label, IsLabel label ∧ marker label <:+: InlineMath.normalize text) ↔
      ∃ label, '\x7d' ∉ label ∧ '\n' ∉ InlineMath.normalize (marker label) ∧
        marker label <:+: text := by
  constructor
  · rintro ⟨normal, ⟨plain, whole⟩, held⟩
    rcases exists_marker_of_normalize held with ⟨label, normalized, within⟩
    refine ⟨label, normalized.closing_iff.mp plain, ?_, within⟩
    rw [normalized.normalize_marker]
    exact mt lineFeed_mem_marker_iff.mp whole
  · rintro ⟨label, plain, whole, before, after, rfl⟩
    rcases exists_isNormalLabel label with ⟨normal, normalized⟩
    rw [normalized.normalize_marker] at whole
    exact ⟨normal, ⟨normalized.closing_iff.mpr plain, mt lineFeed_mem_marker_iff.mpr whole⟩,
      normalized.held_normalize before after⟩

end LabelPattern

namespace Diagnosis

open LabelPattern

/-- Whether a marker remains in a text for authors: the text outside all markers, put together,
holds one, or what would be one without the line feeds that the normal form takes out of it. -/
def LeavesMarker (text : Text) : Prop :=
  ∃ kept label, Stripped text kept ∧ '\x7d' ∉ label ∧
    '\n' ∉ InlineMath.normalize (marker label) ∧ marker label <:+: kept

theorem occurrences_cleaned_iff (text : Text) :
    standard.occurrences (cleaned standard text) ≠ [] ↔ LeavesMarker text := by
  rw [occurrences_ne_nil_iff, cleaned, exists_marker_normalize_iff]
  constructor
  · rintro ⟨label, plain, whole, within⟩
    exact ⟨standard.strip text, label, stripped_strip text, plain, whole, within⟩
  · rintro ⟨kept, label, stripped, plain, whole, within⟩
    rw [stripped.eq_strip] at within
    exact ⟨label, plain, whole, within⟩

/-- No marker remains if the text outside all markers holds no lead of one. -/
theorem not_leavesMarker {text : Text} (absent : ¬markerLead <:+: standard.strip text) :
    ¬LeavesMarker text := by
  rintro ⟨kept, label, stripped, _, _, within⟩
  rw [stripped.eq_strip] at within
  have lead : markerLead <:+: marker label := (List.prefix_append ..).isInfix
  exact absent (lead.trans within)

/-- When the texts of a diagnosis hold a marker. -/
theorem exists_diagnostic_marked_iff {rawError : Text} {reference : LineReference}
    (first : reference.IsFirstIn rawError) (transcript : Text) (showDebug : Bool) :
    ∃ diagnostic, diagnose rawError transcript standard showDebug = .attributed diagnostic ∧
      (standard.occurrences diagnostic.offendingFragment ≠ [] ↔
        LeavesMarker reference.fragment) ∧
      (standard.occurrences diagnostic.detail ≠ [] ↔ LeavesMarker rawError) := by
  rw [diagnose, LineReference.find?_eq_some_iff.mpr first]
  exact ⟨_, rfl, occurrences_cleaned_iff reference.fragment, occurrences_cleaned_iff rawError⟩

theorem exists_diagnostic_marked_iff_lambda :
    (∃ diagnostic, diagnose "l.5 \\lambdalabel\x7bQ1\x7d \\lambda".toList [] standard false =
        .attributed diagnostic ∧
      standard.occurrences diagnostic.offendingFragment = []) ∧
      ∃ diagnostic, diagnose "l.5 \\lambdalabel\x7bQ\n\\(\x7d".toList [] standard false =
        .attributed diagnostic ∧
      standard.occurrences diagnostic.offendingFragment ≠ [] := by
  constructor
  · have first : LineReference.IsFirstIn
        ⟨[], ['5'], " \\lambdalabel\x7bQ1\x7d \\lambda".toList⟩
        "l.5 \\lambdalabel\x7bQ1\x7d \\lambda".toList :=
      LineReference.isFirstIn_of_find? (by decide +kernel)
    rcases exists_diagnostic_marked_iff first [] false with ⟨diagnostic, told, fragment, _⟩
    refine ⟨diagnostic, told, ?_⟩
    by_contra marked
    exact not_leavesMarker (by decide +kernel) (fragment.mp marked)
  · have first : LineReference.IsFirstIn ⟨[], ['5'], " \\lambdalabel\x7bQ\n\\(\x7d".toList⟩
        "l.5 \\lambdalabel\x7bQ\n\\(\x7d".toList :=
      LineReference.isFirstIn_of_find? (by decide +kernel)
    rcases exists_diagnostic_marked_iff first [] false with ⟨diagnostic, told, fragment, _⟩
    refine ⟨diagnostic, told, fragment.mpr ⟨_, "\n\\(".toList, stripped_strip _, ?_⟩⟩
    decide +kernel

/-- Taking out a marker can put another one together. -/
theorem diagnose_rejoined :
    ∃ diagnostic,
      diagnose "l.5 \\lamb\\lambdalabel\x7bQ1\x7ddalabel\x7bQ2\x7d".toList [] standard false =
        .attributed diagnostic ∧
      standard.occurrences diagnostic.offendingFragment ≠ [] ∧
      standard.occurrences diagnostic.detail ≠ [] := by
  have first : LineReference.IsFirstIn
      ⟨[], ['5'], " \\lamb\\lambdalabel\x7bQ1\x7ddalabel\x7bQ2\x7d".toList⟩
      "l.5 \\lamb\\lambdalabel\x7bQ1\x7ddalabel\x7bQ2\x7d".toList :=
    LineReference.isFirstIn_of_find? (by decide +kernel)
  rw [diagnose, LineReference.find?_eq_some_iff.mpr first]
  exact ⟨_, rfl, by decide +kernel, by decide +kernel⟩

end Diagnosis

end Typeset
