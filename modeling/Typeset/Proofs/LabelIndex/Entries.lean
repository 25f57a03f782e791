import Typeset.LabelIndex
import Typeset.Proofs.Pattern.Pieces
import Typeset.Proofs.Text.Lines

/-!
# The entries of a label index

An index is built in one pass that carries the line along from piece to piece.  What it carries is
the line of the next place in the whole text, so the entry of a match has the line that the whole
text gives to the place where the match begins.
-/

namespace Typeset

namespace LabelIndex

open Pattern (Match Piece)

/-- The entry for a match that begins at a place of a text. -/
def entryAt (text : Text) (found : Nat × Match) : LabelEntry :=
  ⟨text.lineAt found.1, labelOf found.2⟩

/-- The line that is carried along is the line of the place that has been reached. -/
theorem entriesFrom_eq_map_located (before rest : Text) (pieces : List Piece)
    (covered : pieces.flatMap Piece.text = rest) :
    entriesFrom ((before ++ rest).lineAt before.length) rest pieces =
      (Pattern.located before.length pieces).map (entryAt (before ++ rest)) := by
  induction pieces generalizing before rest with
  | nil => rfl
  | cons piece pieces ih =>
      rw [List.flatMap_cons] at covered
      subst covered
      have later := ih (before ++ piece.text) (pieces.flatMap Piece.text) rfl
      rw [List.append_assoc, List.length_append, Text.lineAt_append_append] at later
      simp only [entriesFrom, List.drop_left', later]
      cases piece with
      | plain char => rfl
      | found hit => rfl

/-- An index holds the start, the matches in order, each on its line, and the end. -/
theorem entries_build (transcript : Text) (pattern : Pattern) :
    (build transcript pattern).entries =
      ⟨1, startLabel⟩ ::
        (Pattern.located 0 (pattern.pieces transcript)).map (entryAt transcript) ++
          [⟨transcript.lineCount, endLabel⟩] := by
  have passed := entriesFrom_eq_map_located [] transcript (pattern.pieces transcript)
    (pattern.flatMap_text_pieces transcript)
  simp only [List.nil_append, List.length_nil, Text.lineAt_zero] at passed
  rw [build, passed]

/-- The entries for the matches of a pattern in a transcript, from left to right. -/
def sections (transcript : Text) (pattern : Pattern) : List LabelEntry :=
  (Pattern.located 0 (pattern.pieces transcript)).map (entryAt transcript)

theorem entries_build_eq_sections (transcript : Text) (pattern : Pattern) :
    (build transcript pattern).entries =
      ⟨1, startLabel⟩ :: sections transcript pattern ++ [⟨transcript.lineCount, endLabel⟩] :=
  entries_build transcript pattern

/-- Between its ends, an index has the labels that the matches capture. -/
theorem map_label_build (transcript : Text) (pattern : Pattern) :
    (build transcript pattern).entries.map LabelEntry.label =
      startLabel :: (pattern.occurrences transcript).map labelOf ++ [endLabel] := by
  have labels : (sections transcript pattern).map LabelEntry.label =
      (pattern.occurrences transcript).map labelOf := by
    rw [sections, Pattern.occurrences, ← Pattern.map_snd_located 0, List.map_map, List.map_map]
    rfl
  rw [entries_build_eq_sections, List.map_append, List.map_cons, labels]
  rfl

/-- The sections begin on the lines of the transcript in order. -/
theorem pairwise_sections (transcript : Text) (pattern : Pattern) :
    (sections transcript pattern).Pairwise (·.line ≤ ·.line) := by
  refine List.Pairwise.map (entryAt transcript) ?_ (Pattern.pairwise_located 0 _)
  intro found later ordered
  exact transcript.lineAt_le_lineAt ordered

theorem line_of_mem_sections {transcript : Text} {pattern : Pattern} {entry : LabelEntry}
    (member : entry ∈ sections transcript pattern) :
    1 ≤ entry.line ∧ entry.line ≤ transcript.lineCount := by
  rcases List.mem_map.mp member with ⟨found, located, rfl⟩
  have within := (Pattern.place_of_mem_located located).2
  rw [Pattern.flatMap_text_pieces, Nat.zero_add] at within
  exact ⟨transcript.one_le_lineAt found.1, transcript.lineAt_le_lineCount within⟩

theorem firstAtOrAfter?_eq_none_iff {index : LabelIndex} {line : Nat} :
    index.firstAtOrAfter? line = none ↔ ∀ entry ∈ index.entries, entry.line < line := by
  simp [firstAtOrAfter?]

/-- The search for a line stops at the first entry that is not before it. -/
theorem firstAtOrAfter?_eq_some {index : LabelIndex} {line position : Nat}
    (within : position < index.entries.length) (reached : line ≤ index.entries[position].line)
    (earlier : ∀ other (present : other < position), index.entries[other].line < line) :
    index.firstAtOrAfter? line = some position := by
  rw [firstAtOrAfter?, List.findIdx?_eq_some_iff_getElem]
  refine ⟨within, by simpa using reached, ?_⟩
  intro other present
  simpa using earlier other present

end LabelIndex

end Typeset
