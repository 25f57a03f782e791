import Typeset.Text.Basic

/-!
# Parts between marks

A text that is split at a mark is put together again by joining the parts.  Splitting goes through a
mark: the parts of two texts with a mark between them are the parts of the first and then those of
the second, and a text without the mark is a single part.
-/

namespace Typeset

namespace Text

variable {mark char : Char} {text : Text}

theorem splitAt_ne_nil (mark : Char) (text : Text) : splitAt mark text ≠ [] := by
  cases text with
  | nil => simp [splitAt]
  | cons char rest =>
      rw [splitAt]
      split
      · simp
      · split <;> simp

@[simp]
theorem splitAt_cons_self (mark : Char) (rest : Text) :
    splitAt mark (mark :: rest) = [] :: splitAt mark rest := by
  rw [splitAt]
  cases parts : splitAt mark rest with
  | nil => exact absurd parts (splitAt_ne_nil mark rest)
  | cons part parts => simp

theorem splitAt_cons_of_ne (distinct : char ≠ mark) {rest part : Text} {parts : List Text}
    (split : splitAt mark rest = part :: parts) :
    splitAt mark (char :: rest) = (char :: part) :: parts := by
  rw [splitAt, split]
  simp [distinct]

theorem splitAt_of_not_mem (absent : mark ∉ text) : splitAt mark text = [text] := by
  induction text with
  | nil => rfl
  | cons char rest ih =>
      rw [List.mem_cons, not_or] at absent
      exact splitAt_cons_of_ne (Ne.symm absent.1) (ih absent.2)

theorem splitAt_append_cons (mark : Char) (first second : Text) :
    splitAt mark (first ++ mark :: second) = splitAt mark first ++ splitAt mark second := by
  induction first with
  | nil => simp [splitAt]
  | cons char rest ih =>
      rw [List.cons_append]
      by_cases here : char = mark
      · rw [here, splitAt_cons_self, splitAt_cons_self, ih, List.cons_append]
      · cases parts : splitAt mark rest with
        | nil => exact absurd parts (splitAt_ne_nil mark rest)
        | cons part parts =>
            rw [parts, List.cons_append] at ih
            rw [splitAt_cons_of_ne here ih, splitAt_cons_of_ne here ‹_›, List.cons_append]

theorem not_mem_of_mem_splitAt {part : Text} (member : part ∈ splitAt mark text) :
    mark ∉ part := by
  induction text generalizing part with
  | nil =>
      rw [splitAt, List.mem_singleton] at member
      simp [member]
  | cons char rest ih =>
      by_cases here : char = mark
      · rw [here, splitAt_cons_self, List.mem_cons] at member
        rcases member with rfl | later
        · simp
        · exact ih later
      · cases parts : splitAt mark rest with
        | nil => exact absurd parts (splitAt_ne_nil mark rest)
        | cons first others =>
            rw [splitAt_cons_of_ne here parts, List.mem_cons] at member
            rw [parts] at ih
            rcases member with rfl | later
            · rw [List.mem_cons, not_or]
              exact ⟨Ne.symm here, ih (List.mem_cons_self ..)⟩
            · exact ih (List.mem_cons_of_mem _ later)

/-- A mark that is not in the first part of a text comes after this part. -/
theorem exists_of_append_eq_append_cons {kept tail first rest : Text} (absent : char ∉ kept)
    (same : kept ++ tail = first ++ char :: rest) :
    ∃ more, first = kept ++ more ∧ tail = more ++ char :: rest := by
  rcases List.append_eq_append_iff.mp same with ⟨more, head, tail⟩ | ⟨more, head, tail⟩
  · exact ⟨more, head, tail⟩
  · cases more with
    | nil =>
        rw [List.append_nil] at head
        exact ⟨[], by rw [head, List.append_nil], tail.symm⟩
    | cons other more =>
        injection tail with same
        rw [head, ← same] at absent
        simp at absent

/-- A part whose characters go on ends where one comes that does not. -/
theorem span_append {goesOn : Char → Bool} {part rest : Text}
    (inside : ∀ char ∈ part, goesOn char = true)
    (stops : ∀ char ∈ rest.head?, goesOn char = false) :
    (part ++ rest).takeWhile goesOn = part ∧ (part ++ rest).dropWhile goesOn = rest := by
  rw [List.takeWhile_append_of_pos inside, List.dropWhile_append_of_pos inside]
  cases rest with
  | nil => simp
  | cons char rest => simp [stops char rfl]

theorem joined_cons_of_ne_nil (separator first : Text) {parts : List Text} (more : parts ≠ []) :
    joined separator (first :: parts) = first ++ separator ++ joined separator parts := by
  cases parts with
  | nil => exact absurd rfl more
  | cons second rest => rfl

@[simp]
theorem joined_splitAt (mark : Char) (text : Text) : joined [mark] (splitAt mark text) = text := by
  induction text with
  | nil => rfl
  | cons char rest ih =>
      by_cases here : char = mark
      · rw [here, splitAt_cons_self, joined_cons_of_ne_nil _ _ (splitAt_ne_nil mark rest), ih]
        rfl
      · cases parts : splitAt mark rest with
        | nil => exact absurd parts (splitAt_ne_nil mark rest)
        | cons part others =>
            rw [splitAt_cons_of_ne here parts]
            rw [parts] at ih
            cases others with
            | nil => simpa [joined] using ih
            | cons second others => simpa [joined] using ih

end Text

end Typeset
