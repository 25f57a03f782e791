import Typeset.Diagnosis

/-!
# How a failure is attributed

A reference to a line is `l.` with as many decimal digits after it as there are. The first one in an
error is described by the text around it: no reference begins earlier. The search finds exactly this
one.

Attribution goes from the first entry on or after the line one entry back, and forward again if the
fragment opens a marker. While the entry that is reached is in the index, the index stays as it is.
-/

namespace Typeset

namespace LineReference

/-- Whether a reference, with the text around it, is the first one in a text. -/
structure IsFirstIn (reference : LineReference) (text : Text) : Prop where
  split : text = reference.before ++ 'l' :: '.' :: (reference.digits ++ reference.after)
  digits_ne_nil : reference.digits ≠ []
  digits_decimal : ∀ digit ∈ reference.digits, isDecimalDigit digit = true
  longest : ∀ char ∈ reference.after.head?, isDecimalDigit char = false
  earliest : ∀ before digit after, text = before ++ 'l' :: '.' :: digit :: after →
    isDecimalDigit digit = true → reference.before.length ≤ before.length

theorem leading?_isSome {digit : Char} (rest : Text) (decimal : isDecimalDigit digit = true) :
    (leading? ('l' :: '.' :: digit :: rest)).isSome = true := by
  simp [leading?, decimal]

/-- A text begins with a reference if it begins with `l.` and digits, none of which is left over. -/
theorem leading?_eq_some_iff {text digits after : Text} :
    leading? text = some (digits, after) ↔
      text = 'l' :: '.' :: (digits ++ after) ∧ digits ≠ [] ∧
        (∀ digit ∈ digits, isDecimalDigit digit = true) ∧
        ∀ char ∈ after.head?, isDecimalDigit char = false := by
  constructor
  · intro leads
    unfold leading? at leads
    split at leads
    · rename_i rest
      cases taken : rest.takeWhile isDecimalDigit with
      | nil => simp [taken] at leads
      | cons digit more =>
          simp only [taken, Option.some.injEq, Prod.mk.injEq] at leads
          rcases leads with ⟨rfl, rfl⟩
          rw [← taken, List.takeWhile_append_dropWhile]
          refine ⟨rfl, by simp [taken], ?_, ?_⟩
          · exact List.all_eq_true.mp List.all_takeWhile
          · intro char next
            have stopped := List.head?_dropWhile_not isDecimalDigit rest
            rw [Option.mem_def.mp next] at stopped
            exact stopped
    · simp at leads
  · rintro ⟨rfl, nonempty, decimal, longest⟩
    have stopped : after.takeWhile isDecimalDigit = [] ∧
        after.dropWhile isDecimalDigit = after := by
      cases after with
      | nil => simp
      | cons char after => simp [longest char (by simp)]
    have taken : (digits ++ after).takeWhile isDecimalDigit = digits := by
      rw [List.takeWhile_append_of_pos decimal, stopped.1, List.append_nil]
    have dropped : (digits ++ after).dropWhile isDecimalDigit = after := by
      rw [List.dropWhile_append_of_pos decimal, stopped.2]
    rw [leading?, taken, dropped]
    cases digits with
    | nil => exact absurd rfl nonempty
    | cons digit digits => rfl

theorem isFirstIn_of_find? {reference : LineReference} {text : Text}
    (found : find? text = some reference) : reference.IsFirstIn text := by
  induction text generalizing reference with
  | nil => simp [find?] at found
  | cons char rest ih =>
      rw [find?] at found
      cases leads : leading? (char :: rest) with
      | some here =>
          rw [leads] at found
          cases found
          rcases leading?_eq_some_iff.mp leads with ⟨split, nonempty, decimal, longest⟩
          exact ⟨split, nonempty, decimal, longest, fun _ _ _ _ _ => Nat.zero_le _⟩
      | none =>
          rw [leads, Option.map_eq_some_iff] at found
          rcases found with ⟨later, found, rfl⟩
          have first := ih found
          refine ⟨by rw [first.split]; rfl, first.digits_ne_nil, first.digits_decimal,
            first.longest, ?_⟩
          intro before digit after split decimal
          cases before with
          | nil =>
              have here := leading?_isSome after decimal
              rw [List.nil_append] at split
              simp [← split, leads] at here
          | cons head before =>
              rw [List.cons_append, List.cons.injEq] at split
              have ordered := first.earliest before digit after split.2 decimal
              simpa using ordered

/-- The search stops at the first reference, since a reference before it would be the first. -/
theorem find?_eq_some_of_isFirstIn {reference : LineReference} {text : Text}
    (first : reference.IsFirstIn text) : find? text = some reference := by
  rcases reference with ⟨before, digits, after⟩
  induction text generalizing before with
  | nil => simpa using first.split
  | cons char rest ih =>
      have split := first.split
      cases before with
      | nil =>
          have leads := leading?_eq_some_iff.mpr
            ⟨split, first.digits_ne_nil, first.digits_decimal, first.longest⟩
          rw [find?, leads]
      | cons head before =>
          simp only [List.cons_append, List.cons.injEq] at split
          rcases split with ⟨rfl, split⟩
          have later : IsFirstIn ⟨before, digits, after⟩ rest := by
            refine ⟨split, first.digits_ne_nil, first.digits_decimal, first.longest, ?_⟩
            intro other digit after other_split decimal
            have ordered := first.earliest (char :: other) digit after
              (by rw [other_split, List.cons_append]) decimal
            simpa using ordered
          have not_here : leading? (char :: rest) = none := by
            cases leads : leading? (char :: rest) with
            | none => rfl
            | some found =>
                rcases leading?_eq_some_iff.mp leads with ⟨here, nonempty, decimal, _⟩
                rcases List.exists_cons_of_ne_nil nonempty with ⟨digit, more, shape⟩
                rw [shape] at here decimal
                have ordered := first.earliest [] digit (more ++ found.2) here
                  (decimal digit (by simp))
                simp at ordered
          rw [find?, not_here, ih before later]
          rfl

/-- The search finds the first reference, and nothing else. -/
theorem find?_eq_some_iff {reference : LineReference} {text : Text} :
    find? text = some reference ↔ reference.IsFirstIn text :=
  ⟨isFirstIn_of_find?, find?_eq_some_of_isFirstIn⟩

/-- A text refers to a line: somewhere in it a digit follows `l.`. -/
def OccursIn (text : Text) : Prop :=
  ∃ before digit after, text = before ++ 'l' :: '.' :: digit :: after ∧
    isDecimalDigit digit = true

theorem IsFirstIn.occursIn {reference : LineReference} {text : Text}
    (first : reference.IsFirstIn text) : OccursIn text := by
  rcases List.exists_cons_of_ne_nil first.digits_ne_nil with ⟨digit, more, shape⟩
  refine ⟨reference.before, digit, more ++ reference.after, ?_, ?_⟩
  · rw [first.split, shape, List.cons_append]
  · exact first.digits_decimal digit (by simp [shape])

/-- The search fails only on a text that refers to no line. -/
theorem find?_eq_none_iff {text : Text} : find? text = none ↔ ¬OccursIn text := by
  constructor
  · rintro missed ⟨before, digit, after, rfl, decimal⟩
    induction before with
    | nil =>
        have here := leading?_isSome after decimal
        rw [List.nil_append, find?] at missed
        cases leads : leading? ('l' :: '.' :: digit :: after) with
        | none => simp [leads] at here
        | some found => simp [leads] at missed
    | cons char before ih =>
        rw [List.cons_append, find?] at missed
        cases leads : leading? (char :: (before ++ 'l' :: '.' :: digit :: after)) with
        | none =>
            rw [leads, Option.map_eq_none_iff] at missed
            exact ih missed
        | some found => simp [leads] at missed
  · intro absent
    cases found : find? text with
    | none => rfl
    | some reference => exact absurd (isFirstIn_of_find? found).occursIn absent

theorem line_eq {reference : LineReference} {line : Nat}
    (number : Text.toNat? reference.digits = some line) (within : line ≤ maxLine) :
    reference.line = line := by
  rw [LineReference.line, number]
  exact if_pos within

end LineReference

namespace Diagnosis

theorem locate_eq {index : LabelIndex} {line found target : Nat} {opensMarker : Bool}
    (search : index.firstAtOrAfter? line = some found)
    (step : found + opensMarker.toNat = target + 1) (within : target < index.size) :
    locate index line opensMarker = (index, target) := by
  have reached : (found : Int) - 1 + (if opensMarker then 1 else 0) = target := by
    cases opensMarker <;> simp at step ⊢ <;> omega
  simp only [locate, search, reached]
  simp [within]

theorem labelAt_eq {index : LabelIndex} {position : Nat}
    (within : position < index.entries.length) :
    labelAt index position = index.entries[position].label := by
  simp [labelAt, LabelIndex.get?, within]

/-- A failure with a reference belongs to the section at the place that its line leads to. -/
theorem sectionLabel?_diagnose {rawError transcript : Text} {pattern : Pattern}
    {reference : LineReference} (first : reference.IsFirstIn rawError) (showDebug : Bool) :
    (diagnose rawError transcript pattern showDebug).sectionLabel? =
      some
        (let (index, position) :=
          locate (LabelIndex.build transcript pattern) reference.line
            (pattern.opens reference.fragment)
        labelAt index position) := by
  rw [diagnose, LineReference.find?_eq_some_iff.mpr first]
  rfl

/-- A diagnosis names no section only if the error refers to no line. -/
theorem sectionLabel?_eq_none_iff {rawError transcript : Text} {pattern : Pattern}
    {showDebug : Bool} :
    (diagnose rawError transcript pattern showDebug).sectionLabel? = none ↔
      ¬LineReference.OccursIn rawError := by
  rw [← LineReference.find?_eq_none_iff, diagnose]
  cases LineReference.find? rawError with
  | none => simp [sectionLabel?]
  | some reference => simp [sectionLabel?]

end Diagnosis

end Typeset
