import Typeset.Text.Blank
import Typeset.Text.Digit

/-!
# Trimmed texts

Trimming leaves a text that neither begins nor ends with a blank, and takes away nothing but blanks.
Digits are no blanks, so a number is a trimmed text as it is written.
-/

namespace Typeset

theorem CodeRanges.exists_of_contains {table : CodeRanges} {code : Nat}
    (inside : table.contains code = true) :
    ∃ range ∈ table, range.1 ≤ code ∧ code ≤ range.2 := by
  induction table with
  | nil => cases inside
  | cons range table ih =>
      simp only [contains, Bool.and_eq_true, Bool.or_eq_true, decide_eq_true_eq] at inside
      rcases inside with ⟨above, below | later⟩
      · exact ⟨range, List.mem_cons_self .., above, below⟩
      · rcases ih later with ⟨other, member, bounds⟩
        exact ⟨other, List.mem_cons_of_mem _ member, bounds⟩

/-- A digit of whatever script is no blank. -/
theorem isBlank_of_isDecimalDigit {char : Char} (decimal : isDecimalDigit char = true) :
    isBlank char = false := by
  have apart : ∀ blanks ∈ blankRanges, ∀ digits ∈ decimalDigitRanges,
      blanks.2 < digits.1 ∨ digits.2 < blanks.1 := by
    decide +kernel
  rw [← Bool.not_eq_true]
  intro blank
  rcases CodeRanges.exists_of_contains decimal with ⟨digits, digitsMem, digitsBounds⟩
  rcases CodeRanges.exists_of_contains blank with ⟨blanks, blanksMem, blanksBounds⟩
  have distinct := apart blanks blanksMem digits digitsMem
  omega

namespace Text

/-- A text that is not empty and has no blank at either end. -/
structure IsTrimmed (text : Text) : Prop where
  ne_nil : text ≠ []
  head : ∀ char ∈ text.head?, isBlank char = false
  last : ∀ char ∈ text.getLast?, isBlank char = false

theorem isBlank_of_isDigit {char : Char} (digit : char.isDigit = true) : isBlank char = false := by
  simp only [Char.isDigit, Bool.and_eq_true, decide_eq_true_eq, ge_iff_le,
    UInt32.le_iff_toNat_le] at digit
  have bounds : 48 ≤ char.toNat ∧ char.toNat ≤ 57 := digit
  simp only [isBlank, blankRanges, CodeRanges.contains, Bool.and_eq_false_iff, Bool.or_eq_false_iff,
    decide_eq_false_iff_not]
  omega

theorem IsTrimmed.exists_eq_cons {text : Text} (trimmed : text.IsTrimmed) :
    ∃ char rest, text = char :: rest ∧ isBlank char = false := by
  rcases List.exists_cons_of_ne_nil trimmed.ne_nil with ⟨char, rest, rfl⟩
  exact ⟨char, rest, rfl, trimmed.head char rfl⟩

theorem IsTrimmed.exists_eq_concat {text : Text} (trimmed : text.IsTrimmed) :
    ∃ first char, text = first ++ [char] ∧ isBlank char = false := by
  have ended := List.getLast?_eq_some_getLast trimmed.ne_nil
  rcases List.getLast?_eq_some_iff.mp ended with ⟨first, split⟩
  exact ⟨first, _, split, trimmed.last _ ended⟩

theorem getLast?_trim {text : Text} : ∀ char ∈ text.trim.getLast?, isBlank char = false := by
  intro char last
  rw [trim, trimEnd, dropEndWhile, List.getLast?_reverse, Option.mem_def] at last
  have stopped := List.head?_dropWhile_not isBlank text.trimStart.reverse
  rw [last] at stopped
  exact stopped

theorem dropEndWhile_append_takeWhile (drops : Char → Bool) (text : Text) :
    text.dropEndWhile drops ++ (text.reverse.takeWhile drops).reverse = text := by
  rw [dropEndWhile, ← List.reverse_append, List.takeWhile_append_dropWhile, List.reverse_reverse]

/-- What is left of a text whose end is dropped is a part of it from its start. -/
theorem dropEndWhile_prefix (drops : Char → Bool) (text : Text) :
    text.dropEndWhile drops <+: text :=
  ⟨_, dropEndWhile_append_takeWhile drops text⟩

theorem head?_trim {text : Text} : ∀ char ∈ text.trim.head?, isBlank char = false := by
  intro char first
  rw [Option.mem_def, trim, trimEnd] at first
  rcases dropEndWhile_prefix isBlank text.trimStart with ⟨dropped, whole⟩
  have start : text.trimStart.head? = some char := by
    rw [← whole, List.head?_append, first, Option.some_or]
  have stopped := List.head?_dropWhile_not isBlank text
  rw [trimStart] at start
  rw [start] at stopped
  exact stopped

theorem isTrimmed_trim {text : Text} (left : text.trim ≠ []) : text.trim.IsTrimmed :=
  ⟨left, head?_trim, getLast?_trim⟩

/-- Trimming takes away nothing but blanks. -/
theorem exists_blanks_trim (text : Text) :
    ∃ lead tail, text = lead ++ (text.trim ++ tail) ∧ (∀ char ∈ lead, isBlank char = true) ∧
      ∀ char ∈ tail, isBlank char = true := by
  refine ⟨text.takeWhile isBlank, (text.trimStart.reverse.takeWhile isBlank).reverse, ?_, ?_, ?_⟩
  · rw [trim, trimEnd, dropEndWhile_append_takeWhile, trimStart, List.takeWhile_append_dropWhile]
  · exact List.all_eq_true.mp List.all_takeWhile
  · intro char member
    exact List.all_eq_true.mp List.all_takeWhile char (List.mem_reverse.mp member)

/-- Nothing is left of a text by trimming just if it is blank. -/
theorem trim_eq_nil_iff {text : Text} :
    text.trim = [] ↔ ∀ char ∈ text, isBlank char = true := by
  rcases exists_blanks_trim text with ⟨lead, tail, whole, leadBlank, tailBlank⟩
  constructor
  · intro nothing char member
    rw [whole, nothing, List.nil_append, List.mem_append] at member
    exact member.elim (leadBlank char) (tailBlank char)
  · intro blank
    cases shape : text.trim with
    | nil => rfl
    | cons char rest =>
        have solid : isBlank char = false := head?_trim char (by rw [shape]; rfl)
        rw [blank char (by rw [whole, shape]; simp)] at solid
        cases solid

/-- Blanks after a text that ends with none are what trimming its end takes away. -/
theorem trimEnd_append_blanks {text tail : Text}
    (last : ∀ char ∈ text.getLast?, isBlank char = false)
    (blank : ∀ char ∈ tail, isBlank char = true) : (text ++ tail).trimEnd = text := by
  have passed : ∀ char ∈ tail.reverse, isBlank char = true := by
    intro char member
    exact blank char (List.mem_reverse.mp member)
  rw [trimEnd, dropEndWhile, List.reverse_append, List.dropWhile_append_of_pos passed,
    List.reverse_eq_iff]
  rw [← List.head?_reverse] at last
  cases shape : text.reverse with
  | nil => rfl
  | cons char rest =>
      rw [shape] at last
      exact List.dropWhile_cons_of_neg (by simp [last char rfl])

theorem isTrimmed_ofNat (number : Nat) : (ofNat number).IsTrimmed := by
  have digits : ∀ char ∈ ofNat number, isBlank char = false := by
    intro char member
    exact isBlank_of_isDigit (Nat.isDigit_of_mem_toDigits (by decide) (by decide) member)
  exact {
    ne_nil := Nat.toDigits_ne_nil
    head := fun char first => digits char (List.mem_of_mem_head? first)
    last := fun char last => digits char (List.mem_of_getLast? last) }

theorem IsTrimmed.getLast?_append {text : Text} (trimmed : text.IsTrimmed) (before : Text) :
    ∀ char ∈ (before ++ text).getLast?, isBlank char = false := by
  rcases trimmed.exists_eq_concat with ⟨first, last, rfl, solid⟩
  rw [← List.append_assoc, List.getLast?_concat]
  rintro char ⟨rfl⟩
  exact solid

/-- Two trimmed texts with something between them are trimmed as a whole. -/
theorem IsTrimmed.append {first second : Text} (firstTrimmed : first.IsTrimmed)
    (secondTrimmed : second.IsTrimmed) (between : Text) :
    (first ++ between ++ second).IsTrimmed where
  ne_nil := by simp [firstTrimmed.ne_nil]
  head := by
    intro char head
    rcases List.exists_cons_of_ne_nil firstTrimmed.ne_nil with ⟨start, rest, rfl⟩
    simp only [List.cons_append, List.head?_cons, Option.mem_def, Option.some.injEq] at head
    exact firstTrimmed.head char (by simp [head])
  last := secondTrimmed.getLast?_append (first ++ between)

end Text

end Typeset
