import Typeset.Proofs.Json.Layout

/-!
# Written numbers

A number below the limit of 64 bits is read from its digits.  They are taken one by one, and the
number that has been read so far never exceeds the whole, so no digit is refused.  A zero at the
front would end the number, but a number is written with such a zero only if it is zero.
-/

namespace Typeset

namespace Json

theorem isAsciiDigit_of_mem_ofNat {number : Nat} {char : Char} (member : char ∈ Text.ofNat number) :
    Text.isAsciiDigit char = true := by
  have digit := Nat.isDigit_of_mem_toDigits (by decide) (by decide) member
  simpa [Char.isDigit, Text.isAsciiDigit, Char.le_def] using digit

theorem le_ofDigitChars (digits : Text) (number : Nat) :
    number ≤ Nat.ofDigitChars 10 digits number := by
  induction digits generalizing number with
  | nil => simp
  | cons digit digits ih =>
      have later := ih (10 * number + (digit.toNat - '0'.toNat))
      rw [Nat.ofDigitChars_cons]
      omega

theorem eq_nil_of_ofNat_eq_cons {number : Nat} {others : Text}
    (zero : Text.ofNat number = '0' :: others) : others = [] := by
  unfold Text.ofNat at zero
  induction number using Nat.strongRecOn generalizing others with
  | ind number ih =>
      by_cases small : number < 10
      · rw [Nat.toDigits_of_lt_base small] at zero
        injection zero with _ single
        exact single.symm
      · rw [Nat.toDigits_of_base_le (by decide) (by omega)] at zero
        cases front : Nat.toDigits 10 (number / 10) with
        | nil => exact absurd front Nat.toDigits_ne_nil
        | cons first more =>
            rw [front, List.cons_append] at zero
            injection zero with isZero _
            have single := ih (number / 10) (by omega) (front.trans (by rw [isZero]))
            have value := Nat.ofDigitChars_ten_toDigits (n := number / 10)
            rw [front, single, isZero] at value
            simp only [Nat.ofDigitChars_cons, Nat.ofDigitChars_nil] at value
            omega

namespace Reader

/-- All digits are taken if the number that they make does not exceed the limit. -/
theorem digitsBelow_of_le {limit : Nat} {digits : Text}
    (ascii : ∀ char ∈ digits, Text.isAsciiDigit char = true) (number count : Nat)
    (within : Nat.ofDigitChars 10 digits number ≤ limit) :
    digitsBelow limit number count digits =
      ((Nat.ofDigitChars 10 digits number, count + digits.length, false), []) := by
  induction digits generalizing number count with
  | nil => rfl
  | cons digit digits ih =>
      rw [List.forall_mem_cons] at ascii
      have value : number * 10 + digitValue digit = 10 * number + (digit.toNat - '0'.toNat) := by
        rw [Nat.mul_comm]
        rfl
      rw [Nat.ofDigitChars_cons] at within ⊢
      have fits := Nat.le_trans (le_ofDigitChars digits _) within
      simp only [digitsBelow, ascii.1, value, fits, if_true]
      rw [ih ascii.2 _ _ within, List.length_cons]
      congr 3
      omega

theorem number_ofNat {value : Nat} (within : value ≤ maxNatural) :
    number false (Text.ofNat value) = .ok (.natural value, []) := by
  have read : Nat.ofDigitChars 10 (Text.ofNat value) 0 = value := Nat.ofDigitChars_ten_toDigits
  have ascii : ∀ char ∈ Text.ofNat value, Text.isAsciiDigit char = true :=
    fun _ => isAsciiDigit_of_mem_ofNat
  cases digits : Text.ofNat value with
  | nil => exact absurd digits Nat.toDigits_ne_nil
  | cons first others =>
      rw [digits] at read ascii
      rw [List.forall_mem_cons] at ascii
      refine bind_eq_ok (next?_cons first others) ?_
      by_cases zero : first = '0'
      · have single := eq_nil_of_ofNat_eq_cons (digits.trans (by rw [zero]))
        subst zero single
        have isZero : value = 0 := by simpa [Nat.ofDigitChars_cons] using read.symm
        rw [isZero]
        rfl
      · rw [Nat.ofDigitChars_cons] at read
        have start : 10 * 0 + (first.toNat - '0'.toNat) = digitValue first := by
          rw [Nat.mul_zero, Nat.zero_add]
          rfl
        rw [start] at read
        have taken := digitsBelow_of_le ascii.2 (digitValue first) 0
          (Nat.le_trans (Nat.le_of_eq read) within)
        rw [read] at taken
        simp only [zero, ascii.1, if_true, if_false]
        refine bind_eq_ok (skip_cons first others) ?_
        refine bind_eq_ok (congrArg Except.ok taken) ?_
        rfl

/-- A text of digits is read as a number, since no other value begins with a digit. -/
theorem any_ofNat (depth : Nat) {value : Nat} (within : value ≤ maxNatural) :
    any (depth + 1) (Text.ofNat value) = .ok (.natural value, []) := by
  have read := number_ofNat within
  cases digits : Text.ofNat value with
  | nil => exact absurd digits Nat.toDigits_ne_nil
  | cons first others =>
      have ascii : Text.isAsciiDigit first = true :=
        @isAsciiDigit_of_mem_ofNat value first (digits ▸ List.mem_cons_self ..)
      have other (char : Char) (letter : Text.isAsciiDigit char = false) : first ≠ char := by
        rintro rfl
        rw [ascii] at letter
        cases letter
      have solid : isBlank first = false := by
        simp [isBlank, other ' ' rfl, other '\n' rfl, other '\t' rfl, other '\r' rfl]
      have notNull := other 'n' rfl
      have notTrue := other 't' rfl
      have notFalse := other 'f' rfl
      have notNegative := other '-' rfl
      have notText := other '"' rfl
      have notList := other '[' rfl
      have notObject := other '\x7b' rfl
      rw [digits] at read
      refine bind_eq_ok (afterBlanks?_cons solid others) ?_
      simp only [ascii, if_true]
      exact bind_eq_ok read rfl

end Reader

end Json

end Typeset
