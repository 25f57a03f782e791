import Mathlib.Data.List.Basic
import Typeset.Proofs.Text.Utf8
import Typeset.Url.Percent

/-!
# Encoded texts

An encoded text holds none of the characters that had to be encoded.  Where percent signs are
encoded as well, decoding gives back the bytes of the text, so texts that are encoded alike are
equal.
-/

namespace Typeset

namespace Text

theorem toLower_cases (char : Char) :
    char.toLower = char ∨
      (65 ≤ char.toNat ∧ char.toNat ≤ 90 ∧ char.toLower.toNat = char.toNat + 32) := by
  by_cases upper : char.val ≥ 'A'.val ∧ char.val ≤ 'Z'.val
  · have low : 65 ≤ char.toNat := upper.1
    have high : char.toNat ≤ 90 := upper.2
    have moved : char.toLower.val = char.val + 32 := congrArg Char.val (dif_pos upper)
    refine .inr ⟨low, high, ?_⟩
    rw [← Char.toNat_val, moved, UInt32.toNat_add, Char.toNat_val]
    change (char.toNat + 32) % 4294967296 = _
    omega
  · exact .inl (dif_neg upper)

/-- Whatever is no small letter in lower case has been itself before. -/
theorem eq_of_toLower_eq {char mark : Char} (lower : char.toLower = mark)
    (other : mark.toNat < 97 ∨ 122 < mark.toNat) : char = mark := by
  rcases toLower_cases char with same | ⟨low, high, moved⟩
  · rw [← same, lower]
  · rw [lower] at moved
    omega

end Text

namespace Percent

variable {reserved : List Char} {char : Char} {text : Text}

theorem digitValue?_digit : ∀ value < 16, digitValue? (digit value) = some value := by
  decide

theorem isAlphanum_digit : ∀ value < 16, (digit value).isAlphanum = true := by
  decide

/-- Encoding leaves only percent signs, letters, digits and what need not be encoded. -/
theorem mem_encode (member : char ∈ encode reserved text) :
    char = '%' ∨ char.isAlphanum = true ∨
      (char ∈ text ∧ isAlwaysEncoded char = false ∧ char ∉ reserved) := by
  rcases List.mem_flatMap.mp member with ⟨source, present, written⟩
  unfold encodeChar at written
  split at written
  · rcases List.mem_flatMap.mp written with ⟨byte, _, written⟩
    have high : byte.toNat / 16 < 16 := by
      have := byte.toNat_lt
      omega
    have low : byte.toNat % 16 < 16 := Nat.mod_lt _ (by decide)
    simp only [encodeByte, List.mem_cons, List.not_mem_nil, or_false] at written
    rcases written with rfl | rfl | rfl
    · exact .inl rfl
    · exact .inr (.inl (isAlphanum_digit _ high))
    · exact .inr (.inl (isAlphanum_digit _ low))
  · rename_i free
    rw [List.mem_singleton] at written
    subst written
    simp only [Bool.or_eq_true, List.contains_eq_mem, decide_eq_true_eq, not_or,
      Bool.not_eq_true] at free
    exact .inr (.inr ⟨present, free⟩)

/-- A reserved character that is neither a percent sign nor a letter nor a digit does not occur in
an encoded text. -/
theorem not_mem_encode (isReserved : char ∈ reserved) (other : char ≠ '%')
    (mark : char.isAlphanum = false) : char ∉ encode reserved text := by
  intro member
  rcases mem_encode member with rfl | alphanumeric | ⟨_, _, free⟩
  · exact other rfl
  · rw [mark] at alphanumeric
    cases alphanumeric
  · exact free isReserved

theorem encodeChar_ne_nil (reserved : List Char) (char : Char) : encodeChar reserved char ≠ [] := by
  unfold encodeChar
  split
  · intro empty
    have bytes : Text.toUtf8 [char] = Text.toUtf8 [] := by
      rw [List.flatMap_eq_nil_iff] at empty
      exact List.eq_nil_iff_forall_not_mem.mpr fun byte member => nomatch empty byte member
    cases Text.toUtf8_injective bytes
  · simp

@[simp]
theorem encode_eq_nil_iff : encode reserved text = [] ↔ text = [] := by
  cases text with
  | nil => simp [encode]
  | cons char rest => simp [encode, encodeChar_ne_nil]

theorem decode_encodeByte_append (byte : UInt8) (rest : Text) :
    decode (encodeByte byte ++ rest) = byte :: decode rest := by
  have high : byte.toNat / 16 < 16 := by
    have := byte.toNat_lt
    omega
  have low : byte.toNat % 16 < 16 := Nat.mod_lt _ (by decide)
  have whole : byte.toNat / 16 * 16 + byte.toNat % 16 = byte.toNat := by omega
  simp [encodeByte, decode, digitValue?_digit _ high, digitValue?_digit _ low, whole]

theorem decode_flatMap_encodeByte_append (bytes : Bytes) (rest : Text) :
    decode (bytes.flatMap encodeByte ++ rest) = bytes ++ decode rest := by
  induction bytes with
  | nil => rfl
  | cons byte bytes ih =>
      rw [List.flatMap_cons, List.append_assoc, decode_encodeByte_append, ih, List.cons_append]

theorem decode_cons_of_ne (plain : char ≠ '%') (rest : Text) :
    decode (char :: rest) = Text.toUtf8 [char] ++ decode rest := by
  rw [decode]
  intro high low more first _
  exact plain first

/-- Where percent signs are encoded, decoding gives back the bytes that were encoded. -/
theorem decode_encode (percent : '%' ∈ reserved) (text : Text) :
    decode (encode reserved text) = text.toUtf8 := by
  induction text with
  | nil => rfl
  | cons char rest ih =>
      change decode (encodeChar reserved char ++ encode reserved rest) = _
      rw [Text.toUtf8_cons]
      unfold encodeChar
      split
      · rw [decode_flatMap_encodeByte_append, ih]
        simp
      · rename_i free
        have plain : char ≠ '%' := by
          rintro rfl
          simp [percent] at free
        rw [List.singleton_append, decode_cons_of_ne plain, ih]
        simp

/-- Where percent signs are encoded, texts that are encoded alike are equal. -/
theorem encode_injective (percent : '%' ∈ reserved) : Function.Injective (encode reserved) := by
  intro first second same
  apply Text.toUtf8_injective
  rw [← decode_encode percent first, same, decode_encode percent second]

end Percent

end Typeset
