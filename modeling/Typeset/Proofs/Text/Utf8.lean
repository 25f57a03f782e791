import Mathlib.Logic.Function.Basic
import Mathlib.Tactic.IntervalCases
import Typeset.Text.Utf8

/-!
# Texts as bytes

The reader of UTF-8 gives back every text that has been written, so bytes spell a text exactly if
they are the bytes of that text.

A written character is a first byte and up to three further ones.  The first byte tells how many
follow and in which interval the next one lies; every further byte adds six bits.
-/

namespace Typeset

namespace Text

@[simp]
theorem toUtf8_nil : toUtf8 [] = [] :=
  rfl

@[simp]
theorem toUtf8_cons (char : Char) (rest : Text) :
    toUtf8 (char :: rest) = String.utf8EncodeChar char ++ toUtf8 rest :=
  rfl

end Text

namespace Utf8

theorem decodeFrom_nil : decodeFrom none [] = [] :=
  rfl

theorem decodeFrom_cons (pending : Option Begun) (byte : UInt8) (bytes : Bytes) :
    decodeFrom pending (byte :: bytes) =
      (readByte pending byte).1 ++ decodeFrom (readByte pending byte).2 bytes :=
  rfl

/-- Of every byte something is read, or is then under way. -/
theorem readByte_isSome_or_ne_nil (pending : Option Begun) (byte : UInt8) :
    (readByte pending byte).2 ≠ none ∨ (readByte pending byte).1 ≠ [] := by
  have started : (readStart byte).2 ≠ none ∨ (readStart byte).1 ≠ [] := by
    unfold readStart
    split <;> simp
  cases pending with
  | none => exact started
  | some character =>
      simp only [readByte, readFurther]
      split
      · split <;> simp
      · exact .inr (List.cons_ne_nil _ _)

/-- Something is read of every byte, and of a character that is under way. -/
theorem decodeFrom_eq_nil_iff {pending : Option Begun} {bytes : Bytes} :
    decodeFrom pending bytes = [] ↔ pending = none ∧ bytes = [] := by
  induction bytes generalizing pending with
  | nil => cases pending <;> simp [decodeFrom]
  | cons byte bytes ih =>
      rw [decodeFrom_cons, List.append_eq_nil_iff, ih]
      have made := readByte_isSome_or_ne_nil pending byte
      simp only [List.cons_ne_nil, and_false, iff_false]
      rintro ⟨nothing, none, -⟩
      exact made.elim (· none) (· nothing)

theorem decode_eq_nil_iff {bytes : Bytes} : decode bytes = [] ↔ bytes = [] := by
  simp [decode, decodeFrom_eq_nil_iff]

/-- A further byte adds six bits to the character that is under way. -/
theorem decodeFrom_further {bits more later : Nat} {low high : UInt8} (rest : Bytes)
    (small : more < 64) (above : low.toNat ≤ more + 128) (below : more + 128 ≤ high.toNat) :
    decodeFrom (some ⟨bits, low, high, later⟩) (UInt8.ofNat (more + 128) :: rest) =
      match later with
      | 0 => Char.ofNat (bits * 64 + more) :: decodeFrom none rest
      | later + 1 => decodeFrom (some ⟨bits * 64 + more, 0x80, 0xBF, later⟩) rest := by
  have value : (UInt8.ofNat (more + 128)).toNat = more + 128 := by
    rw [UInt8.toNat_ofNat']
    omega
  have within : (low ≤ UInt8.ofNat (more + 128) && UInt8.ofNat (more + 128) ≤ high) = true := by
    rw [Bool.and_eq_true, decide_eq_true_eq, decide_eq_true_eq, UInt8.le_iff_toNat_le,
      UInt8.le_iff_toNat_le, value]
    exact ⟨above, below⟩
  have added : more + 128 - 0x80 = more := by
    omega
  rw [decodeFrom_cons, readByte, readFurther]
  cases later with
  | zero => simp only [within, if_true, value, added, List.singleton_append]
  | succ later => simp only [within, if_true, value, added, List.nil_append]

theorem decodeFrom_first {byte : UInt8} {character : Begun} (rest : Bytes)
    (first : start byte = .begun character) :
    decodeFrom none (byte :: rest) = decodeFrom (some character) rest := by
  simp only [decodeFrom_cons, readByte, readStart, first, List.nil_append]

theorem start_of_one {value : Nat} (small : value < 128) :
    start (UInt8.ofNat value) = .whole (Char.ofNat value) := by
  interval_cases value <;> rfl

theorem start_of_two {bits : Nat} (large : 2 ≤ bits) (small : bits < 32) :
    start (UInt8.ofNat (bits + 192)) = .begun ⟨bits, 0x80, 0xBF, 0⟩ := by
  interval_cases bits <;> rfl

/-- The second byte of three is bounded so that no shorter form and no surrogate is spelled. -/
theorem start_of_three {bits : Nat} (small : bits < 16) :
    start (UInt8.ofNat (bits + 224)) =
      .begun ⟨bits, if bits = 0 then 0xA0 else 0x80, if bits = 13 then 0x9F else 0xBF, 1⟩ := by
  interval_cases bits <;> rfl

/-- The second byte of four is bounded so that no shorter form and nothing too large is spelled. -/
theorem start_of_four {bits : Nat} (small : bits < 5) :
    start (UInt8.ofNat (bits + 240)) =
      .begun ⟨bits, if bits = 0 then 0x90 else 0x80, if bits = 4 then 0x8F else 0xBF, 2⟩ := by
  interval_cases bits <;> rfl

theorem decodeFrom_two {value : Nat} (rest : Bytes) (large : 128 ≤ value) (small : value < 2048) :
    decodeFrom none
        (UInt8.ofNat (value / 64 % 32 + 192) :: UInt8.ofNat (value % 64 + 128) :: rest) =
      Char.ofNat value :: decodeFrom none rest := by
  have bits : value / 64 % 32 = value / 64 := by omega
  have sum : value / 64 * 64 + value % 64 = value := by omega
  rw [bits, decodeFrom_first _ (start_of_two (by omega) (by omega)),
    decodeFrom_further rest (by omega) (by simp) (by simp; omega), sum]

theorem decodeFrom_three {value : Nat} (rest : Bytes) (large : 2048 ≤ value)
    (small : value < 65536) (valid : value < 0xD800 ∨ 0xDFFF < value) :
    decodeFrom none
        (UInt8.ofNat (value / 4096 % 16 + 224) :: UInt8.ofNat (value / 64 % 64 + 128) ::
          UInt8.ofNat (value % 64 + 128) :: rest) =
      Char.ofNat value :: decodeFrom none rest := by
  have bits : value / 4096 % 16 = value / 4096 := by omega
  have sum : (value / 4096 * 64 + value / 64 % 64) * 64 + value % 64 = value := by omega
  rw [bits, decodeFrom_first _ (start_of_three (by omega)),
    decodeFrom_further _ (by omega) (by split <;> simp; omega) (by split <;> simp <;> omega)]
  simp only
  rw [decodeFrom_further rest (by omega) (by simp) (by simp; omega), sum]

theorem decodeFrom_four {value : Nat} (rest : Bytes) (large : 65536 ≤ value)
    (small : value < 0x110000) :
    decodeFrom none
        (UInt8.ofNat (value / 262144 % 8 + 240) :: UInt8.ofNat (value / 4096 % 64 + 128) ::
          UInt8.ofNat (value / 64 % 64 + 128) :: UInt8.ofNat (value % 64 + 128) :: rest) =
      Char.ofNat value :: decodeFrom none rest := by
  have bits : value / 262144 % 8 = value / 262144 := by omega
  have sum : ((value / 262144 * 64 + value / 4096 % 64) * 64 + value / 64 % 64) * 64 +
      value % 64 = value := by omega
  rw [bits, decodeFrom_first _ (start_of_four (by omega)),
    decodeFrom_further _ (by omega) (by split <;> simp; omega) (by split <;> simp <;> omega)]
  simp only
  rw [decodeFrom_further _ (by omega) (by simp) (by simp; omega)]
  simp only
  rw [decodeFrom_further rest (by omega) (by simp) (by simp; omega), sum]

theorem decodeFrom_utf8EncodeChar_append (char : Char) (rest : Bytes) :
    decodeFrom none (String.utf8EncodeChar char ++ rest) = char :: decodeFrom none rest := by
  have code : Char.ofNat char.val.toNat = char := Char.ofNat_toNat char
  have valid : char.val.toNat < 0xD800 ∨ 0xDFFF < char.val.toNat ∧ char.val.toNat < 0x110000 :=
    char.valid
  unfold String.utf8EncodeChar
  simp only
  generalize char.val.toNat = value at code valid
  subst code
  split
  · rename_i small
    simp only [List.singleton_append, decodeFrom_cons, readByte, readStart,
      start_of_one (Nat.lt_succ_of_le small)]
  split
  · exact decodeFrom_two rest (by omega) (by omega)
  split
  · exact decodeFrom_three rest (by omega) (by omega) (by omega)
  · exact decodeFrom_four rest (by omega) (by omega)

/-- Every text is read as it has been written. -/
theorem decode_toUtf8 (text : Text) : decode text.toUtf8 = text := by
  unfold decode
  induction text with
  | nil => rw [Text.toUtf8_nil, decodeFrom_nil]
  | cons char rest ih => rw [Text.toUtf8_cons, decodeFrom_utf8EncodeChar_append, ih]

/-- Bytes spell a text exactly if they are the bytes of the text. -/
theorem decode?_eq_some_iff {bytes : Bytes} {text : Text} :
    decode? bytes = some text ↔ bytes = text.toUtf8 := by
  unfold decode?
  simp only
  constructor
  · intro read
    split at read
    · rename_i spelled
      rw [← Option.some.inj read, spelled]
    · cases read
  · rintro rfl
    rw [decode_toUtf8, if_pos rfl]

end Utf8

/-- Texts of the same bytes are equal. -/
theorem Text.toUtf8_injective : Function.Injective Text.toUtf8 :=
  Function.LeftInverse.injective Utf8.decode_toUtf8

end Typeset
