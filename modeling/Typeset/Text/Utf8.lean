import Typeset.Text.Basic

/-!
# UTF-8

Writing a text as bytes, and reading bytes as a text.  Reading never fails: every maximal run of
bytes that begins a character but does not complete one, and every byte that begins none, is read
as U+FFFD.  The reader takes one byte at a time and keeps only the character that is under way.
-/

namespace Typeset

namespace Text

/-- The bytes of the text. -/
def toUtf8 (text : Text) : Bytes :=
  text.flatMap String.utf8EncodeChar

end Text

namespace Utf8

/-- The character that stands for bytes that are no text. -/
def replacement : Char := '\uFFFD'

/-- A character that has begun: the bits read so far, the interval in which the next byte has to
lie, and how many bytes are still to come after that one. -/
structure Begun where
  bits : Nat
  low : UInt8
  high : UInt8
  later : Nat

/-- What one byte does between characters. -/
inductive Start where
  | whole (char : Char)
  | begun (character : Begun)
  | stray

/-- The reading of a byte between characters. -/
def start (byte : UInt8) : Start :=
  let bits := byte.toNat
  if byte < 0x80 then .whole (Char.ofNat bits)
  else if byte < 0xC2 then .stray
  else if byte < 0xE0 then .begun ⟨bits - 0xC0, 0x80, 0xBF, 0⟩
  else if byte = 0xE0 then .begun ⟨0, 0xA0, 0xBF, 1⟩
  else if byte = 0xED then .begun ⟨0xD, 0x80, 0x9F, 1⟩
  else if byte < 0xF0 then .begun ⟨bits - 0xE0, 0x80, 0xBF, 1⟩
  else if byte = 0xF0 then .begun ⟨0, 0x90, 0xBF, 2⟩
  else if byte < 0xF4 then .begun ⟨bits - 0xF0, 0x80, 0xBF, 2⟩
  else if byte = 0xF4 then .begun ⟨4, 0x80, 0x8F, 2⟩
  else .stray

/-- What a byte between characters makes: characters that are complete, and the one that is then
under way. -/
def readStart (byte : UInt8) : Text × Option Begun :=
  match start byte with
  | .whole char => ([char], none)
  | .begun character => ([], some character)
  | .stray => ([replacement], none)

/-- What a byte makes after the first bytes of a character. -/
def readFurther (character : Begun) (byte : UInt8) : Text × Option Begun :=
  if character.low ≤ byte && byte ≤ character.high then
    let bits := character.bits * 64 + (byte.toNat - 0x80)
    match character.later with
    | 0 => ([Char.ofNat bits], none)
    | later + 1 => ([], some ⟨bits, 0x80, 0xBF, later⟩)
  else
    let (text, pending) := readStart byte
    (replacement :: text, pending)

/-- What a byte makes, with `pending` the character that is under way. -/
def readByte (pending : Option Begun) (byte : UInt8) : Text × Option Begun :=
  match pending with
  | none => readStart byte
  | some character => readFurther character byte

/-- The text that bytes are read as, with `pending` the character that is under way. -/
def decodeFrom (pending : Option Begun) : Bytes → Text
  | [] => if pending.isSome then [replacement] else []
  | byte :: rest =>
      let (text, pending) := readByte pending byte
      text ++ decodeFrom pending rest

/-- The text that bytes are read as. -/
def decode (bytes : Bytes) : Text :=
  decodeFrom none bytes

/-- The text that bytes spell, if every one of them is part of a character. -/
def decode? (bytes : Bytes) : Option Text :=
  let text := decode bytes
  if text.toUtf8 = bytes then some text else none

end Utf8

end Typeset
