import Typeset.Json.Reader

/-!
# Texts in JSON

A text is written between quotes, with escapes for quotes, backslashes and control characters.
Reading accepts further escapes, among them UTF-16 units in hexadecimal; units that are surrogates
have to come in pairs.
-/

namespace Typeset

namespace Json

/-- Four digits in hexadecimal. -/
def fourHex (number : Nat) : Text :=
  let digits := Text.hex number
  List.replicate (4 - digits.length) '0' ++ digits

/-- How a character is written inside quotes. -/
def escaped (char : Char) : Text :=
  if char = '"' then ['\\', '"']
  else if char = '\\' then ['\\', '\\']
  else if char = '\x08' then ['\\', 'b']
  else if char = '\x0c' then ['\\', 'f']
  else if char = '\n' then ['\\', 'n']
  else if char = '\r' then ['\\', 'r']
  else if char = '\t' then ['\\', 't']
  else if char < ' ' then '\\' :: 'u' :: fourHex char.toNat
  else [char]

/-- A text as it is written in JSON. -/
def quoted (text : Text) : Text :=
  '"' :: text.flatMap escaped ++ ['"']

/-- The character that an escape of one letter stands for. -/
def unescaped? (letter : Char) : Option Char :=
  if letter = '"' || letter = '\\' || letter = '/' then some letter
  else if letter = 'b' then some '\x08'
  else if letter = 'f' then some '\x0c'
  else if letter = 'n' then some '\n'
  else if letter = 'r' then some '\r'
  else if letter = 't' then some '\t'
  else none

/-- The value of a hexadecimal digit. -/
def hexValue? (char : Char) : Option Nat :=
  if Text.isAsciiDigit char then some (char.toNat - 48)
  else if 'a' ≤ char && char ≤ 'f' then some (char.toNat - 87)
  else if 'A' ≤ char && char ≤ 'F' then some (char.toNat - 55)
  else none

/-- Where the reader of a text stands. -/
inductive Within where
  | plain
  | escape
  | digits (high : Option Nat) (unit missing : Nat)
  | pairEscape (high : Nat)
  | pairLetter (high : Nat)

/-- Why the digits of an escape cannot begin here: fewer than four bytes are left, or the next four
are no hexadecimal digits. -/
def digitsFailure? (rest : Text) : Option Failure :=
  if Text.byteLength (rest.take 4) < 4 then some (.placed .endInText 0)
  else if (rest.take 4).all fun char => (hexValue? char).isSome then none
  else some (.placed .escapeInvalid (Text.byteLength rest - 4))

/-- The character that two surrogates stand for. -/
def paired (high low : Nat) : Char :=
  Char.ofNat (0x10000 + (high - 0xD800) * 0x400 + (low - 0xDC00))

/-- Whether a unit is a surrogate that comes first in a pair. -/
def isHigh (unit : Nat) : Bool :=
  0xD800 ≤ unit && unit ≤ 0xDBFF

/-- Whether a unit is a surrogate that comes second in a pair. -/
def isLow (unit : Nat) : Bool :=
  0xDC00 ≤ unit && unit ≤ 0xDFFF

/-- Reads the rest of a text up to its closing quote.  A text that is `skipped` is not kept, so its
surrogates need no partners. -/
def readText (skipped : Bool) (within : Within) : Text → Except Failure (Text × Text)
  | [] => .error (.placed .endInText 0)
  | char :: rest =>
      let keep (char : Char) (within : Within) : Except Failure (Text × Text) := do
        let (text, rest) ← readText skipped within rest
        return (char :: text, rest)
      let startDigits (high : Option Nat) : Except Failure (Text × Text) :=
        match digitsFailure? rest with
        | some failure => .error failure
        | none => readText skipped (.digits high 0 4) rest
      match within with
      | .plain =>
          if char = '"' then .ok ([], rest)
          else if char = '\\' then readText skipped .escape rest
          else if char < ' ' then
            .error (.placed .controlCharacter
              (if skipped then Text.byteLength (char :: rest) else Text.byteLength rest))
          else keep char .plain
      | .escape =>
          if char = 'u' then startDigits none
          else
            match unescaped? char with
            | some meant => keep meant .plain
            | none => .error (.placed .escapeInvalid (Text.byteLength (char :: rest) - 1))
      | .digits high unit missing =>
          let unit := unit * 16 + (hexValue? char).getD 0
          if 1 < missing then readText skipped (.digits high unit (missing - 1)) rest
          else if skipped then readText skipped .plain rest
          else
            match high with
            | some high =>
                if isLow unit then keep (paired high unit) .plain
                else .error (.placed .surrogateAlone (Text.byteLength rest))
            | none =>
                if isLow unit then .error (.placed .surrogateAlone (Text.byteLength rest))
                else if isHigh unit then readText skipped (.pairEscape unit) rest
                else keep (Char.ofNat unit) .plain
      | .pairEscape high =>
          if char = '\\' then readText skipped (.pairLetter high) rest
          else .error (.placed .surrogateUnpaired (Text.byteLength (char :: rest) - 1))
      | .pairLetter high =>
          if char = 'u' then startDigits (some high)
          else .error (.placed .surrogateUnpaired (Text.byteLength (char :: rest) - 1))

namespace Reader

/-- The text whose opening quote has been taken. -/
def textBody : Reader Text :=
  readText false .plain

/-- Takes a text whose opening quote has been taken, and does not keep it. -/
def skipTextBody : Reader Unit := fun rest =>
  match readText true .plain rest with
  | .ok (_, rest) => .ok ((), rest)
  | .error failure => .error failure

end Reader

end Json

end Typeset
