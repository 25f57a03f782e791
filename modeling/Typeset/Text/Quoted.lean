import Typeset.Text.Printable

/-!
# Quoted texts

A text between double quotes, for people to read: quotes, backslashes and whatever cannot be
shown are written as escapes.
-/

namespace Typeset

namespace Text

/-- A number in hexadecimal, in lower case and without leading zeros. -/
def hex (number : Nat) : Text :=
  Nat.toDigits 16 number

/-- How a character is written inside quotes. -/
def quotedChar (char : Char) : Text :=
  if char = '\x00' then "\\0".toList
  else if char = '\t' then "\\t".toList
  else if char = '\r' then "\\r".toList
  else if char = '\n' then "\\n".toList
  else if char = '"' then "\\\"".toList
  else if char = '\\' then "\\\\".toList
  else if isExtender char || !isPrintable char then
    "\\u\x7b".toList ++ hex char.toNat ++ "\x7d".toList
  else [char]

/-- The text between double quotes. -/
def quoted (text : Text) : Text :=
  '"' :: text.flatMap quotedChar ++ ['"']

end Text

end Typeset
