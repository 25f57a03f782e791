import Typeset.Text.Basic

/-!
# Base64

Bytes written so that a header can hold them.  Three bytes make four digits; what the last three
bytes lack is marked at the end.
-/

namespace Typeset

namespace Base64

/-- The digit with a value below 64. -/
def digit (value : Nat) : Char :=
  if value < 26 then Char.ofNat (65 + value)
  else if value < 52 then Char.ofNat (71 + value)
  else if value < 62 then Char.ofNat (value - 4)
  else if value = 62 then '+'
  else '/'

/-- The four digits of three bytes. -/
def quantum (first second third : UInt8) : Text :=
  let value := first.toNat * 65536 + second.toNat * 256 + third.toNat
  [digit (value / 262144), digit (value / 4096 % 64), digit (value / 64 % 64), digit (value % 64)]

/-- Bytes in digits. -/
def encode : Bytes → Text
  | first :: second :: third :: rest => quantum first second third ++ encode rest
  | [first, second] => (quantum first second 0).take 3 ++ ['=']
  | [first] => (quantum first 0 0).take 2 ++ ['=', '=']
  | [] => []

end Base64

end Typeset
