import Typeset.Decimal.Shortest
import Typeset.Json.Reader

/-!
# Numbers in JSON

A number without fraction and exponent that fits in 64 bits is an integer.  Every other number is a
binary64 number: the first digits that fit in 64 bits, scaled by a power of ten.
-/

namespace Typeset

namespace Json

/-- A number as it is read. -/
inductive Number where
  | natural (value : Nat)
  | negative (magnitude : Nat)
  | binary (value : Float)

/-- The largest integer. -/
def maxNatural : Nat := Nat.pow 2 64 - 1

/-- The magnitude of the least negative integer. -/
def maxNegative : Nat := Nat.pow 2 63

/-- The value of a decimal digit. -/
def digitValue (char : Char) : Nat :=
  char.toNat - 48

/-- A binary64 number for people to read: the shortest digits, positional between 1e-5 and 1e16,
with a point in any case, and with the sign of the exponent in any case. -/
def decimalText (value : Float) : Text :=
  let bits := value.toBits
  let sign := if bits.toNat / Nat.pow 2 63 = 1 then ['-'] else []
  if value == 0 then sign ++ "0.0".toList
  else
    let (digits, exponent) := (Magnitude.ofBits bits).shortest
    let zeros (count : Int) : Text := List.replicate count.toNat '0'
    sign ++
      if exponent < -5 || 15 < exponent then
        let fraction := digits.drop 1
        digits.take 1 ++ (if fraction.isEmpty then [] else '.' :: fraction) ++ ['e'] ++
          (if exponent < 0 then ['-'] else ['+']) ++ Text.ofNat exponent.natAbs
      else if exponent < 0 then "0.".toList ++ zeros (-exponent - 1) ++ digits
      else if digits.length ≤ exponent + 1 then
        digits ++ zeros (exponent + 1 - digits.length) ++ ".0".toList
      else digits.take (exponent.toNat + 1) ++ '.' :: digits.drop (exponent.toNat + 1)

/-- What a number is when something else is wanted. -/
def Number.found : Number → Found
  | natural value => .integer value
  | negative magnitude => .integer (-magnitude)
  | binary value => .decimal (decimalText value)

/-- The largest power of ten that scales in one step. -/
def maxPower : Nat := 308

/-- A power of ten as a binary64 number. -/
def powerOfTen (power : Nat) : Float :=
  Float.ofScientific 1 false power

/-- A binary64 number scaled by a power of ten, unless it gets too large.  Very small powers are
taken in steps; after two of them nothing is left of the number. -/
def scaled? (value : Float) (power : Int) : Option Float :=
  if power < 0 then some (down value power.natAbs 2)
  else if power ≤ maxPower then
    let product := value * powerOfTen power.toNat
    if product.isInf then none else some product
  else if value == 0 then some value
  else none
where
  /-- Divides by a power of ten in at most so many steps and one more. -/
  down (value : Float) (power : Nat) : Nat → Float
    | 0 => value / powerOfTen (min power maxPower)
    | steps + 1 =>
        if power ≤ maxPower then value / powerOfTen power
        else down (value / powerOfTen maxPower) (power - maxPower) steps

namespace Reader

/-- The next character, if it is a decimal digit; it stays. -/
def digit? : Reader (Option Char) :=
  return (← next?).filter Text.isAsciiDigit

/-- Takes all digits that come next. -/
def skipDigits : Reader Unit :=
  modify (List.dropWhile Text.isAsciiDigit)

/-- The digits that come next, as many as keep the number that they continue below a limit, with
the number of digits taken and whether a digit has been left that does not fit. -/
def digitsBelow (limit : Nat) (number count : Nat) : Text → (Nat × Nat × Bool) × Text
  | [] => ((number, count, false), [])
  | char :: rest =>
      if Text.isAsciiDigit char then
        let longer := number * 10 + digitValue char
        if longer ≤ limit then digitsBelow limit longer (count + 1) rest
        else ((number, count, true), char :: rest)
      else ((number, count, false), char :: rest)

/-- Takes digits as long as the number that they continue stays below a limit. -/
def takeDigits (limit number : Nat) : Reader (Nat × Nat × Bool) :=
  modifyGet (digitsBelow limit number 0)

/-- Whether an exponent comes next. -/
def atExponent : Reader Bool :=
  return (← next?).any fun char => char == 'e' || char == 'E'

/-- The binary64 number with the given digits and power of ten. -/
def scaledNumber (negative : Bool) (digits : Nat) (power : Int) : Reader Number := do
  match scaled? digits.toUInt64.toFloat power with
  | some value => return .binary (if negative then -value else value)
  | none => fail .numberOutOfRange

/-- The largest exponent that is added up. -/
def maxExponent : Nat := Nat.pow 2 31 - 1

/-- An exponent within the limits of those that are added up. -/
def clamped (power : Int) : Int :=
  max (-Int.ofNat (maxExponent + 1)) (min power maxExponent)

/-- The number whose digits have been read and whose exponent comes next. -/
def exponent (negative : Bool) (digits : Nat) (power : Int) : Reader Number := do
  skip
  let sign ← next?
  let isDown := sign == some '-'
  if isDown || sign == some '+' then skip
  match ← next? with
  | none => fail .endInValue
  | some first =>
      if !Text.isAsciiDigit first then failAtNext .numberInvalid
      else
        skip
        let (value, _, isLonger) ← takeDigits maxExponent (digitValue first)
        if isLonger then
          skip
          if digits ≠ 0 && !isDown then fail .numberOutOfRange
          else
            skipDigits
            return .binary (if negative then -0.0 else 0.0)
        else
          let power := if isDown then power - value else power + value
          scaledNumber negative digits (clamped power)

/-- The number whose digits before the point have been read and whose point comes next. -/
def fraction (negative : Bool) (digits : Nat) (power : Int) : Reader Number := do
  skip
  let (digits, count, isLonger) ← takeDigits maxNatural digits
  if isLonger then skipDigits
  else if count = 0 then
    match ← next? with
    | some _ => failAtNext .numberInvalid
    | none => failAtNext .endInValue
  let power := power - count
  if ← atExponent then exponent negative digits power
  else scaledNumber negative digits power

/-- The number whose first digits have been read and which goes on with digits that do not fit. -/
def longNumber (negative : Bool) (digits : Nat) : Reader Number := do
  let further := ((← rest).takeWhile Text.isAsciiDigit).length
  skipDigits
  if (← next?) == some '.' then fraction negative digits further
  else if ← atExponent then exponent negative digits further
  else scaledNumber negative digits further

/-- The number whose integer part has been read. -/
def afterInteger (negative : Bool) (value : Nat) : Reader Number := do
  if (← next?) == some '.' then fraction negative value 0
  else if ← atExponent then exponent negative value 0
  else if !negative then return .natural value
  else if value = 0 || maxNegative < value then return .binary (-value.toUInt64.toFloat)
  else return .negative value

/-- A number, whose sign has been taken if it has one. -/
def number (negative : Bool) : Reader Number := do
  match ← next? with
  | none => fail .numberInvalid
  | some first =>
      if first = '0' then
        skip
        if (← digit?).isSome then failAtNext .numberInvalid
        else afterInteger negative 0
      else if Text.isAsciiDigit first then
        skip
        let (value, _, isLonger) ← takeDigits maxNatural (digitValue first)
        if isLonger then longNumber negative value
        else afterInteger negative value
      else failAtNext .numberInvalid

end Reader

end Json

end Typeset
