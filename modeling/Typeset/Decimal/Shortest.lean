import Typeset.Text.Basic

/-!
# Shortest decimals

The shortest decimal that reads back as a given binary64 number, and of those the nearest.  A
number is `mantissa * 2 ^ exponent`; the reals that round to it form an interval whose ends belong
to it if the mantissa is even.  For one, two, … digits the two neighbours of the number on that
decimal grid are tested against the interval, in exact arithmetic.
-/

namespace Typeset

/-- The absolute value of a finite binary64 number. -/
structure Magnitude where
  mantissa : Nat
  exponent : Int
  deriving DecidableEq, Repr

namespace Magnitude

/-- The absolute value that the bits of a binary64 number stand for. -/
def ofBits (bits : UInt64) : Magnitude :=
  let fraction : Nat := bits.toNat % Nat.pow 2 52
  let biased : Nat := bits.toNat / Nat.pow 2 52 % Nat.pow 2 11
  if biased = 0 then ⟨fraction, -1074⟩ else ⟨Nat.pow 2 52 + fraction, (biased : Int) - 1075⟩

/-- A positive rational number, as a quotient. -/
structure Quotient where
  numerator : Nat
  denominator : Nat

/-- `count / 4` units in the last place of the number, divided by a power of ten. -/
def scaled (magnitude : Magnitude) (count : Nat) (power : Int) : Quotient where
  numerator := count * Nat.pow 2 (magnitude.exponent - 2).toNat * Nat.pow 10 (-power).toNat
  denominator := Nat.pow 2 (2 - magnitude.exponent).toNat * Nat.pow 10 power.toNat

/-- The ends of the interval that rounds to the number, in quarters of a unit. -/
def ends (magnitude : Magnitude) : Nat × Nat :=
  let middle := 4 * magnitude.mantissa
  let below := if magnitude.mantissa = Nat.pow 2 52 && magnitude.exponent > -1074 then 1 else 2
  (middle - below, middle + 2)

/-- Whether `digits * 10 ^ power` rounds to the number. -/
def readsBack (magnitude : Magnitude) (digits : Nat) (power : Int) : Bool :=
  let (low, high) := magnitude.ends
  let low := magnitude.scaled low power
  let high := magnitude.scaled high power
  if magnitude.mantissa % 2 = 0 then
    low.numerator ≤ digits * low.denominator && digits * high.denominator ≤ high.numerator
  else
    low.numerator < digits * low.denominator && digits * high.denominator < high.numerator

/-- The exponent of the first decimal digit of the number. -/
def leading (magnitude : Magnitude) : Int :=
  let shifted := magnitude.scaled (4 * magnitude.mantissa) (-400)
  ((Text.ofNat (shifted.numerator / shifted.denominator)).length : Int) - 401

/-- The neighbour of the number on the grid of `10 ^ power` that reads back, the nearer one if
both do; at equal distance the even one. -/
def onGrid? (magnitude : Magnitude) (power : Int) : Option Nat :=
  let exact := magnitude.scaled (4 * magnitude.mantissa) power
  let below := exact.numerator / exact.denominator
  let twice := 2 * (exact.numerator % exact.denominator)
  let belowFirst :=
    twice < exact.denominator || (twice = exact.denominator && below % 2 = 0)
  let order := if belowFirst then [below, below + 1] else [below + 1, below]
  order.find? (magnitude.readsBack · power)

/-- The first grid with a hit: the digits and their power of ten.  `count` digits are tried first,
and `more` further counts after that. -/
def search (magnitude : Magnitude) (count : Nat) : Nat → Nat × Int
  | 0 => (0, 0)
  | more + 1 =>
      let power := magnitude.leading - count + 1
      match magnitude.onGrid? power with
      | some digits => (digits, power)
      | none => search magnitude (count + 1) more

/-- The significant digits of the shortest decimal, without zeros at its end, and the exponent of
the first of them. -/
def shortest (magnitude : Magnitude) : Text × Int :=
  let (number, power) := magnitude.search 1 17
  let digits := Text.ofNat number
  (digits.reverse.dropWhile (· == '0') |>.reverse, power + digits.length - 1)

end Magnitude

end Typeset
