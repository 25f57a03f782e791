import Typeset.Text.Basic

/-!
# Sets of code points

A property of characters is a table: the closed intervals of code points that have it, in
ascending order.  Short tables are written out, long ones as text of hexadecimal numbers.
-/

namespace Typeset

/-- The closed intervals of a set of code points, in ascending order. -/
abbrev CodeRanges := List (Nat × Nat)

namespace CodeRanges

/-- Whether a code point lies in one of the intervals.  The search ends at the first interval
that starts above the code point. -/
def contains : CodeRanges → Nat → Bool
  | [], _ => false
  | (low, high) :: rest, code => low ≤ code && (code ≤ high || contains rest code)

/-- The value of a hexadecimal digit in upper case. -/
def hexDigit (char : Char) : Nat :=
  if Text.isAsciiDigit char then char.toNat - 48 else char.toNat - 55

/-- The number that upper-case hexadecimal digits write. -/
def hexNumber (digits : Text) : Nat :=
  digits.foldl (fun value digit => value * 16 + hexDigit digit) 0

/-- The entries of a table: what stands between spaces and line breaks. -/
def entries (table : Text) : List Text :=
  ((Text.splitAt '\n' table).flatMap (Text.splitAt ' ')).filter (!·.isEmpty)

/-- The intervals that an entry of a table writes: `A` a number, `A-B` all numbers from one to
another, `A-B/S` every `S`th of them. -/
def ofEntry (entry : Text) : CodeRanges :=
  match Text.splitAt '/' entry with
  | [bounds, step] =>
      let step := hexNumber step
      match (Text.splitAt '-' bounds).map hexNumber with
      | [low, high] =>
          (List.range ((high - low) / step + 1)).map fun count =>
            (low + count * step, low + count * step)
      | _ => []
  | _ =>
      match (Text.splitAt '-' entry).map hexNumber with
      | [low, high] => [(low, high)]
      | _ => [(hexNumber entry, hexNumber entry)]

/-- The intervals of a table written as `20-7E A0 C0-D6 100-12E/2`: entries with spaces or line
breaks between them. -/
def ofHex (table : String) : CodeRanges :=
  (entries table.toList).flatMap ofEntry

end CodeRanges

end Typeset
