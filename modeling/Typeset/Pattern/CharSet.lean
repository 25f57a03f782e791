import Typeset.Pattern.Tree
import Typeset.Text.Blank
import Typeset.Text.Digit
import Typeset.Text.Fold
import Typeset.Text.Word

/-!
# Sets of characters

What a class in a pattern matches, kept as the operations it is written with.  Whether a character
belongs to a set is decided by recursion over them, so each operation has one law, and no set is
ever listed.
-/

namespace Typeset

namespace Pattern

/-- A set of characters. -/
inductive CharSet where
  | ranges (table : CodeRanges)
  | complement (set : CharSet)
  | union (left right : CharSet)
  | intersection (left right : CharSet)
  | difference (left right : CharSet)
  | symmetricDifference (left right : CharSet)
  | anyCase (set : CharSet)
  | anyAsciiCase (set : CharSet)
  deriving DecidableEq, Repr

namespace CharSet

/-- Whether a code point belongs to the set. -/
def containsCode : CharSet → Nat → Bool
  | ranges table, code => table.contains code
  | complement set, code => !set.containsCode code
  | union left right, code => left.containsCode code || right.containsCode code
  | intersection left right, code => left.containsCode code && right.containsCode code
  | difference left right, code => left.containsCode code && !right.containsCode code
  | symmetricDifference left right, code =>
      left.containsCode code != right.containsCode code
  | anyCase set, code => (caseVariants code).any set.containsCode
  | anyAsciiCase set, code =>
      set.containsCode code || (code < 128 &&
        (set.containsCode (Char.ofNat code).toLower.toNat ||
          set.containsCode (Char.ofNat code).toUpper.toNat))

/-- Whether a character belongs to the set. -/
def contains (set : CharSet) (char : Char) : Bool :=
  set.containsCode char.toNat

/-- The set of no character. -/
def none : CharSet := ranges []

/-- The set of all characters. -/
def all : CharSet := ranges [(0, 0x10FFFF)]

/-- The characters from one to another. -/
def between (low high : Char) : CharSet := ranges [(low.toNat, high.toNat)]

/-- The set of one character. -/
def single (char : Char) : CharSet := between char char

/-- The set or its complement. -/
def complementIf (negated : Bool) (set : CharSet) : CharSet :=
  if negated then complement set else set

/-- The set with the characters that differ from one of its own only in case. -/
def inAnyCase (unicode : Bool) (set : CharSet) : CharSet :=
  if unicode then anyCase set else anyAsciiCase set

end CharSet

/-- The characters of an ASCII class. -/
def AsciiClass.codes : AsciiClass → CodeRanges
  | alnum => [(0x30, 0x39), (0x41, 0x5A), (0x61, 0x7A)]
  | alpha => [(0x41, 0x5A), (0x61, 0x7A)]
  | ascii => [(0x00, 0x7F)]
  | blank => [(0x09, 0x09), (0x20, 0x20)]
  | cntrl => [(0x00, 0x1F), (0x7F, 0x7F)]
  | digit => [(0x30, 0x39)]
  | graph => [(0x21, 0x7E)]
  | lower => [(0x61, 0x7A)]
  | print => [(0x20, 0x7E)]
  | punct => [(0x21, 0x2F), (0x3A, 0x40), (0x5B, 0x60), (0x7B, 0x7E)]
  | space => [(0x09, 0x0D), (0x20, 0x20)]
  | upper => [(0x41, 0x5A)]
  | word => [(0x30, 0x39), (0x41, 0x5A), (0x5F, 0x5F), (0x61, 0x7A)]
  | xdigit => [(0x30, 0x39), (0x41, 0x46), (0x61, 0x66)]

/-- The characters of a class with an escape of its own, in all scripts or in ASCII alone. -/
def Shorthand.codes (unicode : Bool) : Shorthand → CodeRanges
  | digit => if unicode then decimalDigitRanges else AsciiClass.digit.codes
  | blank => if unicode then blankRanges else AsciiClass.space.codes
  | word => if unicode then wordRanges else AsciiClass.word.codes

end Pattern

end Typeset
