/-!
# Texts

A text is the list of its code points, so that every function on texts is a function on lists and
every law about them an induction.  Lengths in bytes and in code points differ, and both are
needed: offsets that are shown to people count bytes of UTF-8, carets count code points.
-/

namespace Typeset

/-- A text: its code points in order. -/
abbrev Text := List Char

/-- The content of a file or of a stream. -/
abbrev Bytes := List UInt8

namespace Text

/-- The number of bytes that UTF-8 takes for the text. -/
def byteLength : Text → Nat
  | [] => 0
  | char :: rest => char.utf8Size + byteLength rest

/-- Whether `part` occurs somewhere in the text. -/
def occursIn (part : Text) : Text → Bool
  | [] => part.isEmpty
  | char :: rest => part.isPrefixOf (char :: rest) || occursIn part rest

/-- The text without the characters at its end that `drops` accepts. -/
def dropEndWhile (drops : Char → Bool) (text : Text) : Text :=
  (text.reverse.dropWhile drops).reverse

/-- The parts of the text between occurrences of `mark`; one more than there are marks. -/
def splitAt (mark : Char) : Text → List Text
  | [] => [[]]
  | char :: rest =>
      match splitAt mark rest with
      | [] => [[char]]
      | part :: parts => if char = mark then [] :: part :: parts else (char :: part) :: parts

/-- The texts one after another with `separator` between neighbours. -/
def joined (separator : Text) : List Text → Text
  | [] => []
  | [last] => last
  | first :: second :: rest => first ++ separator ++ joined separator (second :: rest)

/-- The decimal digits of a number, without leading zeros. -/
def ofNat (number : Nat) : Text :=
  Nat.toDigits 10 number

/-- Whether the character is one of the ten ASCII digits. -/
def isAsciiDigit (char : Char) : Bool :=
  '0' ≤ char && char ≤ '9'

/-- The number that ASCII digits write; nothing for a text that is empty or holds another
character. -/
def toNat? (digits : Text) : Option Nat :=
  if digits.isEmpty || !digits.all isAsciiDigit then none
  else some (digits.foldl (fun value digit => value * 10 + (digit.toNat - 48)) 0)

/-- ASCII letters in lower case, everything else as it is. -/
def lowered (text : Text) : Text :=
  text.map Char.toLower

end Text

end Typeset
