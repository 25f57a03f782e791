import Typeset.Text.Ranges

/-!
# Blanks

The characters with the Unicode property White_Space, and trimming by them.
-/

namespace Typeset

/-- The code points with the property White_Space. -/
def blankRanges : CodeRanges :=
  [(0x09, 0x0D), (0x20, 0x20), (0x85, 0x85), (0xA0, 0xA0), (0x1680, 0x1680), (0x2000, 0x200A),
    (0x2028, 0x2029), (0x202F, 0x202F), (0x205F, 0x205F), (0x3000, 0x3000)]

/-- Whether the character is white space. -/
def isBlank (char : Char) : Bool :=
  blankRanges.contains char.toNat

namespace Text

/-- The text without blanks at its start. -/
def trimStart (text : Text) : Text :=
  text.dropWhile isBlank

/-- The text without blanks at its end. -/
def trimEnd (text : Text) : Text :=
  text.dropEndWhile isBlank

/-- The text without blanks at either end. -/
def trim (text : Text) : Text :=
  trimEnd (trimStart text)

end Text

end Typeset
