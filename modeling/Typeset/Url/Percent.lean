import Typeset.Text.Utf8

/-!
# Percent encoding

Characters that have a meaning of their own in a part of a URL, blanks, control characters and
everything beyond ASCII are written as the bytes of their UTF-8, each as a percent sign and two
hexadecimal digits.  Which characters have a meaning differs from part to part.
-/

namespace Typeset

namespace Percent

/-- A hexadecimal digit in upper case. -/
def digit (value : Nat) : Char :=
  Char.ofNat (if value < 10 then 48 + value else 55 + value)

/-- The value of a hexadecimal digit in either case. -/
def digitValue? (char : Char) : Option Nat :=
  if Text.isAsciiDigit char then some (char.toNat - 48)
  else if 'A' ≤ char && char ≤ 'F' then some (char.toNat - 55)
  else if 'a' ≤ char && char ≤ 'f' then some (char.toNat - 87)
  else none

/-- A byte as a percent sign and two digits. -/
def encodeByte (byte : UInt8) : Text :=
  ['%', digit (byte.toNat / 16), digit (byte.toNat % 16)]

/-- Whether a character is written as its bytes in every part of a URL. -/
def isAlwaysEncoded (char : Char) : Bool :=
  char < ' ' || '\x7e' < char

/-- A character in a part of a URL where `reserved` characters have to be encoded. -/
def encodeChar (reserved : List Char) (char : Char) : Text :=
  if isAlwaysEncoded char || reserved.contains char then
    (Text.toUtf8 [char]).flatMap encodeByte
  else [char]

/-- A text in a part of a URL where `reserved` characters have to be encoded. -/
def encode (reserved : List Char) (text : Text) : Text :=
  text.flatMap (encodeChar reserved)

/-- The bytes that a text stands for when every percent sign with two digits is a byte. -/
def decode : Text → Bytes
  | '%' :: high :: low :: rest =>
      match digitValue? high, digitValue? low with
      | some high, some low => UInt8.ofNat (high * 16 + low) :: decode rest
      | _, _ => Text.toUtf8 ['%'] ++ decode (high :: low :: rest)
  | char :: rest => Text.toUtf8 [char] ++ decode rest
  | [] => []

/-- Reserved in a fragment. -/
def fragment : List Char := [' ', '"', '<', '>', '`']

/-- Reserved in a query. -/
def query : List Char := [' ', '"', '#', '<', '>']

/-- Reserved in a query of a web address. -/
def webQuery : List Char := '\'' :: query

/-- Reserved in a path. -/
def path : List Char := fragment ++ ['#', '?', '\x7b', '\x7d']

/-- Reserved in the names and passwords of users. -/
def user : List Char := path ++ ['/', ':', ';', '=', '@', '[', '\\', ']', '^', '|']

/-- Reserved in a single segment of a path. -/
def segment : List Char := path ++ ['/', '%']

/-- Reserved in a single segment of a path of a web address. -/
def webSegment : List Char := segment ++ ['\\']

end Percent

end Typeset
