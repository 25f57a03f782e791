import Typeset.Url.Percent

/-!
# Hosts

The host of a URL is a name or an address.  In web addresses the name is written in ASCII and in
lower case, and a name that ends in a number is an address of four bytes.  How an international name
is brought to ASCII is left open.
-/

namespace Typeset

/-- What the tables of international names make of the names that need them. -/
class DomainNames where
  /-- A name in ASCII; nothing if it is no valid name. -/
  toAscii? : Text → Option Text

/-- Why a text is no URL. -/
inductive UrlError where
  | emptyHost
  | invalidDomain
  | invalidPort
  | invalidIpv4
  | invalidIpv6
  | invalidDomainCharacter
  | withoutBase
  deriving DecidableEq, Repr

/-- The error in words. -/
def UrlError.message : UrlError → Text
  | emptyHost => "empty host".toList
  | invalidDomain => "invalid international domain name".toList
  | invalidPort => "invalid port number".toList
  | invalidIpv4 => "invalid IPv4 address".toList
  | invalidIpv6 => "invalid IPv6 address".toList
  | invalidDomainCharacter => "invalid domain character".toList
  | withoutBase => "relative URL without a base".toList

namespace Host

/-- The number that digits of a base write; nothing if a character is no such digit. -/
def number? (base : Nat) (digits : Text) : Option Nat :=
  digits.foldl
    (fun value char => do
      let value ← value
      let digit ← Percent.digitValue? char
      if digit < base then some (value * base + digit) else none)
    (some 0)

/-- The number that a part of an address of four bytes writes: hexadecimal after `0x`, octal after
`0`, else decimal. -/
def ipv4Number? (part : Text) : Option Nat :=
  match part with
  | [] => none
  | '0' :: 'x' :: digits => number? 16 digits
  | '0' :: 'X' :: digits => number? 16 digits
  | '0' :: digit :: digits => number? 8 (digit :: digits)
  | digits => number? 10 digits

/-- Whether a name ends in a number, so that it has to be an address. -/
def endsInNumber (name : Text) : Bool :=
  match (Text.splitAt '.' name).reverse with
  | [] :: last :: _ => isNumber last
  | [] :: [] => false
  | last :: _ => isNumber last
  | [] => false
where
  /-- Whether a part is a number, if perhaps one that no address can hold. -/
  isNumber (part : Text) : Bool :=
    (!part.isEmpty && part.all Text.isAsciiDigit) || (ipv4Number? part).isSome

/-- The value of an address of four bytes.  All parts but the last are bytes; the last fills the
bytes that are left. -/
def ipv4? (name : Text) : Option Nat := do
  let parts := Text.splitAt '.' name
  let parts := if parts.getLast? == some [] then parts.dropLast else parts
  if 4 < parts.length then none
  else
    let numbers ← parts.mapM ipv4Number?
    let last ← numbers.getLast?
    let bytes := numbers.dropLast
    if Nat.pow 256 (4 - bytes.length) ≤ last || bytes.any (255 < ·) then none
    else
      some ((bytes.zipIdx).foldl
        (fun value (byte, place) => value + byte * Nat.pow 256 (3 - place)) last)

/-- An address of four bytes, written with dots. -/
def ipv4Text (address : Nat) : Text :=
  Text.joined ['.']
    ([3, 2, 1, 0].map fun place => Text.ofNat (address / Nat.pow 256 place % 256))

/-- The two pieces that an address of four bytes stands for at the end of an address of eight
pieces.  Every number is below 256 and has no leading zero. -/
def embeddedIpv4? (text : Text) : Option (List Nat) := do
  let bytes ← (Text.splitAt '.' text).mapM byte?
  match bytes with
  | [first, second, third, fourth] => some [first * 256 + second, third * 256 + fourth]
  | _ => none
where
  /-- A decimal number below 256. -/
  byte? (part : Text) : Option Nat := do
    if part.isEmpty || (1 < part.length && part.head? == some '0') then none
    else
      let value ← if part.all Text.isAsciiDigit then number? 10 part else none
      if value < 256 then some value else none

/-- The pieces of an address between two double colons or ends; an address of four bytes may stand
at the end of the whole. -/
def pieces? (mayEmbed : Bool) (text : Text) : Option (List Nat) :=
  match text with
  | [] => some []
  | _ => read (Text.splitAt ':' text)
where
  /-- The pieces that the given parts write. -/
  read : List Text → Option (List Nat)
    | [] => some []
    | [last] =>
        if mayEmbed && last.contains '.' then embeddedIpv4? last
        else (piece? last).map ([·])
    | part :: parts => do return (← piece? part) :: (← read parts)
  /-- One to four hexadecimal digits. -/
  piece? (part : Text) : Option Nat :=
    if part.isEmpty || 4 < part.length then none else number? 16 part

/-- The text before the first double colon and the text after it. -/
def splitDouble : Text → Option (Text × Text)
  | ':' :: ':' :: rest => some ([], rest)
  | char :: rest => (splitDouble rest).map fun (before, after) => (char :: before, after)
  | [] => none

/-- The eight pieces of an address.  A double colon stands for one or more pieces that are zero. -/
def ipv6? (text : Text) : Option (List Nat) := do
  match splitDouble text with
  | none =>
      let pieces ← pieces? true text
      if pieces.length = 8 then some pieces else none
  | some (before, after) =>
      let first ← pieces? false before
      let last ← pieces? true after
      let zeros := 8 - (first.length + last.length)
      if zeros = 0 then none else some (first ++ List.replicate zeros 0 ++ last)

/-- The length of the run of zeros that a list of pieces begins with. -/
def leadingZeros (pieces : List Nat) : Nat :=
  (pieces.takeWhile (· == 0)).length

/-- Where the longest run of zeros begins and how long it is; of several the first. -/
def longestZeros (place : Nat) : List Nat → Nat × Nat
  | [] => (place, 0)
  | piece :: pieces =>
      let here := leadingZeros (piece :: pieces)
      let later := longestZeros (place + 1) pieces
      if later.2 ≤ here then (place, here) else later

/-- An address of eight pieces, with a double colon for the longest run of two zeros or more. -/
def ipv6Text (pieces : List Nat) : Text :=
  let written (pieces : List Nat) : Text :=
    Text.joined [':'] (pieces.map (Nat.toDigits 16))
  let (place, count) := longestZeros 0 pieces
  let text :=
    if count < 2 then written pieces
    else written (pieces.take place) ++ [':', ':'] ++ written (pieces.drop (place + count))
  '[' :: text ++ [']']

/-- An address of eight pieces between brackets. -/
def bracketed (text : Text) : Except UrlError Text :=
  if text.getLast? != some ']' then .error .invalidIpv6
  else
    match ipv6? (text.drop 1).dropLast with
    | some pieces => .ok (ipv6Text pieces)
    | none => .error .invalidIpv6

/-- Whether a character cannot be part of a domain. -/
def isForbiddenInDomain (char : Char) : Bool :=
  Percent.isAlwaysEncoded char ||
    [' ', '#', '/', ':', '<', '>', '?', '@', '[', '\\', ']', '^', '|', '%'].contains char

/-- Whether a character cannot be part of the host of a URL that is no web address. -/
def isForbiddenInHost (char : Char) : Bool :=
  ['\x00', '\t', '\n', '\r', ' ', '#', '/', ':', '<', '>', '?', '@', '[', '\\', ']', '^',
    '|'].contains char

/-- Whether a name is ASCII, and no label of it stands for an international one. -/
def isPlainName (name : Text) : Bool :=
  name.all (· < '\x80') &&
    (Text.splitAt '.' name).all fun label => !"xn--".toList.isPrefixOf (Text.lowered label)

/-- A name as a domain writes it; nothing if it is none. -/
def domain? [DomainNames] (name : Text) : Option Text :=
  let domain := if isPlainName name then some (Text.lowered name) else DomainNames.toAscii? name
  domain.filter fun domain => !domain.any isForbiddenInDomain

/-- The host of a web address. -/
def web [DomainNames] (text : Text) : Except UrlError Text :=
  if text.head? == some '[' then bracketed text
  else
    match (Utf8.decode? (Percent.decode text)).bind domain? with
    | none => .error .invalidDomain
    | some domain =>
        if domain.isEmpty then .error .emptyHost
        else if endsInNumber domain then
          match ipv4? domain with
          | some address => .ok (ipv4Text address)
          | none => .error .invalidIpv4
        else .ok domain

/-- The host of a URL that is no web address. -/
def plain (text : Text) : Except UrlError Text :=
  if text.head? == some '[' then bracketed text
  else if text.any isForbiddenInHost then .error .invalidDomainCharacter
  else .ok (Percent.encode [] text)

end Host

end Typeset
