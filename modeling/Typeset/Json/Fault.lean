import Typeset.Text.Quoted
import Typeset.Text.Utf8

/-!
# Refused JSON

Why a JSON text is refused, either because it is no JSON or because it does not have the shape that
is asked for.  A fault found at a place of the text is reported with the line and the column in
bytes, both read off what was left of the text there.
-/

namespace Typeset

namespace Json

/-- What stands in a JSON text where something else is wanted. -/
inductive Found where
  | null
  | boolean (value : Bool)
  | integer (value : Int)
  | decimal (written : Text)
  | text (value : Text)
  | sequence
  | map
  deriving DecidableEq, Repr

/-- What was found, in words. -/
def Found.message : Found → Text
  | null => "null".toList
  | boolean true => "boolean `true`".toList
  | boolean false => "boolean `false`".toList
  | integer value =>
      "integer `".toList ++ (if value < 0 then ['-'] else []) ++ Text.ofNat value.natAbs ++ ['`']
  | decimal written => "floating point `".toList ++ written ++ ['`']
  | text value => "string ".toList ++ value.quoted
  | sequence => "sequence".toList
  | map => "map".toList

/-- Why a JSON text is refused. -/
inductive Fault where
  | endInValue
  | endInList
  | endInObject
  | endInText
  | expectedValue
  | expectedIdent
  | expectedColon
  | expectedListCommaOrEnd
  | expectedObjectCommaOrEnd
  | keyNotText
  | trailingComma
  | trailingCharacters
  | numberInvalid
  | numberOutOfRange
  | controlCharacter
  | escapeInvalid
  | surrogateAlone
  | surrogateUnpaired
  | tooDeep
  | typeMismatch (found : Found) (expected : Text)
  | lengthMismatch (length : Nat) (expected : Text)
  | variantUnknown (name : Text) (known : List Text)
  | fieldMissing (name : Text)
  | fieldDuplicate (name : Text)
  | noVariant (type : Text)
  deriving DecidableEq, Repr

/-- A name between backquotes. -/
def marked (name : Text) : Text :=
  '`' :: name ++ ['`']

/-- The names that would have been known, in words. -/
def choices : List Text → Text
  | [only] => marked only
  | [first, second] => marked first ++ " or ".toList ++ marked second
  | names => "one of ".toList ++ Text.joined ", ".toList (names.map marked)

/-- The reason in words. -/
def Fault.message : Fault → Text
  | endInValue => "EOF while parsing a value".toList
  | endInList => "EOF while parsing a list".toList
  | endInObject => "EOF while parsing an object".toList
  | endInText => "EOF while parsing a string".toList
  | expectedValue => "expected value".toList
  | expectedIdent => "expected ident".toList
  | expectedColon => "expected `:`".toList
  | expectedListCommaOrEnd => "expected `,` or `]`".toList
  | expectedObjectCommaOrEnd => "expected `,` or `\x7d`".toList
  | keyNotText => "key must be a string".toList
  | trailingComma => "trailing comma".toList
  | trailingCharacters => "trailing characters".toList
  | numberInvalid => "invalid number".toList
  | numberOutOfRange => "number out of range".toList
  | controlCharacter =>
      "control character (\\u0000-\\u001F) found while parsing a string".toList
  | escapeInvalid => "invalid escape".toList
  | surrogateAlone => "lone leading surrogate in hex escape".toList
  | surrogateUnpaired => "unexpected end of hex escape".toList
  | tooDeep => "recursion limit exceeded".toList
  | typeMismatch found expected =>
      "invalid type: ".toList ++ found.message ++ ", expected ".toList ++ expected
  | lengthMismatch length expected =>
      "invalid length ".toList ++ Text.ofNat length ++ ", expected ".toList ++ expected
  | variantUnknown name known =>
      "unknown variant ".toList ++ marked name ++ ", expected ".toList ++ choices known
  | fieldMissing name => "missing field ".toList ++ marked name
  | fieldDuplicate name => "duplicate field ".toList ++ marked name
  | noVariant type => "data did not match any variant of untagged enum ".toList ++ type

/-- A fault, and what was left of the text when it was found: a number of bytes if its place is
settled, the rest of the text if whoever reads the surrounding value may still move it. -/
inductive Failure where
  | placed (fault : Fault) (left : Nat)
  | unplaced (fault : Fault) (rest : Text)
  deriving DecidableEq, Repr

namespace Failure

/-- The line that the first `read` bytes of a document end on, counted from 1, and the bytes on
it. -/
def position (document : Text) (read : Nat) : Nat × Nat :=
  let before := document.toUtf8.take read
  (before.count 0x0A + 1, (before.reverse.takeWhile (· != 0x0A)).length)

/-- The failure in words; the document is the whole text that was read. -/
def message (document : Text) : Failure → Text
  | placed fault left =>
      let (line, column) := position document (document.byteLength - left)
      fault.message ++ " at line ".toList ++ Text.ofNat line ++ " column ".toList ++
        Text.ofNat column
  | unplaced fault _ => fault.message

end Failure

end Json

end Typeset
