import Typeset.Json.Typed
import Typeset.Json.Value
import Typeset.Text.Blank

/-!
# Requests

What a payload asks for, before anything has been checked: one document, or a batch of them.  Every
field may be missing.
-/

namespace Typeset

open Json (Value Reader)

/-- The number of a problem set.  Some clients send it as a text. -/
inductive SetNumber where
  | number (value : UInt64)
  | text (value : Text)
  deriving DecidableEq, Repr

namespace SetNumber

/-- The number as part of a file name. -/
def display : SetNumber → Text
  | number value => Text.ofNat value.toNat
  | text value => value.trim

/-- The number as JSON. -/
def toJson : SetNumber → Value
  | number value => .natural value.toNat
  | text value => .text value

/-- Reads a number or a text. -/
def reader (depth : Nat) : Reader SetNumber := do
  match ← Reader.any depth with
  | .natural value => return number value.toUInt64
  | .text value => return text value
  | .other => Reader.failWithin (.noVariant "SetNumber".toList)

end SetNumber

/-- A request for one document. -/
structure SingleRequest where
  userId : Option Text
  markdown : Option Text
  fileName : Option Text
  moduleSlug : Option Text
  setNumber : Option SetNumber
  typeOfFile : Option Text
  implicitFigures : Option Bool
  labelPattern : Option Text
  deriving DecidableEq, Repr

/-- An element of a batch. -/
structure BatchItem where
  userId : Option Text
  fileName : Option Text
  typeOfFile : Option Text
  markdown : Option Text
  implicitFigures : Option Bool
  labelPattern : Option Text
  deriving DecidableEq, Repr

end Typeset
