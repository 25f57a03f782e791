import Typeset.Json.Number
import Typeset.Json.String

/-!
# Values that are passed over

A value that nobody asks for still has to be JSON, but it may be nested as deep as it likes and its
numbers may be of any size.
-/

namespace Typeset

namespace Json

namespace Reader

/-- Passes over the exponent of a number, which comes next. -/
def skipExponent : Reader Unit := do
  skip
  if (← next?).any fun char => char == '+' || char == '-' then skip
  if (← digit?).isSome then skipDigits
  else failAtNext .numberInvalid

/-- Passes over a number, whose sign has been taken if it has one. -/
def skipNumber : Reader Unit := do
  match ← digit? with
  | none => failAtNext .numberInvalid
  | some '0' =>
      skip
      if (← digit?).isSome then failAtNext .numberInvalid
  | some _ => skipDigits
  if (← next?) == some '.' then
    skip
    if (← digit?).isSome then skipDigits
    else failAtNext .numberInvalid
  if ← atExponent then skipExponent

/-- What follows an element of a list: whether there is another one. -/
def separated (closing : Char) (ended expected : Fault) : Reader Bool := do
  match ← afterBlanks? with
  | none => failAtNext ended
  | some char =>
      if char = ',' then do skip; return true
      else if char = closing then do skip; return false
      else failAtNext expected

/-- Passes over elements that are separated by commas, at least one and at most `room`. -/
def skipSeparated (element : Reader Unit) (closing : Char) (ended expected : Fault) :
    Nat → Reader Unit
  | 0 => failAtNext ended
  | room + 1 => do
      element
      if ← separated closing ended expected then
        skipSeparated element closing ended expected room

/-- Passes over the key of a member and its colon. -/
def skipKey : Reader Unit := do
  match ← afterBlanks? with
  | some '"' => skip
  | some _ => failAtNext .keyNotText
  | none => failAtNext .endInObject
  skipTextBody
  colon

/-- Passes over a value that is no longer than `room` characters. -/
def skipWithin : Nat → Reader Unit
  | 0 => failAtNext .endInValue
  | room + 1 => do
      match ← afterBlanks? with
      | none => failAtNext .endInValue
      | some 'n' => do skip; word "ull".toList
      | some 't' => do skip; word "rue".toList
      | some 'f' => do skip; word "alse".toList
      | some '-' => do skip; skipNumber
      | some '"' => do skip; skipTextBody
      | some '[' =>
          skip
          match ← afterBlanks? with
          | none => failAtNext .endInList
          | some ']' => skip
          | some _ => skipSeparated (skipWithin room) ']' .endInList .expectedListCommaOrEnd room
      | some '\x7b' =>
          skip
          match ← afterBlanks? with
          | none => failAtNext .endInObject
          | some '\x7d' => skip
          | some _ =>
              skipSeparated (do skipKey; skipWithin room) '\x7d' .endInObject
                .expectedObjectCommaOrEnd room
      | some char => if Text.isAsciiDigit char then skipNumber else failAtNext .expectedValue

/-- Passes over a value. -/
def skipValue : Reader Unit := do
  skipWithin ((← rest).length + 1)

end Reader

end Json

end Typeset
