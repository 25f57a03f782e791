import Typeset.Json.Fault

/-!
# Reading JSON

A reader takes something from the front of a text and leaves the rest.  What is left is all that it
keeps, so a fault knows its place by it.  This file holds the small readers that the others are
made of.
-/

namespace Typeset

namespace Json

/-- Takes a value from the front of a text and leaves the rest, or fails. -/
abbrev Reader := StateT Text (Except Failure)

namespace Reader

/-- What is left. -/
def rest : Reader Text :=
  get

/-- Fails here. -/
def fail {α : Type} (fault : Fault) : Reader α := fun rest =>
  .error (.placed fault rest.byteLength)

/-- Fails at the byte that comes next; at the end of the text, here. -/
def failAtNext {α : Type} (fault : Fault) : Reader α := fun rest =>
  .error (.placed fault (rest.byteLength - 1))

/-- Fails, and leaves it to whoever reads the surrounding value to say where. -/
def failWithin {α : Type} (fault : Fault) : Reader α := fun rest =>
  .error (.unplaced fault rest)

/-- Whether a character is one of the four blanks of JSON. -/
def isBlank (char : Char) : Bool :=
  char == ' ' || char == '\n' || char == '\t' || char == '\r'

/-- The next character, which stays. -/
def next? : Reader (Option Char) :=
  return (← get).head?

/-- Takes a character that is known to be there. -/
def skip : Reader Unit :=
  modify List.tail

/-- Takes blanks, and tells the next character, which stays. -/
def afterBlanks? : Reader (Option Char) := do
  modify (List.dropWhile isBlank)
  next?

/-- Takes the letters of a name one by one. -/
def word : Text → Reader Unit
  | [] => return
  | letter :: letters => do
      match ← next? with
      | none => fail .endInValue
      | some char =>
          if char = letter then skip; word letters
          else failAtNext .expectedIdent

/-- Takes the colon between a key and its value. -/
def colon : Reader Unit := do
  match ← afterBlanks? with
  | some ':' => skip
  | some _ => failAtNext .expectedColon
  | none => failAtNext .endInObject

/-- Tells whether a list has another element, and takes what separates it from the one before. -/
def hasElement (isFirst : Bool) : Reader Bool := do
  match ← afterBlanks? with
  | none => failAtNext .endInList
  | some ']' => return false
  | some char =>
      if isFirst then return true
      else if char = ',' then
        skip
        match ← afterBlanks? with
        | none => failAtNext .endInValue
        | some ']' => failAtNext .trailingComma
        | some _ => return true
      else failAtNext .expectedListCommaOrEnd

/-- Tells whether an object has another key, takes what separates it from the member before, and
the quote that the key begins with. -/
def hasKey (isFirst : Bool) : Reader Bool := do
  match ← afterBlanks? with
  | none => failAtNext .endInObject
  | some '\x7d' => return false
  | some char =>
      if isFirst then opened (some char)
      else if char = ',' then
        skip
        opened (← afterBlanks?)
      else failAtNext .expectedObjectCommaOrEnd
where
  /-- Takes the quote, given the character that is next. -/
  opened : Option Char → Reader Bool
    | some '"' => do skip; return true
    | some '\x7d' => failAtNext .trailingComma
    | some _ => failAtNext .keyNotText
    | none => failAtNext .endInValue

/-- Looks for the end of a list or an object: what is left, and the fault at the next byte if the
end is not there. -/
abbrev Closing := Text → Option Fault × Text

/-- Looks for the end of a list. -/
def endOfList : Closing := fun rest =>
  match rest.dropWhile isBlank with
  | [] => (some .endInList, [])
  | ']' :: rest => (none, rest)
  | ',' :: rest =>
      match rest.dropWhile isBlank with
      | ']' :: rest => (some .trailingComma, ']' :: rest)
      | rest => (some .trailingCharacters, rest)
  | rest => (some .trailingCharacters, rest)

/-- Looks for the end of an object. -/
def endOfObject : Closing := fun rest =>
  match rest.dropWhile isBlank with
  | [] => (some .endInObject, [])
  | '\x7d' :: rest => (none, rest)
  | ',' :: rest => (some .trailingComma, ',' :: rest)
  | rest => (some .trailingCharacters, rest)

/-- Reads the inside of a list or an object and then its end.  The end is looked for after a
failure too: one that has no place yet gets the place where that search stops. -/
def closed {α : Type} (inside : Reader α) (closing : Closing) : Reader α := fun rest =>
  match inside rest with
  | .ok (value, rest) =>
      match closing rest with
      | (none, rest) => .ok (value, rest)
      | (some fault, rest) => failAtNext fault rest
  | .error (.placed fault left) => .error (.placed fault left)
  | .error (.unplaced fault rest) => .error (.placed fault (closing rest).2.byteLength)

/-- How many lists and objects may be nested, and one more. -/
def depthLimit : Nat := 128

/-- Enters a list or an object, given how much deeper the text may go after that. -/
def enter (depth : Nat) : Reader Unit :=
  if depth = 0 then failAtNext .tooDeep else skip

/-- The elements of a list whose bracket has been taken, up to the closing bracket. -/
def elements {α : Type} (element : Reader α) : Reader (List α) := do
  more (← rest).length true
where
  /-- The further elements, of which there are at most `room`. -/
  more (room : Nat) (isFirst : Bool) : Reader (List α) :=
    match room with
    | 0 => failAtNext .endInList
    | room + 1 => do
        if ← hasElement isFirst then
          let value ← element
          return value :: (← more room false)
        else return []

end Reader

end Json

end Typeset
