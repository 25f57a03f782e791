import Typeset.Json.String

/-!
# Writing JSON

The values that are written, in one line or over several lines with two spaces for each level.
Members keep the order that they are given in.
-/

namespace Typeset

namespace Json

/-- A JSON value that is to be written. -/
inductive Value where
  | null
  | boolean (value : Bool)
  | natural (value : Nat)
  | text (value : Text)
  | list (values : List Value)
  | object (members : List (Text × Value))

namespace Value

/-- A text, or nothing. -/
def ofText? : Option Text → Value
  | some value => text value
  | none => null

/-- A list of texts. -/
def ofTexts (values : List Text) : Value :=
  list (values.map text)

mutual

/-- The value in one line. -/
def compact : Value → Text
  | null => "null".toList
  | boolean true => "true".toList
  | boolean false => "false".toList
  | natural value => Text.ofNat value
  | text value => quoted value
  | list values => '[' :: compactList values ++ [']']
  | object members => '\x7b' :: compactMembers members ++ ['\x7d']

/-- The elements of a list in one line. -/
def compactList : List Value → Text
  | [] => []
  | [value] => value.compact
  | value :: next :: values => value.compact ++ ',' :: compactList (next :: values)

/-- The members of an object in one line. -/
def compactMembers : List (Text × Value) → Text
  | [] => []
  | [(name, value)] => quoted name ++ ':' :: value.compact
  | (name, value) :: next :: members =>
      quoted name ++ ':' :: value.compact ++ ',' :: compactMembers (next :: members)

end

/-- A line break and the indentation of a level. -/
def newLine (level : Nat) : Text :=
  '\n' :: List.replicate (2 * level) ' '

mutual

/-- The value over several lines, of which the first is on the given level. -/
def pretty (level : Nat) : Value → Text
  | null => "null".toList
  | boolean true => "true".toList
  | boolean false => "false".toList
  | natural value => Text.ofNat value
  | text value => quoted value
  | list [] => "[]".toList
  | list (value :: values) =>
      '[' :: newLine (level + 1) ++ value.pretty (level + 1) ++ prettyList (level + 1) values ++
        newLine level ++ [']']
  | object [] => "\x7b\x7d".toList
  | object ((name, value) :: members) =>
      '\x7b' :: newLine (level + 1) ++ quoted name ++ ": ".toList ++ value.pretty (level + 1) ++
        prettyMembers (level + 1) members ++ newLine level ++ ['\x7d']

/-- The further elements of a list, each on lines of its own. -/
def prettyList (level : Nat) : List Value → Text
  | [] => []
  | value :: values => ',' :: newLine level ++ value.pretty level ++ prettyList level values

/-- The further members of an object, each on lines of its own. -/
def prettyMembers (level : Nat) : List (Text × Value) → Text
  | [] => []
  | (name, value) :: members =>
      ',' :: newLine level ++ quoted name ++ ": ".toList ++ value.pretty level ++
        prettyMembers level members

end

end Value

end Json

end Typeset
