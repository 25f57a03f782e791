import Typeset.Json.Skip

/-!
# Reading values of a known shape

Texts, truth values, lists, choices and records are read for what they are meant to be, without a
value in between.  A record is an object with named members, or a list of the same values in the
order in which the members are declared.
-/

namespace Typeset

namespace Json

namespace Reader

/-- Fails because something else is wanted than what comes next. -/
def failMismatch {α : Type} (expected : Text) : Reader α := do
  let found ← foundNext
  fail (.typeMismatch found expected)
where
  /-- What comes next; of a list or an object only that it begins. -/
  foundNext : Reader Found := do
    match ← next? with
    | some 'n' => do skip; word "ull".toList; return .null
    | some 't' => do skip; word "rue".toList; return .boolean true
    | some 'f' => do skip; word "alse".toList; return .boolean false
    | some '-' => do skip; return (← number true).found
    | some '"' => do skip; return .text (← textBody)
    | some '[' => return .sequence
    | some '\x7b' => return .map
    | some char =>
        if Text.isAsciiDigit char then return (← number false).found
        else failAtNext .expectedValue
    | none => failAtNext .expectedValue

/-- A text. -/
def textOf (expected : Text) : Reader Text := do
  match ← afterBlanks? with
  | some '"' => do skip; textBody
  | none => failAtNext .endInValue
  | some _ => failMismatch expected

/-- A text. -/
def text : Reader Text :=
  textOf "a string".toList

/-- A text that is a path. -/
def path : Reader Text :=
  textOf "path string".toList

/-- A truth value. -/
def boolean : Reader Bool := do
  match ← afterBlanks? with
  | some 't' => do skip; word "rue".toList; return true
  | some 'f' => do skip; word "alse".toList; return false
  | none => failAtNext .endInValue
  | some _ => failMismatch "a boolean".toList

/-- A value, or `null` for none. -/
def optional {α : Type} (reader : Reader α) : Reader (Option α) := do
  match ← afterBlanks? with
  | some 'n' => do skip; word "ull".toList; return none
  | _ => return some (← reader)

/-- A list of values, given how deep it may go. -/
def list {α : Type} (depth : Nat) (element : Reader α) : Reader (List α) := do
  match ← afterBlanks? with
  | none => failAtNext .endInValue
  | some '[' => do enter (depth - 1); closed (elements element) endOfList
  | some _ => failMismatch "a sequence".toList

/-- A value of any shape, as far as those who ask for it can tell the shapes apart. -/
inductive Any where
  | natural (value : Nat)
  | text (value : Text)
  | other
  deriving DecidableEq, Repr

/-- The members of an object whose brace has been taken, none of which is kept. -/
def members (member : Reader Unit) : Reader Unit := do
  more (← rest).length true
where
  /-- The further members, of which there are at most `room`. -/
  more (room : Nat) (isFirst : Bool) : Reader Unit :=
    match room with
    | 0 => failAtNext .endInObject
    | room + 1 => do
        if ← hasKey isFirst then
          member
          more room false

/-- A value of any shape, given how deep it may go. -/
def any : Nat → Reader Any
  | 0 => failAtNext .tooDeep
  | depth + 1 => do
      match ← afterBlanks? with
      | none => failAtNext .endInValue
      | some 'n' => do skip; word "ull".toList; return .other
      | some 't' => do skip; word "rue".toList; return .other
      | some 'f' => do skip; word "alse".toList; return .other
      | some '-' => do skip; let _ ← number true; return .other
      | some '"' => do skip; return .text (← textBody)
      | some '[' =>
          enter depth
          let _ ← closed (elements (any depth)) endOfList
          return .other
      | some '\x7b' =>
          enter depth
          closed (members do let _ ← textBody; colon; let _ ← any depth) endOfObject
          return .other
      | some char =>
          if Text.isAsciiDigit char then
            match ← number false with
            | .natural value => return .natural value
            | _ => return .other
          else failAtNext .expectedValue

/-- One of several named values, given how deep it may go: its name, or an object whose only key is
the name and whose value is `null`. -/
def variant {α : Type} (depth : Nat) (known : List (Text × α)) : Reader α := do
  match ← afterBlanks? with
  | some '"' => name
  | some '\x7b' =>
      enter (depth - 1)
      let value ← name
      colon
      match ← afterBlanks? with
      | some 'n' => do skip; word "ull".toList
      | none => failAtNext .endInValue
      | some _ => failMismatch "unit".toList
      match ← afterBlanks? with
      | some '\x7d' => skip
      | some _ => fail .expectedValue
      | none => fail .endInObject
      return value
  | some _ => failAtNext .expectedValue
  | none => failAtNext .endInValue
where
  /-- The name, and the value that it stands for. -/
  name : Reader α := do
    let written ← textOf "variant identifier".toList
    match known.lookup written with
    | some value => return value
    | none => fail (.variantUnknown written (known.map Prod.fst))

/-- A member of a record: its name, whether it has been read already, and how it is read. -/
structure Member (σ : Type) where
  name : Text
  isRead : σ → Bool
  read : σ → Reader σ

/-- A record: the names of its shape and of its members, the members that have been read so far,
and how the record is made of them. -/
structure Record (σ : Type) (α : Type) where
  name : Text
  members : List (Member σ)
  unread : σ
  complete : σ → Except Fault α

namespace Record

variable {σ α : Type}

/-- What is wanted where a record should be. -/
def expected (record : Record σ α) : Text :=
  "struct ".toList ++ record.name

/-- What is wanted where the values of a record are too few. -/
def expectedLength (record : Record σ α) : Text :=
  let count := record.members.length
  record.expected ++ " with ".toList ++ Text.ofNat count ++
    (if count = 1 then " element".toList else " elements".toList)

/-- The members of an object whose brace has been taken.  Members that the record does not know are
passed over. -/
def fromObject (record : Record σ α) : Reader σ := do
  more (← rest).length true record.unread
where
  /-- The further members, of which there are at most `room`. -/
  more (room : Nat) (isFirst : Bool) (state : σ) : Reader σ :=
    match room with
    | 0 => failAtNext .endInObject
    | room + 1 => do
        if ← hasKey isFirst then
          let key ← textBody
          match record.members.find? (·.name == key) with
          | none =>
              colon
              skipValue
              more room false state
          | some member =>
              if member.isRead state then failWithin (.fieldDuplicate member.name)
              else
                colon
                more room false (← member.read state)
        else return state

/-- The values of a list whose bracket has been taken, in the order of the members. -/
def fromList (record : Record σ α) : Reader σ :=
  more 0 record.members record.unread
where
  /-- The values of the members that are left, after `count` values. -/
  more (count : Nat) (members : List (Member σ)) (state : σ) : Reader σ :=
    match members with
    | [] => return state
    | member :: members => do
        if ← hasElement (count == 0) then
          more (count + 1) members (← member.read state)
        else failWithin (.lengthMismatch count record.expectedLength)

/-- Makes the record, or fails because a member is missing. -/
def finish (record : Record σ α) (state : σ) : Reader α :=
  match record.complete state with
  | .ok value => return value
  | .error fault => failWithin fault

/-- Reads a record, given how deep it may go. -/
def reader (record : Record σ α) (depth : Nat) : Reader α := do
  match ← afterBlanks? with
  | none => failAtNext .endInValue
  | some '[' =>
      enter (depth - 1)
      closed (do record.finish (← record.fromList)) endOfList
  | some '\x7b' =>
      enter (depth - 1)
      closed (do record.finish (← record.fromObject)) endOfObject
  | some _ => failMismatch record.expected

/-- The value of a member that has to be there. -/
def required {β : Type} (name : String) : Option β → Except Fault β
  | some value => .ok value
  | none => .error (.fieldMissing name.toList)

end Record

/-- The value that a whole text holds; only blanks may follow it. -/
def whole {α : Type} (reader : Reader α) (document : Text) : Except Failure α := do
  let (value, rest) ← reader document
  match rest.dropWhile isBlank with
  | [] => return value
  | rest => .error (.placed .trailingCharacters (Text.byteLength rest - 1))

end Reader

end Json

end Typeset
