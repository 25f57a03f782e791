import Typeset.Pattern.Fault
import Typeset.Text.Blank
import Typeset.Text.Word

/-!
# Reading patterns

The reader goes over the pattern once, from left to right, and stops at the first fault.  In a
verbose pattern blanks and comments are passed over.  Every step takes at least one character, so
the number of characters left bounds the number of steps; the functions that call each other count
it down.
-/

namespace Typeset

namespace Pattern

/-- What the reader knows: the pattern from here on, the offset of its next character, whether
blanks are passed over, how many capture groups have been opened, and the names they were given. -/
structure Reading where
  rest : Text
  offset : Nat
  verbose : Bool
  captures : Nat
  names : List (Text × Span)

/-- A step of reading. -/
abbrev Read := StateT Reading (Except Refusal)

namespace Read

/-- The next character. -/
def peek : Read (Option Char) :=
  return (← get).rest.head?

/-- The offset of the next character. -/
def offset : Read Nat :=
  return (← get).offset

/-- The number of characters left. -/
def left : Read Nat :=
  return (← get).rest.length

/-- Takes a number of characters. -/
def skip (count : Nat) : Read Unit :=
  modify fun reading =>
    { reading with rest := reading.rest.drop count, offset := reading.offset + count }

/-- Refuses the pattern for a stretch of it. -/
def refuse {α : Type} (fault : Fault) (start stop : Nat) : Read α :=
  throw ⟨fault, ⟨start, stop⟩, none⟩

/-- Refuses the pattern from an offset up to the next character. -/
def refuseFrom {α : Type} (fault : Fault) (start : Nat) : Read α := do
  refuse fault start (← offset)

/-- Refuses the pattern for the next character. -/
def refuseChar {α : Type} (fault : Fault) : Read α := do
  refuse fault (← offset) ((← offset) + 1)

/-- Refuses the pattern at the place before the next character. -/
def refuseHere {α : Type} (fault : Fault) : Read α := do
  refuse fault (← offset) (← offset)

/-- How many characters of blanks and comments a verbose pattern begins with. -/
def blankLead (inComment : Bool) : Text → Nat
  | [] => 0
  | char :: rest =>
      if inComment then 1 + blankLead (char != '\n') rest
      else if isBlank char then 1 + blankLead false rest
      else if char = '#' then 1 + blankLead true rest
      else 0

/-- Passes over blanks and comments in a verbose pattern. -/
def skipBlanks : Read Unit := do
  let reading ← get
  if reading.verbose then skip (blankLead false reading.rest)

/-- Takes a character; whether another follows. -/
def bump : Read Bool := do
  skip 1
  return (← peek).isSome

/-- Takes a character and passes over blanks; whether another character follows. -/
def bumpOver : Read Bool := do
  let _ ← bump
  skipBlanks
  return (← peek).isSome

/-- Takes the characters of `lead` if they are next. -/
def bumpIf (lead : String) : Read Bool := do
  if lead.toList.isPrefixOf (← get).rest then
    skip lead.length
    return true
  else return false

/-- Takes the first of the texts that is next; whether one was. -/
def bumpAny : List String → Read Bool
  | [] => return false
  | lead :: others => do
      if ← bumpIf lead then return true
      else bumpAny others

/-- The character after the next one; in a verbose pattern the one after blanks and at most one
number sign. -/
def peekSecond : Read (Option Char) := do
  let reading ← get
  if reading.verbose then
    let rest := reading.rest.tail
    match rest.dropWhile isBlank with
    | '#' :: more => return (more.dropWhile isBlank).head?.or rest.head?
    | other => return other.head?.or rest.head?
  else return reading.rest.tail.head?

/-- Takes characters as long as they are accepted, passing over blanks after each. -/
def collect (accepts : Char → Bool) : Nat → Read Text
  | 0 => return []
  | fuel + 1 => do
      match ← peek with
      | some char =>
          if accepts char then
            let _ ← bumpOver
            return char :: (← collect accepts fuel)
          else return []
      | none => return []

/-- Takes characters up to a closing brace, which is left; each has to pass `check`. -/
def untilBrace (check : Char → Read Unit) : Nat → Read Text
  | 0 => return []
  | fuel + 1 => do
      if ← bumpOver then
        match ← peek with
        | some '\x7d' => return []
        | some char =>
            check char
            return char :: (← untilBrace check fuel)
        | none => return []
      else return []

/-- A number in decimal digits, or the refusal that its absence or size would be worth. -/
def decimal : Read (Except Refusal Nat) := do
  skip ((← get).rest.takeWhile isBlank).length
  let start ← offset
  let digits ← collect Text.isAsciiDigit (← left)
  let stop ← offset
  let _ ← collect isBlank (← left)
  match Text.toNat? digits with
  | none => return .error ⟨.repetitionCountMissing, ⟨start, stop⟩, none⟩
  | some number =>
      if number < Nat.pow 2 32 then return .ok number
      else return .error ⟨.decimalInvalid, ⟨start, stop⟩, none⟩

/-- Takes the value or refuses the pattern. -/
def demand (number : Except Refusal Nat) : Read Nat :=
  match number with
  | .ok number => return number
  | .error refusal => throw refusal

/-- What an escape or a single character means by itself. -/
inductive Primitive where
  | literal (item : Literal)
  | dot (span : Span)
  | anchor (span : Span) (place : Anchor)
  | shorthand (span : Span) (negated : Bool) (name : Shorthand)
  | property (span : Span) (negated : Bool) (query : PropertyQuery)

namespace Primitive

/-- Where the part stands. -/
def span : Primitive → Span
  | literal item => item.span
  | dot span => span
  | anchor span _ => span
  | shorthand span _ _ => span
  | property span _ _ => span

/-- The part as a piece of the pattern. -/
def tree : Primitive → Tree
  | literal item => .literal item
  | dot span => .dot span
  | anchor span place => .anchor span place
  | shorthand span negated name => .shorthand span negated name
  | property span negated query => .property span negated query

/-- The part as an item between square brackets. -/
def setTree : Primitive → Read SetTree
  | literal item => return .literal item
  | shorthand span negated name => return .shorthand span negated name
  | property span negated query => return .property span negated query
  | other => refuse .classEscapeInvalid other.span.start other.span.stop

/-- The part as an end of a range. -/
def rangeEnd : Primitive → Read Literal
  | literal item => return item
  | other => refuse .classRangeLiteral other.span.start other.span.stop

end Primitive

/-- Whether the character is a hexadecimal digit. -/
def isHexDigit (char : Char) : Bool :=
  Text.isAsciiDigit char || ('a' ≤ char && char ≤ 'f') || ('A' ≤ char && char ≤ 'F')

/-- The number that hexadecimal digits write, in either case. -/
def hexValue (digits : Text) : Nat :=
  CodeRanges.hexNumber (digits.map Char.toUpper)

/-- Exactly so many hexadecimal digits. -/
def hexDigits (first : Bool) : Nat → Read Text
  | 0 => return []
  | count + 1 => do
      if !first then
        if !(← bumpOver) then refuseHere .escapeUnexpectedEnd
      match ← peek with
      | some char =>
          if isHexDigit char then return char :: (← hexDigits false count)
          else refuseChar .escapeHexInvalidDigit
      | none => refuseHere .escapeUnexpectedEnd

/-- The character with a code point, unless there is none. -/
def charOf (code start stop : Nat) : Read Char :=
  if code.isValidChar then return Char.ofNat code
  else refuse .escapeHexInvalid start stop

/-- A character given by its code point; `escape` is the offset of the backslash. -/
def hexLiteral (escape : Nat) : Read Literal := do
  let kind ← peek
  let width := if kind == some 'x' then 2 else if kind == some 'u' then 4 else 8
  if !(← bumpOver) then refuseHere .escapeUnexpectedEnd
  let start ← offset
  if (← peek) == some '\x7b' then
    let digits ← untilBrace
      (fun char => do if !isHexDigit char then refuseChar .escapeHexInvalidDigit) (← left)
    if (← peek).isNone then refuseFrom .escapeUnexpectedEnd start
    let stop ← offset
    let _ ← bumpOver
    if digits.isEmpty then refuseFrom .escapeHexEmpty start
    let char ← charOf (hexValue digits) (start + 1) stop
    return ⟨⟨escape, ← offset⟩, char, false⟩
  else
    let digits ← hexDigits true width
    let _ ← bumpOver
    let char ← charOf (hexValue digits) start (← offset)
    return ⟨⟨escape, ← offset⟩, char, width == 2⟩

/-- The place of the first occurrence of a mark in a text. -/
def placeOf? (mark : Text) : Text → Option Nat
  | [] => none
  | char :: rest =>
      if mark.isPrefixOf (char :: rest) then some 0 else (placeOf? mark rest).map (· + 1)

/-- The question that the text between the braces of `\p` asks. -/
def propertyQuery (content : Text) : PropertyQuery :=
  let valued (differs : Bool) (mark : Text) (place : Nat) : PropertyQuery :=
    .valued differs (content.take place) (content.drop (place + mark.length))
  match placeOf? ['!', '='] content with
  | some place => valued true ['!', '='] place
  | none =>
      match placeOf? [':'] content with
      | some place => valued false [':'] place
      | none =>
          match placeOf? ['='] content with
          | some place => valued false ['='] place
          | none => .named content

/-- A class of characters with a Unicode property; `escape` is the offset of the backslash. -/
def property (escape : Nat) : Read Primitive := do
  let negated := (← peek) == some 'P'
  if !(← bumpOver) then refuseHere .escapeUnexpectedEnd
  if (← peek) == some '\x7b' then
    let content ← untilBrace (fun _ => return ()) (← left)
    if (← peek).isNone then refuseHere .escapeUnexpectedEnd
    skip 1
    return .property ⟨escape, ← offset⟩ negated (propertyQuery content)
  else
    match ← peek with
    | some '\\' => refuseChar .propertyInvalid
    | letter =>
        let _ ← bumpOver
        return .property ⟨escape, ← offset⟩ negated (.named letter.toList)

/-- The anchor that a word in braces after `\b` names, if braces with a word follow. -/
def namedBoundary (escape : Nat) : Read (Option Anchor) := do
  let before ← get
  let start ← offset
  let accepts (char : Char) : Bool := char.isAlpha || char == '-'
  if !(← bumpOver) then refuseFrom .wordBoundaryUnexpectedEnd escape
  let content ← offset
  if !((← peek).any accepts) then
    set before
    return none
  let word ← collect accepts (← left)
  if (← peek) != some '\x7d' then refuseFrom .wordBoundaryUnclosed start
  let stop ← offset
  skip 1
  if word = "start".toList then return some .wordStart
  else if word = "end".toList then return some .wordEnd
  else if word = "start-half".toList then return some .wordStartHalf
  else if word = "end-half".toList then return some .wordEndHalf
  else refuse .wordBoundaryUnrecognized content stop

/-- Whether a backslash may stand before the character although it means itself anyway: every
ASCII character but letters, digits and angle brackets. -/
def isEscapable (char : Char) : Bool :=
  char.toNat < 128 && !char.isAlphanum && char != '<' && char != '>'

/-- The character or anchor that a letter after a backslash stands for. -/
def letterEscape (span : Span) (char : Char) : Option Primitive :=
  let control (code : Nat) : Option Primitive :=
    some (.literal ⟨span, Char.ofNat code, false⟩)
  match char with
  | 'a' => control 0x07
  | 'f' => control 0x0C
  | 't' => control 0x09
  | 'n' => control 0x0A
  | 'r' => control 0x0D
  | 'v' => control 0x0B
  | 'A' => some (.anchor span .textStart)
  | 'z' => some (.anchor span .textEnd)
  | 'B' => some (.anchor span .notWordBoundary)
  | '<' => some (.anchor span .wordStart)
  | '>' => some (.anchor span .wordEnd)
  | _ => none

/-- The class that a letter after a backslash names, and whether it is the complement. -/
def shorthandEscape (char : Char) : Option (Bool × Shorthand) :=
  match char with
  | 'd' => some (false, .digit)
  | 'D' => some (true, .digit)
  | 's' => some (false, .blank)
  | 'S' => some (true, .blank)
  | 'w' => some (false, .word)
  | 'W' => some (true, .word)
  | _ => none

/-- Reads an escape; the backslash is next. -/
def escape : Read Primitive := do
  let start ← offset
  if !(← bump) then refuseFrom .escapeUnexpectedEnd start
  match ← peek with
  | none => refuseFrom .escapeUnexpectedEnd start
  | some char =>
      if Text.isAsciiDigit char then
        refuse .backreference start ((← offset) + 1)
      else if char == 'x' || char == 'u' || char == 'U' then
        return .literal (← hexLiteral start)
      else if char == 'p' || char == 'P' then property start
      else
        skip 1
        let span : Span := ⟨start, ← offset⟩
        match shorthandEscape char with
        | some (negated, name) => return .shorthand span negated name
        | none =>
            if isEscapable char then return .literal ⟨span, char, false⟩
            else if char == 'b' then
              if (← peek) == some '\x7b' then
                match ← namedBoundary start with
                | some anchor => return .anchor ⟨start, ← offset⟩ anchor
                | none => return .anchor span .wordBoundary
              else return .anchor span .wordBoundary
            else
              match letterEscape span char with
              | some primitive => return primitive
              | none => refuse .escapeUnrecognized span.start span.stop

/-- Reads one character or escape outside square brackets. -/
def primitive (char : Char) : Read Primitive := do
  if char == '\\' then escape
  else
    let start ← offset
    skip 1
    let span : Span := ⟨start, start + 1⟩
    if char == '.' then return .dot span
    else if char == '^' then return .anchor span .lineStart
    else if char == '$' then return .anchor span .lineEnd
    else return .literal ⟨span, char, false⟩

/-- Reads one character or escape inside square brackets. -/
def setPrimitive (char : Char) : Read Primitive := do
  if char == '\\' then escape
  else
    let start ← offset
    skip 1
    return .literal ⟨⟨start, start + 1⟩, char, false⟩

/-- The ASCII class of a name. -/
def asciiClass? (name : Text) : Option AsciiClass :=
  [("alnum", AsciiClass.alnum), ("alpha", .alpha), ("ascii", .ascii), ("blank", .blank),
    ("cntrl", .cntrl), ("digit", .digit), ("graph", .graph), ("lower", .lower),
    ("print", .print), ("punct", .punct), ("space", .space), ("upper", .upper),
    ("word", .word), ("xdigit", .xdigit)].findSome? fun (spelling, kind) =>
    if spelling.toList = name then some kind else none

/-- An ASCII class such as `[:alpha:]`, if one is next; otherwise nothing is taken. -/
def asciiSet : Read (Option SetTree) := do
  let start ← offset
  match (← get).rest with
  | '[' :: ':' :: rest =>
      let negated := rest.head? == some '^'
      let rest := if negated then rest.tail else rest
      let name := rest.takeWhile (· != ':')
      match rest.drop name.length, asciiClass? name with
      | ':' :: ']' :: _, some kind =>
          skip (2 + (if negated then 1 else 0) + name.length + 2)
          return some (.ascii ⟨start, ← offset⟩ negated kind)
      | _, _ => return none
  | _ => return none

/-- An item or a range inside square brackets; `unclosed` is the opening to blame if the pattern
ends. -/
def setRange (unclosed : Span) (char : Char) : Read SetTree := do
  let first ← setPrimitive char
  skipBlanks
  if (← peek).isNone then refuse .classUnclosed unclosed.start unclosed.stop
  let second ← peekSecond
  if (← peek) != some '-' || second == some ']' || second == some '-' then first.setTree
  else
    if !(← bumpOver) then refuse .classUnclosed unclosed.start unclosed.stop
    match ← peek with
    | none => refuse .classUnclosed unclosed.start unclosed.stop
    | some char =>
        let last ← setPrimitive char
        let span : Span := ⟨first.span.start, last.span.stop⟩
        let low ← first.rangeEnd
        let high ← last.rangeEnd
        if low.char ≤ high.char then return .range span low high
        else refuse .classRangeInvalid span.start span.stop

/-- Hyphens at the beginning of a set, which stand for themselves. -/
def leadingHyphens (start : Nat) : Nat → Read (List SetTree)
  | 0 => return []
  | fuel + 1 => do
      if (← peek) == some '-' then
        let place ← offset
        if !(← bumpOver) then refuse .classUnclosed start start
        return .literal ⟨⟨place, place + 1⟩, '-', false⟩ :: (← leadingHyphens start fuel)
      else return []

/-- The beginning of a set, up to where its items begin: its span so far, whether it is negated,
and the items that can stand only here. -/
def setOpening : Read (Span × Bool × List SetTree) := do
  let start ← offset
  if !(← bumpOver) then refuseFrom .classUnclosed start
  let negated := (← peek) == some '^'
  if negated then
    if !(← bumpOver) then refuseFrom .classUnclosed start
  let hyphens ← leadingHyphens start (← left)
  if hyphens.isEmpty && (← peek) == some ']' then
    let place ← offset
    if !(← bumpOver) then refuseFrom .classUnclosed start
    return (⟨start, ← offset⟩, negated, [.literal ⟨⟨place, place + 1⟩, ']', false⟩])
  else return (⟨start, ← offset⟩, negated, hyphens)

/-- The items of a set side by side. -/
def unionOf (place : Nat) : List SetTree → SetTree
  | [] => .empty ⟨place, place⟩
  | [item] => item
  | first :: rest =>
      .union ⟨first.span.start, ((first :: rest).getLastD first).span.stop⟩ (first :: rest)

/-- The set that has been read, joined to the one before the last operator. -/
def joinOperand (pending : Option (SetOperator × SetTree)) (set : SetTree) : SetTree :=
  match pending with
  | none => set
  | some (operator, left) => .operation ⟨left.span.start, set.span.stop⟩ operator left set

/-- The operator between sets that is next, if one is. -/
def setOperator? (char : Char) (second : Option Char) : Option SetOperator :=
  if char == '&' && second == some '&' then some .intersection
  else if char == '-' && second == some '-' then some .difference
  else if char == '~' && second == some '~' then some .symmetricDifference
  else none

mutual

/-- Reads a set in square brackets; the opening bracket is next. -/
def bracketed : Nat → Read (Span × Bool × SetTree)
  | 0 => refuseHere .classUnclosed
  | fuel + 1 => do
      let (span, negated, items) ← setOpening
      let set ← setItems fuel span none items
      return (⟨span.start, ← offset⟩, negated, set)

/-- Reads the items of a set up to its closing bracket. -/
def setItems : Nat → Span → Option (SetOperator × SetTree) → List SetTree → Read SetTree
  | 0, span, _, _ => refuse .classUnclosed span.start span.stop
  | fuel + 1, span, pending, items => do
      skipBlanks
      match ← peek with
      | none => refuse .classUnclosed span.start span.stop
      | some '[' =>
          match ← asciiSet with
          | some item => setItems fuel span pending (items ++ [item])
          | none =>
              let (inner, negated, set) ← bracketed fuel
              setItems fuel span pending (items ++ [.bracketed inner negated set])
      | some ']' =>
          let set := joinOperand pending (unionOf (← offset) items)
          skip 1
          return set
      | some char =>
          match setOperator? char (← get).rest.tail.head? with
          | some operator =>
              let left := joinOperand pending (unionOf (← offset) items)
              skip 2
              setItems fuel span (some (operator, left)) []
          | none =>
              let item ← setRange span char
              setItems fuel span pending (items ++ [item])

end

/-- The switch of a letter. -/
def flag? (char : Char) : Option Flag :=
  match char with
  | 'i' => some .caseInsensitive
  | 'm' => some .multiLine
  | 's' => some .dotMatchesNewLine
  | 'U' => some .swapGreed
  | 'u' => some .unicode
  | 'R' => some .crlf
  | 'x' => some .verbose
  | _ => none

/-- Reads switches up to a colon or a closing bracket, which is left.  `minus` is the place of the
hyphen after which they are turned off, and `seen` holds the places of the switches before. -/
def flags (minus : Option Nat) (seen : List (Flag × Nat)) : Nat → Read FlagSettings
  | 0 => refuseHere .flagUnexpectedEnd
  | fuel + 1 => do
      let place ← offset
      match ← peek with
      | none => refuseHere .flagUnexpectedEnd
      | some char =>
          if char == ':' || char == ')' then
            match minus with
            | some minus =>
                if minus + 1 == place then refuse .flagDanglingNegation minus place
                else return []
            | none => return []
          else if char == '-' then
            match minus with
            | some minus =>
                throw ⟨.flagRepeatedNegation, ⟨place, place + 1⟩, some ⟨minus, minus + 1⟩⟩
            | none =>
                if !(← bump) then refuseHere .flagUnexpectedEnd
                flags (some place) seen fuel
          else
            match flag? char with
            | none => refuseChar .flagUnrecognized
            | some flag =>
                match seen.lookup flag with
                | some earlier =>
                    throw ⟨.flagDuplicate, ⟨place, place + 1⟩, some ⟨earlier, earlier + 1⟩⟩
                | none =>
                    if !(← bump) then refuseHere .flagUnexpectedEnd
                    return (flag, minus.isNone) :: (← flags minus ((flag, place) :: seen) fuel)

/-- Whether a character may stand in the name of a group. -/
def isNameChar (first : Bool) (char : Char) : Bool :=
  if first then char == '_' || isLetter char
  else char == '_' || char == '.' || char == '[' || char == ']' || isLetterOrNumber char

/-- Takes the name of a group up to the angle bracket that closes it. -/
def nameChars (first : Bool) : Nat → Read Text
  | 0 => return []
  | fuel + 1 => do
      match ← peek with
      | none => return []
      | some char =>
          if char == '>' then return []
          else if isNameChar first char then
            skip 1
            return char :: (← nameChars false fuel)
          else refuseChar .groupNameInvalid

/-- Reads the name of a group and notes it. -/
def groupName : Read Unit := do
  if (← peek).isNone then refuseHere .groupNameUnexpectedEnd
  let start ← offset
  let name ← nameChars true (← left)
  let stop ← offset
  if (← peek).isNone then refuseHere .groupNameUnexpectedEnd
  skip 1
  if name.isEmpty then refuse .groupNameEmpty start start
  match (← get).names.lookup name with
  | some earlier => throw ⟨.groupNameDuplicate, ⟨start, stop⟩, some earlier⟩
  | none => modify fun reading => { reading with names := (name, ⟨start, stop⟩) :: reading.names }

/-- The number of the capture group that opens now. -/
def nextCapture : Read Nat := do
  modify fun reading => { reading with captures := reading.captures + 1 }
  return (← get).captures

/-- What an opening bracket turned out to open. -/
inductive Opening where
  | group (span : Span) (kind : GroupKind)
  | flags (span : Span) (settings : FlagSettings)

/-- Reads the beginning of a group, or switches in brackets; the opening bracket is next. -/
def opening : Read Opening := do
  let start ← offset
  let span : Span := ⟨start, start + 1⟩
  skip 1
  skipBlanks
  let inner ← offset
  if ← bumpAny ["?=", "?!", "?<=", "?<!"] then
    refuseFrom .lookAround start
  else if ← bumpAny ["?P<", "?<"] then
    let index ← nextCapture
    groupName
    return .group span (.capture index)
  else if ← bumpIf "?" then
    if (← peek).isNone then refuse .groupUnclosed span.start span.stop
    let settings ← flags none [] ((← left) + 1)
    let close ← peek
    skip 1
    if close == some ')' then
      if settings.isEmpty then refuse .repetitionMissing inner inner
      else return .flags ⟨start, ← offset⟩ settings
    else return .group span (.plain settings)
  else return .group span (.capture (← nextCapture))

/-- Takes a question mark after a repetition; whether there was none. -/
def greediness : Read Bool := do
  if (← peek) == some '?' then
    skip 1
    return false
  else return true

/-- The part that a repetition repeats: the last one read, unless there is none. -/
def repeated (items : List Tree) : Read (Tree × List Tree) :=
  match items with
  | [] => refuseHere .repetitionMissing
  | .empty _ :: _ => refuseHere .repetitionMissing
  | .flags _ _ :: _ => refuseHere .repetitionMissing
  | item :: before => return (item, before)

/-- Reads the counts of a repetition; the opening brace is next, `start` its offset. -/
def counts (start : Nat) : Read Repeats := do
  if !(← bumpOver) then refuseFrom .repetitionCountUnclosed start
  let least ← decimal
  if (← peek).isNone then refuseFrom .repetitionCountUnclosed start
  let repeats ←
    if (← peek) == some ',' then
      if !(← bumpOver) then refuseFrom .repetitionCountUnclosed start
      if (← peek) == some '\x7d' then
        let least ← demand least
        pure (⟨least, none⟩ : Repeats)
      else
        let least ← demand least
        let most ← demand (← decimal)
        pure ⟨least, some most⟩
    else
      let least ← demand least
      pure ⟨least, some least⟩
  if (← peek) != some '\x7d' then refuseFrom .repetitionCountUnclosed start
  return repeats

/-- Reads a repetition of the last item; its operator is next. -/
def repetition (char : Char) (items : List Tree) : Read (List Tree) := do
  let start ← offset
  let (item, before) ← repeated items
  let done (repeats : Repeats) (greedy : Bool) : Read (List Tree) := do
    return .repetition ⟨item.span.start, ← offset⟩ repeats greedy item :: before
  if char == '\x7b' then
    let repeats ← counts start
    let _ ← bumpOver
    let greedy ← greediness
    if repeats.most.all (repeats.least ≤ ·) then done repeats greedy
    else refuseFrom .repetitionCountInvalid start
  else
    skip 1
    let greedy ← greediness
    done (if char == '?' then ⟨0, some 1⟩ else ⟨if char == '*' then 0 else 1, none⟩) greedy

/-- Items one after another. -/
def sequenceOf (span : Span) : List Tree → Tree
  | [] => .empty span
  | [item] => item
  | items => .concatenation span items

/-- Branches side by side. -/
def choiceOf (span : Span) : List Tree → Tree
  | [] => .empty span
  | [branch] => branch
  | branches => .alternation span branches

mutual

/-- Reads items up to a bar, a closing bracket or the end of the pattern, which is left; the items
before stand in `items`, the last one first. -/
def sequence : Nat → Nat → List Tree → Read Tree
  | 0, _, _ => refuseHere .groupUnclosed
  | fuel + 1, start, items => do
      skipBlanks
      match ← peek with
      | none => return sequenceOf ⟨start, ← offset⟩ items.reverse
      | some char =>
          if char == '|' || char == ')' then
            return sequenceOf ⟨start, ← offset⟩ items.reverse
          else if char == '(' then
            let item ← group fuel
            sequence fuel start (item :: items)
          else if char == '[' then
            let (span, negated, set) ← bracketed fuel
            sequence fuel start (.bracketed span negated set :: items)
          else if char == '?' || char == '*' || char == '+' || char == '\x7b' then
            sequence fuel start (← repetition char items)
          else
            let item ← primitive char
            sequence fuel start (item.tree :: items)

/-- Reads branches up to a closing bracket or the end of the pattern, which is left. -/
def choice : Nat → Nat → List Tree → Read Tree
  | 0, _, _ => refuseHere .groupUnclosed
  | fuel + 1, start, branches => do
      let branch ← sequence fuel (← offset) []
      if (← peek) == some '|' then
        skip 1
        choice fuel start (branch :: branches)
      else return choiceOf ⟨start, ← offset⟩ (branch :: branches).reverse

/-- Reads a group, or switches in brackets; the opening bracket is next. -/
def group : Nat → Read Tree
  | 0 => refuseHere .groupUnclosed
  | fuel + 1 => do
      match ← opening with
      | .flags span settings =>
          if let some verbose := settings.value? .verbose then
            modify fun reading => { reading with verbose }
          return .flags span settings
      | .group span kind =>
          let outer := (← get).verbose
          if let .plain settings := kind then
            if let some verbose := settings.value? .verbose then
              modify fun reading => { reading with verbose }
          let body ← choice fuel (← offset) []
          if (← peek).isNone then refuse .groupUnclosed span.start span.stop
          modify fun reading => { reading with verbose := outer }
          skip 1
          return .group ⟨span.start, ← offset⟩ kind body

end

/-- Reads a whole pattern. -/
def whole : Read Tree := do
  let fuel := 3 * (← left) + 3
  let tree ← choice fuel 0 []
  if (← peek).isSome then refuseChar .groupUnopened
  return tree

end Read

mutual

/-- The first part that lies deeper than `room` allows. -/
def SetTree.tooDeep? (room : Nat) : SetTree → Option Span
  | .bracketed span _ set =>
      match room with
      | 0 => some span
      | room + 1 => set.tooDeep? room
  | .union span items =>
      match room with
      | 0 => some span
      | room + 1 => SetTree.anyTooDeep? room items
  | .operation span _ left right =>
      match room with
      | 0 => some span
      | room + 1 => (left.tooDeep? room).or (right.tooDeep? room)
  | _ => none

/-- The first part of some sets that lies deeper than `room` allows. -/
def SetTree.anyTooDeep? (room : Nat) : List SetTree → Option Span
  | [] => none
  | set :: rest => (set.tooDeep? room).or (SetTree.anyTooDeep? room rest)

end

mutual

/-- The first part that lies deeper than `room` allows. -/
def Tree.tooDeep? (room : Nat) : Tree → Option Span
  | .bracketed span _ set =>
      match room with
      | 0 => some span
      | room + 1 => set.tooDeep? room
  | .repetition span _ _ body =>
      match room with
      | 0 => some span
      | room + 1 => body.tooDeep? room
  | .group span _ body =>
      match room with
      | 0 => some span
      | room + 1 => body.tooDeep? room
  | .alternation span branches =>
      match room with
      | 0 => some span
      | room + 1 => Tree.anyTooDeep? room branches
  | .concatenation span items =>
      match room with
      | 0 => some span
      | room + 1 => Tree.anyTooDeep? room items
  | _ => none

/-- The first part of some trees that lies deeper than `room` allows. -/
def Tree.anyTooDeep? (room : Nat) : List Tree → Option Span
  | [] => none
  | tree :: rest => (tree.tooDeep? room).or (Tree.anyTooDeep? room rest)

end

/-- How deep the parts of a pattern may lie in one another. -/
def nestingLimit : Nat := 250

/-- Reads a pattern. -/
def read (source : Text) : Except Refusal Tree := do
  let (tree, _) ← Read.whole.run ⟨source, 0, false, 0, []⟩
  match tree.tooDeep? nestingLimit with
  | some span => throw ⟨.nestingTooDeep nestingLimit, span, none⟩
  | none => return tree

end Pattern

end Typeset
