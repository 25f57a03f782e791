import Typeset.Pattern.Node
import Typeset.Pattern.Property

/-!
# The meaning of a pattern as written

From the tree of a pattern to what it matches.  Switches hold from where they are set to the end of
the group they stand in, across its branches.  Where Unicode is switched off a set may hold ASCII
characters only, since patterns match texts and not bytes.
-/

namespace Typeset

namespace Pattern

/-- The switches in force at a place in a pattern; blanks are the reader's concern. -/
structure Flags where
  caseInsensitive : Bool
  multiLine : Bool
  dotMatchesNewLine : Bool
  swapGreed : Bool
  unicode : Bool
  crlf : Bool

namespace Flags

/-- The switches in force at the beginning of a pattern. -/
def initial : Flags := ⟨false, false, false, false, true, false⟩

/-- The switches after some of them have been set. -/
def set (flags : Flags) (settings : FlagSettings) : Flags where
  caseInsensitive := (settings.value? .caseInsensitive).getD flags.caseInsensitive
  multiLine := (settings.value? .multiLine).getD flags.multiLine
  dotMatchesNewLine := (settings.value? .dotMatchesNewLine).getD flags.dotMatchesNewLine
  swapGreed := (settings.value? .swapGreed).getD flags.swapGreed
  unicode := (settings.value? .unicode).getD flags.unicode
  crlf := (settings.value? .crlf).getD flags.crlf

/-- The set, closed under a change of case if the switches ask for it. -/
def inCase (flags : Flags) (set : CharSet) : CharSet :=
  if flags.caseInsensitive then set.inAnyCase flags.unicode else set

end Flags

/-- Refuses a pattern for a stretch of it. -/
def refuseSpan {α : Type} (fault : Fault) (span : Span) : Except Refusal α :=
  .error ⟨fault, span, none⟩

/-- The complement of a set, if it is asked for; without Unicode it is refused, because it would
hold bytes that are no characters. -/
def negateIf (flags : Flags) (span : Span) (negated : Bool) (set : CharSet) :
    Except Refusal CharSet :=
  if negated && !flags.unicode then refuseSpan .invalidUtf8 span
  else return set.complementIf negated

/-- A literal outside a set is refused if it is written as a byte that is no character. -/
def checkByte (flags : Flags) (literal : Literal) : Except Refusal Unit :=
  if !flags.unicode && literal.asByte && 0x7F < literal.char.toNat then
    refuseSpan .invalidUtf8 literal.span
  else return ()

/-- A literal inside a set has to be an ASCII character where Unicode is off. -/
def checkSetLiteral (flags : Flags) (literal : Literal) : Except Refusal Unit := do
  checkByte flags literal
  if !flags.unicode && 0x7F < literal.char.toNat then
    refuseSpan .unicodeNotAllowed literal.span

/-- The set of a shorthand class. -/
def shorthandSet (flags : Flags) (span : Span) (negated : Bool) (name : Shorthand) :
    Except Refusal CharSet :=
  negateIf flags span negated (.ranges (name.codes flags.unicode))

/-- The set of a property class. -/
def propertySet (flags : Flags) (span : Span) (negated : Bool) (query : PropertyQuery) :
    Except Refusal CharSet :=
  if !flags.unicode then refuseSpan .unicodeNotAllowed span
  else
    match query.set with
    | .error fault => refuseSpan fault span
    | .ok set => negateIf flags span negated (flags.inCase set)

/-- Joins two sets by an operator. -/
def SetOperator.apply : SetOperator → CharSet → CharSet → CharSet
  | intersection => .intersection
  | difference => .difference
  | symmetricDifference => .symmetricDifference

mutual

/-- The characters of a set as written. -/
def SetTree.meaning (flags : Flags) : SetTree → Except Refusal CharSet
  | .empty _ => return .none
  | .literal item => do
      checkSetLiteral flags item
      return .single item.char
  | .range _ low high => do
      checkSetLiteral flags low
      checkSetLiteral flags high
      return .between low.char high.char
  | .ascii span negated name =>
      negateIf flags span negated (flags.inCase (.ranges name.codes))
  | .shorthand span negated name => shorthandSet flags span negated name
  | .property span negated query => propertySet flags span negated query
  | .bracketed span negated set => do
      let inner ← set.meaning flags
      negateIf flags span negated (flags.inCase inner)
  | .union _ items => SetTree.meaningOfUnion flags items
  | .operation _ operator left right => do
      let left ← left.meaning flags
      let right ← right.meaning flags
      return operator.apply (flags.inCase left) (flags.inCase right)

/-- The characters that belong to one of several sets as written. -/
def SetTree.meaningOfUnion (flags : Flags) : List SetTree → Except Refusal CharSet
  | [] => return .none
  | item :: rest => do
      let first ← item.meaning flags
      return .union first (← SetTree.meaningOfUnion flags rest)

end

/-- The condition that an anchor states under the switches in force. -/
def Anchor.look (flags : Flags) : Anchor → Look
  | lineStart =>
      if !flags.multiLine then .textStart
      else if flags.crlf then .lineStartCrlf else .lineStart
  | lineEnd =>
      if !flags.multiLine then .textEnd
      else if flags.crlf then .lineEndCrlf else .lineEnd
  | textStart => .textStart
  | textEnd => .textEnd
  | wordBoundary => .wordBoundary flags.unicode
  | notWordBoundary => .notWordBoundary flags.unicode
  | wordStart => .wordStart flags.unicode
  | wordEnd => .wordEnd flags.unicode
  | wordStartHalf => .wordStartHalf flags.unicode
  | wordEndHalf => .wordEndHalf flags.unicode

/-- The characters that a dot matches. -/
def dotSet (flags : Flags) : CharSet :=
  if flags.dotMatchesNewLine then .all
  else if flags.crlf then .complement (.ranges [(0x0A, 0x0A), (0x0D, 0x0D)])
  else .complement (.ranges [(0x0A, 0x0A)])

mutual

/-- What a part of a pattern matches, and the switches in force after it. -/
def Tree.meaning (flags : Flags) : Tree → Except Refusal (Node × Flags)
  | .empty _ => return (.empty, flags)
  | .flags _ settings => return (.empty, flags.set settings)
  | .literal item => do
      checkByte flags item
      return (.one (flags.inCase (.single item.char)), flags)
  | .dot span =>
      if flags.unicode then return (.one (dotSet flags), flags)
      else refuseSpan .invalidUtf8 span
  | .anchor _ place => return (.look (place.look flags), flags)
  | .shorthand span negated name => return (.one (← shorthandSet flags span negated name), flags)
  | .property span negated query => return (.one (← propertySet flags span negated query), flags)
  | .bracketed span negated set => do
      let inner ← set.meaning flags
      return (.one (← negateIf flags span negated (flags.inCase inner)), flags)
  | .repetition _ repeats greedy body => do
      let (node, flags) ← body.meaning flags
      return (.repeated node repeats.least repeats.most (greedy != flags.swapGreed), flags)
  | .group _ (.capture index) body => do
      let (node, _) ← body.meaning flags
      return (.capture index node, flags)
  | .group _ (.plain settings) body => do
      let (node, _) ← body.meaning (flags.set settings)
      return (node, flags)
  | .alternation _ branches => Tree.meaningOfChoice flags branches
  | .concatenation _ items => Tree.meaningOfSequence flags items

/-- What one of several branches matches; switches set in one hold in the next. -/
def Tree.meaningOfChoice (flags : Flags) : List Tree → Except Refusal (Node × Flags)
  | [] => return (.one .none, flags)
  | [last] => last.meaning flags
  | branch :: rest => do
      let (first, flags) ← branch.meaning flags
      let (others, flags) ← Tree.meaningOfChoice flags rest
      return (.orElse first others, flags)

/-- What parts one after another match. -/
def Tree.meaningOfSequence (flags : Flags) : List Tree → Except Refusal (Node × Flags)
  | [] => return (.empty, flags)
  | [last] => last.meaning flags
  | item :: rest => do
      let (first, flags) ← item.meaning flags
      let (others, flags) ← Tree.meaningOfSequence flags rest
      return (.append first others, flags)

end

end Pattern

end Typeset
