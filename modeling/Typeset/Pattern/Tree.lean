import Typeset.Text.Basic

/-!
# Patterns as written

A pattern is read into a tree that keeps where each part stands in the source, because a refusal
points at the part it is about.  What the tree means is decided afterwards: whether letters match
in either case, for instance, hangs on the flags that are in force at a place.
-/

namespace Typeset

namespace Pattern

/-- A stretch of a pattern: the offsets, in code points, of its first character and of the
character after its last. -/
structure Span where
  start : Nat
  stop : Nat
  deriving DecidableEq, Repr

/-- A place between two characters that a pattern can ask about, as written. -/
inductive Anchor where
  | lineStart
  | lineEnd
  | textStart
  | textEnd
  | wordBoundary
  | notWordBoundary
  | wordStart
  | wordEnd
  | wordStartHalf
  | wordEndHalf
  deriving DecidableEq, Repr

/-- The classes with an escape of their own: digits, blanks and word characters. -/
inductive Shorthand where
  | digit
  | blank
  | word
  deriving DecidableEq, Repr

/-- The classes that have a name between `[:` and `:]`; they hold ASCII characters only. -/
inductive AsciiClass where
  | alnum
  | alpha
  | ascii
  | blank
  | cntrl
  | digit
  | graph
  | lower
  | print
  | punct
  | space
  | upper
  | word
  | xdigit
  deriving DecidableEq, Repr

/-- A question about a Unicode property: its name alone, or its name with a value. -/
inductive PropertyQuery where
  | named (name : Text)
  | valued (differs : Bool) (name value : Text)
  deriving DecidableEq, Repr

/-- A character that stands for itself.  One that is written as two hexadecimal digits can also be
read as a byte. -/
structure Literal where
  span : Span
  char : Char
  asByte : Bool
  deriving DecidableEq, Repr

/-- The operators between sets of characters. -/
inductive SetOperator where
  | intersection
  | difference
  | symmetricDifference
  deriving DecidableEq, Repr

/-- What may stand in square brackets. -/
inductive SetTree where
  | empty (span : Span)
  | literal (item : Literal)
  | range (span : Span) (low high : Literal)
  | ascii (span : Span) (negated : Bool) (name : AsciiClass)
  | shorthand (span : Span) (negated : Bool) (name : Shorthand)
  | property (span : Span) (negated : Bool) (query : PropertyQuery)
  | bracketed (span : Span) (negated : Bool) (set : SetTree)
  | union (span : Span) (items : List SetTree)
  | operation (span : Span) (operator : SetOperator) (left right : SetTree)
  deriving Repr

/-- The switches that a pattern can set for itself. -/
inductive Flag where
  | caseInsensitive
  | multiLine
  | dotMatchesNewLine
  | swapGreed
  | unicode
  | crlf
  | verbose
  deriving DecidableEq, Repr

/-- Switches as written: each with the value it is given. -/
abbrev FlagSettings := List (Flag × Bool)

/-- How often a repetition repeats: at least `least` times, and at most `most` times if that is
given. -/
structure Repeats where
  least : Nat
  most : Option Nat
  deriving DecidableEq, Repr

/-- What an opening bracket opens. -/
inductive GroupKind where
  | capture (index : Nat)
  | plain (flags : FlagSettings)
  deriving DecidableEq, Repr

/-- A pattern as written. -/
inductive Tree where
  | empty (span : Span)
  | flags (span : Span) (settings : FlagSettings)
  | literal (item : Literal)
  | dot (span : Span)
  | anchor (span : Span) (place : Anchor)
  | shorthand (span : Span) (negated : Bool) (name : Shorthand)
  | property (span : Span) (negated : Bool) (query : PropertyQuery)
  | bracketed (span : Span) (negated : Bool) (set : SetTree)
  | repetition (span : Span) (repeats : Repeats) (greedy : Bool) (body : Tree)
  | group (span : Span) (kind : GroupKind) (body : Tree)
  | alternation (span : Span) (branches : List Tree)
  | concatenation (span : Span) (items : List Tree)
  deriving Repr

/-- Where the part stands in the pattern. -/
def SetTree.span : SetTree → Span
  | empty span => span
  | literal item => item.span
  | range span _ _ => span
  | ascii span _ _ => span
  | shorthand span _ _ => span
  | property span _ _ => span
  | bracketed span _ _ => span
  | union span _ => span
  | operation span _ _ _ => span

/-- Where the part stands in the pattern. -/
def Tree.span : Tree → Span
  | empty span => span
  | flags span _ => span
  | literal item => item.span
  | dot span => span
  | anchor span _ => span
  | shorthand span _ _ => span
  | property span _ _ => span
  | bracketed span _ _ => span
  | repetition span _ _ _ => span
  | group span _ _ => span
  | alternation span _ => span
  | concatenation span _ => span

/-- The value that written switches give to one of them. -/
def FlagSettings.value? (settings : FlagSettings) (flag : Flag) : Option Bool :=
  List.lookup flag settings

end Pattern

end Typeset
