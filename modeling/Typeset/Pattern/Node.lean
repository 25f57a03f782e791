import Typeset.Pattern.CharSet

/-!
# Matching

What a pattern means, free of how it is written, and the search for a match at one place.  Of the
ways in which a pattern can match, the first counts: a choice prefers its left side, a greedy
repetition one more round, a lazy one none.  `Node.run` tries them in that order, handing what is
left of the text to a continuation that matches the rest of the pattern.

A round of an unbounded repetition that takes no character ends the repetition; it counts only as
the first.
-/

namespace Typeset

namespace Pattern

/-- A condition on the place between two characters. -/
inductive Look where
  | textStart
  | textEnd
  | lineStart
  | lineEnd
  | lineStartCrlf
  | lineEndCrlf
  | wordBoundary (unicode : Bool)
  | notWordBoundary (unicode : Bool)
  | wordStart (unicode : Bool)
  | wordEnd (unicode : Bool)
  | wordStartHalf (unicode : Bool)
  | wordEndHalf (unicode : Bool)
  deriving DecidableEq, Repr

namespace Look

/-- Whether a neighbour of the place is part of a word. -/
def inWord (unicode : Bool) (neighbour : Option Char) : Bool :=
  neighbour.any fun char => (Shorthand.word.codes unicode).contains char.toNat

/-- Whether the condition holds between two neighbours; one is missing at an end of the text. -/
def holds (before after : Option Char) : Look → Bool
  | textStart => before.isNone
  | textEnd => after.isNone
  | lineStart => before.all (· == '\n')
  | lineEnd => after.all (· == '\n')
  | lineStartCrlf => before.all fun char => char == '\n' || (char == '\r' && after != some '\n')
  | lineEndCrlf => after.all fun char => char == '\r' || (char == '\n' && before != some '\r')
  | wordBoundary unicode => inWord unicode before != inWord unicode after
  | notWordBoundary unicode => inWord unicode before == inWord unicode after
  | wordStart unicode => !inWord unicode before && inWord unicode after
  | wordEnd unicode => inWord unicode before && !inWord unicode after
  | wordStartHalf unicode => !inWord unicode before
  | wordEndHalf unicode => !inWord unicode after

end Look

/-- What a pattern matches. -/
inductive Node where
  | empty
  | one (set : CharSet)
  | look (condition : Look)
  | capture (index : Nat) (body : Node)
  | append (first second : Node)
  | orElse (first second : Node)
  | repeated (body : Node) (least : Nat) (most : Option Nat) (greedy : Bool)
  deriving DecidableEq, Repr

/-- The number of groups that can take part in a match.  What is repeated no times at all never
does. -/
def Node.groups : Node → Nat
  | empty => 0
  | one _ => 0
  | look _ => 0
  | capture _ body => body.groups + 1
  | append first second => first.groups + second.groups
  | orElse first second => first.groups + second.groups
  | repeated _ _ (some 0) _ => 0
  | repeated body _ _ _ => body.groups

/-- A place in a text during matching: the character before it, the text after it, how many
characters have been taken since the match began, and what the groups have captured, the latest
first. -/
structure Place where
  before : Option Char
  rest : Text
  taken : Nat
  captures : List (Nat × Text)
  deriving DecidableEq, Repr

namespace Place

/-- The place after the next character. -/
def next (place : Place) (char : Char) (rest : Text) : Place :=
  { place with before := some char, rest, taken := place.taken + 1 }

/-- The place with what lies between it and an earlier place as the capture of a group. -/
def capture (place : Place) (index : Nat) (start : Place) : Place :=
  { place with
    captures := (index, start.rest.take (place.taken - start.taken)) :: place.captures }

end Place

/-- What is to be matched after a part of a pattern. -/
abbrev Continuation := Place → Option Place

/-- How a part of a pattern is matched before something else. -/
abbrev Matcher := Continuation → Continuation

namespace Matcher

/-- Tries one continuation, then another: in the order given if the repetition is greedy. -/
def prefer (greedy : Bool) (more done : Continuation) : Continuation := fun place =>
  if greedy then more place <|> done place else done place <|> more place

/-- So many rounds. -/
def exactly (matcher : Matcher) : Nat → Matcher
  | 0, next => next
  | count + 1, next => matcher (exactly matcher count next)

/-- At most so many rounds. -/
def upTo (matcher : Matcher) (greedy : Bool) : Nat → Matcher
  | 0, next => next
  | count + 1, next => prefer greedy (matcher (upTo matcher greedy count next)) next

/-- Any number of further rounds, each of which takes a character; `room` bounds the characters
that are left. -/
def further (matcher : Matcher) (greedy : Bool) : Nat → Matcher
  | 0, next => next
  | room + 1, next => prefer greedy
      (fun start => matcher
        (fun place =>
          if start.taken < place.taken then further matcher greedy room next place else none)
        start)
      next

/-- One round or more. -/
def some (matcher : Matcher) (greedy : Bool) : Matcher := fun next start =>
  matcher
    (fun place =>
      if start.taken < place.taken then
        further matcher greedy place.rest.length next place
      else next place)
    start

end Matcher

/-- Matches a pattern from a place on, and then the continuation. -/
def Node.run : Node → Matcher
  | .empty, next => next
  | .one set, next => fun place =>
      match place.rest with
      | [] => none
      | char :: rest => if set.contains char then next (place.next char rest) else none
  | .look condition, next => fun place =>
      if condition.holds place.before place.rest.head? then next place else none
  | .capture index body, next => fun start =>
      body.run (fun place => next (place.capture index start)) start
  | .append first second, next => first.run (second.run next)
  | .orElse first second, next => fun place => first.run next place <|> second.run next place
  | .repeated body least none greedy, next =>
      match least with
      | 0 => Matcher.prefer greedy (Matcher.some body.run greedy next) next
      | least + 1 => Matcher.exactly body.run least (Matcher.some body.run greedy next)
  | .repeated body least (some most) greedy, next =>
      Matcher.exactly body.run least (Matcher.upTo body.run greedy (most - least) next)

/-- What a pattern matched: the text, and what its groups captured. -/
structure Match where
  text : Text
  captures : List (Nat × Text)
  deriving DecidableEq, Repr

namespace Match

/-- What a group captured, if it took part. -/
def capture? (found : Match) (index : Nat) : Option Text :=
  found.captures.lookup index

end Match

/-- The match of a pattern that begins exactly at a place in a text, given the character before
it. -/
def Node.matchAt (node : Node) (before : Option Char) (rest : Text) : Option Match :=
  (node.run some ⟨before, rest, 0, []⟩).map fun stop => ⟨rest.take stop.taken, stop.captures⟩

end Pattern

end Typeset
