import Typeset.Pattern.Node

/-!
# Sizes of patterns

A pattern is refused if the states that it is compiled to would take too much memory.  A counted
repetition takes the states of its body once for each round, so a short pattern can be a large one.
How many bytes a pattern takes is left open, since it depends on how the characters of a set share
their bytes; there is an estimate for programs that run.
-/

namespace Typeset

namespace Pattern

/-- The number of bytes of the largest pattern that is compiled. -/
def maxSize : Nat := 10485760

/-- How large patterns are. -/
class Sizes where
  /-- The number of bytes that a pattern takes when it is compiled. -/
  size : Node → Nat

/-- The number of bytes of a state. -/
def stateSize : Nat := 32

/-- The number of bytes of a way from one state to the next. -/
def wayBytes : Nat := 8

/-- The number of bytes that an interval of characters beyond ASCII takes in a set. -/
def intervalBytes : Nat := 64

namespace CharSet

/-- The number of bytes that the intervals of a table take. -/
def tableSize (table : CodeRanges) : Nat :=
  table.foldl
    (fun total interval => total + if interval.2 < 0x80 then wayBytes else intervalBytes) 0

/-- The number of bytes that a set takes besides its first and its last state. -/
def inner : CharSet → Nat
  | ranges table => tableSize table
  | complement set => set.inner + 2 * intervalBytes
  | union left right => left.inner + right.inner
  | intersection left right => min left.inner right.inner
  | difference left right => left.inner + right.inner
  | symmetricDifference left right => left.inner + right.inner
  | anyCase set => 2 * set.inner
  | anyAsciiCase set => 2 * set.inner

/-- The number of bytes that a set takes.  A single character takes a state for each of its
bytes. -/
def estimate : CharSet → Nat
  | ranges [(low, high)] =>
      if low = high then stateSize * (Char.ofNat low).utf8Size
      else 2 * stateSize + tableSize [(low, high)]
  | set => 2 * stateSize + set.inner

end CharSet

namespace Node

/-- About the number of bytes that a pattern takes when it is compiled. -/
def estimate : Node → Nat
  | empty => stateSize
  | one set => set.estimate
  | look _ => stateSize
  | capture _ body => 2 * stateSize + body.estimate
  | append first second => first.estimate + second.estimate
  | orElse first second => 2 * stateSize + 2 * wayBytes + first.estimate + second.estimate
  | repeated body 0 none _ => 2 * stateSize + wayBytes + body.estimate
  | repeated body least none _ => least * body.estimate + stateSize + wayBytes
  | repeated body least (some most) _ =>
      least * body.estimate + (most - least) * (body.estimate + stateSize + wayBytes) + stateSize

end Node

end Pattern

end Typeset
