import Typeset.Pattern.Meaning
import Typeset.Pattern.Reader
import Typeset.Pattern.Size

/-!
# Patterns

A pattern is compiled from its source and then searched for in texts.  The search cuts a text into
pieces: characters that belong to no match, and matches, from left to right and without overlap.
Everything else is read off the pieces: the first match, the text without its matches, the place of
each match.
-/

namespace Typeset

/-- A compiled pattern: its source, and what it matches. -/
structure Pattern where
  source : Text
  node : Pattern.Node
  deriving DecidableEq, Repr

namespace Pattern

/-- Why a pattern cannot be compiled. -/
inductive Error where
  | refused (refusal : Refusal)
  | tooLarge
  deriving DecidableEq, Repr

/-- The error in words, for a pattern with the given source. -/
def Error.message (source : Text) : Error → Text
  | refused refusal => refusal.message source
  | tooLarge =>
      "Compiled regex exceeds size limit of ".toList ++ Text.ofNat maxSize ++
        " bytes.".toList

/-- What the pattern with a source matches. -/
def meaning (source : Text) : Except Refusal Node := do
  let tree ← read source
  let (node, _) ← tree.meaning Flags.initial
  return node

/-- Compiles a pattern, or says why that cannot be done. -/
def compile [Sizes] (source : Text) : Except Error Pattern :=
  match meaning source with
  | .error refusal => .error (.refused refusal)
  | .ok node => if maxSize < Sizes.size node then .error .tooLarge else .ok ⟨source, node⟩

/-- The number of groups that can capture something. -/
def groups (pattern : Pattern) : Nat :=
  pattern.node.groups

/-- A piece of a text that has been searched: a character outside all matches, or a match. -/
inductive Piece where
  | plain (char : Char)
  | found (hit : Match)
  deriving DecidableEq, Repr

namespace Piece

/-- The part of the text that the piece stands for. -/
def text : Piece → Text
  | plain char => [char]
  | found hit => hit.text

/-- The match, if the piece is one. -/
def match? : Piece → Option Match
  | plain _ => none
  | found hit => some hit

/-- What is left of the piece when matches are taken out. -/
def remainder : Piece → Text
  | plain char => [char]
  | found _ => []

end Piece

/-- The pieces of the text that begins after `before`.  The next `skip` characters belong to the
match before them; right after a match an empty one does not count, and the search goes on one
character later. -/
def piecesFrom (pattern : Pattern) (skip : Nat) (afterMatch : Bool) (before : Option Char) :
    Text → List Piece
  | [] =>
      if skip = 0 then
        match pattern.node.matchAt before [] with
        | some hit => if afterMatch then [] else [.found hit]
        | none => []
      else []
  | char :: rest =>
      match skip with
      | skip + 1 => piecesFrom pattern skip true (some char) rest
      | 0 =>
          match pattern.node.matchAt before (char :: rest) with
          | none => .plain char :: piecesFrom pattern 0 false (some char) rest
          | some hit =>
              match hit.text with
              | [] =>
                  if afterMatch then
                    .plain char :: piecesFrom pattern 0 false (some char) rest
                  else
                    .found hit :: .plain char :: piecesFrom pattern 0 false (some char) rest
              | _ :: more =>
                  .found hit :: piecesFrom pattern more.length true (some char) rest

/-- The text cut into matches and the characters between them. -/
def pieces (pattern : Pattern) (text : Text) : List Piece :=
  piecesFrom pattern 0 false none text

/-- The matches in the text, from left to right. -/
def occurrences (pattern : Pattern) (text : Text) : List Match :=
  (pattern.pieces text).filterMap Piece.match?

/-- The text without its matches. -/
def strip (pattern : Pattern) (text : Text) : Text :=
  (pattern.pieces text).flatMap Piece.remainder

/-- Whether the first match in the text begins where the text begins. -/
def opens (pattern : Pattern) (text : Text) : Bool :=
  (pattern.node.matchAt none text).isSome

end Pattern

end Typeset
