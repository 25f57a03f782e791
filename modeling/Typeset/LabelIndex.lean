import Typeset.LabelPattern
import Typeset.Text.Line

/-!
# Label indexes

Where the sections of a transcript begin: one entry per marker, with the line that the marker
begins on and its label.  An entry before the first and one after the last stand for the ends of
the transcript, so a search for a line always meets an edge.
-/

namespace Typeset

/-- A line of a transcript, counted from 1, and the label of the section that begins there. -/
structure LabelEntry where
  line : Nat
  label : Text
  deriving DecidableEq, Repr

/-- The sections of a transcript, in the order of their markers. -/
structure LabelIndex where
  entries : List LabelEntry
  deriving DecidableEq, Repr

namespace LabelIndex

/-- The label of the entry before the first marker. -/
def startLabel : Text := "start".toList

/-- The label of the entry after the last marker. -/
def endLabel : Text := "end".toList

/-- The label for a place that belongs to no section. -/
def unidentifiedLabel : Text := "Location not identified".toList

/-- The label that a match of a label pattern captures; none if its group took no part. -/
def labelOf (hit : Pattern.Match) : Text :=
  (hit.capture? 1).getD []

/-- The entries for the matches among the pieces of a text that begins on a line. -/
def entriesFrom (line : Nat) (text : Text) : List Pattern.Piece → List LabelEntry
  | [] => []
  | piece :: pieces =>
      let rest := text.drop piece.text.length
      let later := entriesFrom (line + Text.lineBreaks rest.head? piece.text) rest pieces
      match piece with
      | .plain _ => later
      | .found hit => ⟨line, labelOf hit⟩ :: later

/-- The index of a transcript. -/
def build (transcript : Text) (pattern : Pattern) : LabelIndex where
  entries :=
    ⟨1, startLabel⟩ :: entriesFrom 1 transcript (pattern.pieces transcript) ++
      [⟨transcript.lineCount, endLabel⟩]

/-- The number of entries. -/
def size (index : LabelIndex) : Nat :=
  index.entries.length

/-- Whether there are no entries. -/
def isEmpty (index : LabelIndex) : Bool :=
  index.entries.isEmpty

/-- The entry at a position. -/
def get? (index : LabelIndex) (position : Nat) : Option LabelEntry :=
  index.entries[position]?

/-- The line of the last entry. -/
def lastLine (index : LabelIndex) : Nat :=
  (index.entries.getLast?.map LabelEntry.line).getD 1

/-- The position of the first entry on or after a line. -/
def firstAtOrAfter? (index : LabelIndex) (line : Nat) : Option Nat :=
  index.entries.findIdx? (line ≤ ·.line)

/-- The index with an entry for a place that belongs to no section, on a line after the last. -/
def pushUnidentified (index : LabelIndex) : LabelIndex where
  entries := index.entries ++ [⟨index.lastLine + 1, unidentifiedLabel⟩]

/-- The index in one line: lines and labels in turn. -/
def display (index : LabelIndex) : Text :=
  Text.joined [',']
    (index.entries.map fun entry => Text.ofNat entry.line ++ [','] ++ entry.label)

end LabelIndex

end Typeset
