import Typeset.Text.Basic

/-!
# Lines

A line break is LF, or CR that no LF follows; so CRLF, CR and LF each count once, and a CRLF
counts at its LF.  Whether the last character of a stretch of text is a break can depend on what
follows the stretch, so the count takes the character after it.
-/

namespace Typeset

/-- Whether a character ends a line, given the one that follows it. -/
def isLineBreak (char : Char) (next : Option Char) : Bool :=
  char == '\n' || (char == '\r' && next != some '\n')

namespace Text

/-- The number of line breaks in a stretch of text that `next` follows. -/
def lineBreaks (next : Option Char) : Text → Nat
  | [] => 0
  | char :: rest =>
      (isLineBreak char (rest.head?.or next)).toNat + lineBreaks next rest

/-- The number of lines of a whole text; the empty text is one line. -/
def lineCount (text : Text) : Nat :=
  lineBreaks none text + 1

@[simp]
theorem lineBreaks_nil (next : Option Char) : lineBreaks next [] = 0 := rfl

/-- The breaks of two stretches add up when the first is told what the second begins with. -/
theorem lineBreaks_append (next : Option Char) (first second : Text) :
    lineBreaks next (first ++ second) =
      lineBreaks (second.head?.or next) first + lineBreaks next second := by
  induction first with
  | nil => simp
  | cons char rest ih =>
      rw [List.cons_append, lineBreaks, lineBreaks, ih, List.head?_append, Option.or_assoc,
        Nat.add_assoc]

end Text

end Typeset
