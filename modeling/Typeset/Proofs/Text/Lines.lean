import Typeset.Text.Line

/-!
# Lines of places

The line of a place in a text is counted over the places before it, each of which either is a line
break of the whole text or is not. This is the declarative side of `Text.lineBreaks`, which counts
stretch by stretch and has to be told what follows a stretch.

A place is on a later line than another only if it comes later, and the last place is on the last
line.
-/

namespace Typeset

namespace Text

/-- Whether a line ends with the character at a place of a text. -/
def isBreakAt (text : Text) (place : Nat) : Bool :=
  text[place]?.any fun char => isLineBreak char text[place + 1]?

/-- The line on which a place of a text stands: one more than the line breaks before it. -/
def lineAt (text : Text) (place : Nat) : Nat :=
  (List.range place).countP text.isBreakAt + 1

@[simp]
theorem lineAt_zero (text : Text) : text.lineAt 0 = 1 := rfl

theorem isBreakAt_cons_succ (char : Char) (text : Text) (place : Nat) :
    isBreakAt (char :: text) (place + 1) = isBreakAt text place := by
  simp [isBreakAt]

theorem isBreakAt_cons_zero (char : Char) (text : Text) :
    isBreakAt (char :: text) 0 = isLineBreak char text.head? := by
  simp [isBreakAt, List.head?_eq_getElem?]

theorem lineAt_cons_succ (char : Char) (text : Text) (place : Nat) :
    lineAt (char :: text) (place + 1) =
      (isLineBreak char text.head?).toNat + text.lineAt place := by
  have shifted : isBreakAt (char :: text) ∘ Nat.succ = isBreakAt text := by
    funext place
    exact isBreakAt_cons_succ char text place
  simp only [lineAt, List.range_succ_eq_map, List.countP_cons, List.countP_map, shifted,
    isBreakAt_cons_zero]
  cases isLineBreak char text.head? with
  | false => simp
  | true =>
      simp
      omega

/-- The line after a stretch of a text is told by the breaks of the stretch. -/
theorem lineAt_append (first second : Text) :
    lineAt (first ++ second) first.length = lineBreaks second.head? first + 1 := by
  induction first with
  | nil => simp
  | cons char rest ih =>
      rw [List.cons_append, List.length_cons, lineAt_cons_succ, ih, lineBreaks, List.head?_append]
      omega

theorem lineAt_length (text : Text) : text.lineAt text.length = text.lineCount := by
  simpa [lineCount] using lineAt_append text []

/-- Along a stretch of a text, the line grows by the breaks of the stretch. -/
theorem lineAt_append_append (before stretch after : Text) :
    lineAt (before ++ (stretch ++ after)) (before.length + stretch.length) =
      lineAt (before ++ (stretch ++ after)) before.length + lineBreaks after.head? stretch := by
  have whole := lineAt_append (before ++ stretch) after
  rw [List.append_assoc, List.length_append] at whole
  rw [whole, lineAt_append, lineBreaks_append, List.head?_append]
  omega

/-- A place is on no earlier line than the places before it. -/
theorem lineAt_le_lineAt (text : Text) {place later : Nat} (ordered : place ≤ later) :
    text.lineAt place ≤ text.lineAt later := by
  have counted := (List.range_sublist.mpr ordered).countP_le (p := text.isBreakAt)
  simp only [lineAt]
  omega

theorem lineAt_le_lineCount (text : Text) {place : Nat} (within : place ≤ text.length) :
    text.lineAt place ≤ text.lineCount := by
  rw [← lineAt_length]
  exact lineAt_le_lineAt text within

theorem one_le_lineAt (text : Text) (place : Nat) : 1 ≤ text.lineAt place := by
  simp [lineAt]

end Text

end Typeset
