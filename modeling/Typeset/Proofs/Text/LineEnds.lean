import Typeset.Text.Line

/-!
# Ends of lines

A text whose lines end with LF can be written with CRLF instead.  That lengthens the text by one
character per line, but no line break is won or lost: a CR before an LF does not count.

A stretch of the longer text that holds no LF and does not stop inside a CRLF stands in the text as
it is, at its own place.
-/

namespace Typeset

namespace Text

/-- The text with CRLF for every LF. -/
def withCrlf (text : Text) : Text :=
  text.flatMap fun char => if char = '\n' then ['\r', '\n'] else [char]

variable {text rest first : Text} {char : Char}

@[simp]
theorem withCrlf_nil : withCrlf [] = [] := rfl

@[simp]
theorem withCrlf_lineFeed (rest : Text) :
    withCrlf ('\n' :: rest) = '\r' :: '\n' :: withCrlf rest := rfl

theorem withCrlf_cons (unbroken : char ≠ '\n') (rest : Text) :
    withCrlf (char :: rest) = char :: withCrlf rest := by
  simp [withCrlf, unbroken]

theorem withCrlf_append (unbroken : '\n' ∉ first) (rest : Text) :
    withCrlf (first ++ rest) = first ++ withCrlf rest := by
  induction first with
  | nil => rfl
  | cons char first ih =>
      rw [List.mem_cons, not_or] at unbroken
      rw [List.cons_append, withCrlf_cons (Ne.symm unbroken.1), ih unbroken.2, List.cons_append]

/-- What stands in the longer text before a character that is part of no line end stands in the
text. -/
theorem exists_of_withCrlf_eq_append_cons (unbroken : '\n' ∉ first) (other : char ≠ '\r')
    (last : char ≠ '\n') (shape : withCrlf text = first ++ char :: rest) :
    ∃ after, text = first ++ char :: after ∧ withCrlf after = rest := by
  induction first generalizing text with
  | nil =>
      cases text with
      | nil => cases shape
      | cons head text =>
          by_cases broken : head = '\n'
          · rw [broken, withCrlf_lineFeed] at shape
            injection shape with returned
            exact absurd returned.symm other
          · rw [withCrlf_cons broken] at shape
            injection shape with same tail
            exact ⟨text, congrArg (· :: text) same, tail⟩
  | cons next first ih =>
      rw [List.mem_cons, not_or] at unbroken
      cases text with
      | nil => cases shape
      | cons head text =>
          by_cases broken : head = '\n'
          · rw [broken, withCrlf_lineFeed] at shape
            injection shape with _ shape
            cases first with
            | nil =>
                injection shape with same
                exact absurd same.symm last
            | cons second first =>
                injection shape with same
                exact absurd (same ▸ List.mem_cons_self ..) unbroken.2
          · rw [withCrlf_cons broken] at shape
            injection shape with same shape
            rcases ih unbroken.2 shape with ⟨after, rfl, tail⟩
            exact ⟨after, congrArg (· :: _) same, tail⟩

theorem isLineBreak_of_ne (next : Option Char) (unbroken : char ≠ '\n') (plain : char ≠ '\r') :
    isLineBreak char next = false := by
  simp [isLineBreak, unbroken, plain]

/-- A stretch without CR and LF stays on its line. -/
theorem lineBreaks_of_not_mem (next : Option Char) (unbroken : '\n' ∉ text) (plain : '\r' ∉ text) :
    lineBreaks next text = 0 := by
  induction text with
  | nil => rfl
  | cons char rest ih =>
      rw [List.mem_cons, not_or] at unbroken plain
      rw [lineBreaks, isLineBreak_of_ne _ (Ne.symm unbroken.1) (Ne.symm plain.1),
        ih unbroken.2 plain.2]
      rfl

/-- A text has as many line breaks with CRLF as with LF. -/
theorem lineBreaks_withCrlf (next : Option Char) (plain : '\r' ∉ text) :
    lineBreaks next text.withCrlf = lineBreaks next text := by
  induction text with
  | nil => rfl
  | cons char rest ih =>
      rw [List.mem_cons, not_or] at plain
      by_cases broken : char = '\n'
      · rw [broken, withCrlf_lineFeed, lineBreaks, lineBreaks, lineBreaks, ih plain.2]
        simp [isLineBreak]
      · have other := Ne.symm plain.1
        rw [withCrlf_cons broken, lineBreaks, lineBreaks, ih plain.2,
          isLineBreak_of_ne _ broken other, isLineBreak_of_ne _ broken other]

theorem lineCount_withCrlf (plain : '\r' ∉ text) : text.withCrlf.lineCount = text.lineCount :=
  congrArg (· + 1) (lineBreaks_withCrlf none plain)

end Text

end Typeset
