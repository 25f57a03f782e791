import Typeset.Proofs.Diagnosis.Attribution
import Typeset.Proofs.InlineMath.Ends
import Typeset.Proofs.LabelPattern.Marker

/-!
# The quoted fragment and the details

A diagnosis quotes the text that the build complains about, and gives the whole error as details.
The two are cut, trimmed and normalised on their own, and yet the details end with the quotation:
the text is cut off after a digit, which is neither a blank nor part of an older delimiter, and a
normal form can be cut there.

Markers are left out of this, because taking one out can join what stands on both sides of it.
-/

namespace Typeset

/-- A digit is neither a bracket nor a backslash. -/
theorem isBracket_of_isDecimalDigit {char : Char} (decimal : isDecimalDigit char = true) :
    InlineMath.isBracket char = false ∧ char ≠ '\\' := by
  constructor
  · rw [← Bool.not_eq_true]
    intro known
    simp only [InlineMath.isBracket, Bool.or_eq_true, beq_iff_eq] at known
    rcases known with ((rfl | rfl) | rfl) | rfl <;> cases decimal
  · rintro rfl
    cases decimal

namespace LineReference

/-- What stands before the text after a reference ends with a digit. -/
theorem IsFirstIn.exists_eq_append_digit {reference : LineReference} {text : Text}
    (first : reference.IsFirstIn text) :
    ∃ head digit, text = head ++ digit :: reference.after ∧ isDecimalDigit digit = true := by
  have last := List.getLast?_eq_some_getLast first.digits_ne_nil
  rcases List.getLast?_eq_some_iff.mp last with ⟨earlier, digits⟩
  refine ⟨reference.before ++ 'l' :: '.' :: earlier, _, ?_,
    first.digits_decimal _ (List.getLast_mem first.digits_ne_nil)⟩
  have joined := congrArg (· ++ reference.after) digits
  simp only [List.append_assoc, List.singleton_append] at joined
  rw [List.append_assoc, List.cons_append, List.cons_append, ← joined]
  exact first.split

end LineReference

namespace Diagnosis

/-- Where no markers are involved, the details of a diagnosis end with the quoted fragment, blanks
at their end aside. -/
theorem exists_diagnostic_quoted {rawError : Text} {reference : LineReference}
    (first : reference.IsFirstIn rawError) (pattern : Pattern)
    (unmarked : pattern.occurrences rawError = [])
    (fragmentUnmarked : pattern.occurrences reference.after.trim = []) (transcript : Text)
    (showDebug : Bool) :
    ∃ diagnostic, diagnose rawError transcript pattern showDebug = .attributed diagnostic ∧
      diagnostic.offendingFragment <:+ diagnostic.detail.trimEnd := by
  rw [diagnose, LineReference.find?_eq_some_iff.mpr first]
  refine ⟨_, rfl, ?_⟩
  rcases first.exists_eq_append_digit with ⟨head, digit, split, decimal⟩
  have plain := isBracket_of_isDecimalDigit decimal
  have ends := InlineMath.normalize_trim_suffix (isBlank_of_isDecimalDigit decimal) plain.1 plain.2
    head reference.after
  rw [← split] at ends
  simp only [cleaned, Pattern.strip_eq_self unmarked, LineReference.fragment,
    Pattern.strip_eq_self fragmentUnmarked]
  exact ends

theorem exists_diagnostic_quoted_math :
    let rawError : Text := "! Missing $.\nl.7  \\( x \\) = $ y \n ".toList
    LabelPattern.standard.occurrences rawError = [] ∧
      ∃ diagnostic, diagnose rawError [] LabelPattern.standard true = .attributed diagnostic ∧
        diagnostic.offendingFragment <:+ diagnostic.detail.trimEnd := by
  intro rawError
  have first : LineReference.IsFirstIn
      ⟨"! Missing $.\n".toList, ['7'], "  \\( x \\) = $ y \n ".toList⟩ rawError :=
    LineReference.isFirstIn_of_find? (by decide +kernel)
  have unmarked : LabelPattern.standard.occurrences rawError = [] := by decide +kernel
  exact ⟨unmarked, exists_diagnostic_quoted first LabelPattern.standard unmarked
    (by decide +kernel) [] true⟩

end Diagnosis

end Typeset
