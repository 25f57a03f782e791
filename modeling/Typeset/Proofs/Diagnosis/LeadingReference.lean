import Typeset.Proofs.Diagnosis.Attribution
import Typeset.Proofs.Pattern.Pieces

/-!
# The reference that counts

An error in which no digit follows `l.` is passed on as it is.  In every other one the leftmost
reference counts, with all the digits that follow it, and what comes after it is the text that the
build complains about.  For a transcript, the section depends on nothing else of the error than the
digits and whether that text opens with a match of the pattern.
-/

namespace Typeset

/-- A text that refers to lines has one leftmost reference. -/
theorem LineReference.exists_isFirstIn {text : Text} (refers : OccursIn text) :
    ∃ reference : LineReference, reference.IsFirstIn text ∧
      ∀ other : LineReference, other.IsFirstIn text → other = reference := by
  cases found : find? text with
  | none => exact absurd refers (find?_eq_none_iff.mp found)
  | some reference =>
      refine ⟨reference, isFirstIn_of_find? found, ?_⟩
      intro other otherFirst
      rw [find?_eq_some_of_isFirstIn otherFirst] at found
      exact Option.some.inj found

namespace Diagnosis

variable {rawError transcript : Text} {pattern : Pattern} {showDebug : Bool}

/-- What a diagnosis says of the text that the build complains about: the fragment is this text
without matches and with its mathematics in normal form, and a trailer quotes it as it is. -/
structure Quotes (diagnostic : Diagnostic) (pattern : Pattern) (complaint : Text) : Prop where
  fragment : diagnostic.offendingFragment = InlineMath.normalize (pattern.strip complaint)
  trailer : ∀ trailer ∈ diagnostic.trailer,
    ". offending fragment: \"".toList ++ complaint ++ "\". index: ".toList <:+: trailer

theorem fragment_infix_trailer (reference : LineReference) (index : LabelIndex)
    (transcript : Text) :
    ". offending fragment: \"".toList ++ reference.fragment ++ "\". index: ".toList <:+:
      trailer reference index transcript := by
  have within (lead opening complaint closing display last rest : Text) :
      opening ++ complaint ++ closing <:+:
        lead ++ opening ++ complaint ++ closing ++ display ++ last ++ rest :=
    ⟨lead, display ++ last ++ rest, by simp only [List.append_assoc]⟩
  unfold trailer
  exact within ..

theorem diagnose_of_not_occursIn (absent : ¬LineReference.OccursIn rawError) :
    diagnose rawError transcript pattern showDebug = .unattributed rawError := by
  rw [diagnose, LineReference.find?_eq_none_iff.mpr absent]

theorem exists_quotes {reference : LineReference} (first : reference.IsFirstIn rawError) :
    ∃ diagnostic, diagnose rawError transcript pattern showDebug = .attributed diagnostic ∧
      Quotes diagnostic pattern reference.after.trim ∧ diagnostic.trailer.isSome = showDebug := by
  rw [diagnose, LineReference.find?_eq_some_iff.mpr first]
  refine ⟨_, rfl, ⟨rfl, ?_⟩, ?_⟩
  · intro shown told
    cases showDebug with
    | false => cases told
    | true =>
        rcases told with ⟨rfl⟩
        exact fragment_infix_trailer reference _ transcript
  · cases showDebug <;> rfl

/-- A section is told by the digits of the reference and by how the text after it begins. -/
theorem sectionLabel?_diagnose_congr {reference other : LineReference} {otherError : Text}
    {otherDebug : Bool} (first : reference.IsFirstIn rawError)
    (otherFirst : other.IsFirstIn otherError) (digits : other.digits = reference.digits)
    (opens : pattern.opens other.fragment = pattern.opens reference.fragment) :
    (diagnose otherError transcript pattern otherDebug).sectionLabel? =
      (diagnose rawError transcript pattern showDebug).sectionLabel? := by
  have line : other.line = reference.line := by
    rw [LineReference.line, LineReference.line, digits]
  rw [sectionLabel?_diagnose first, sectionLabel?_diagnose otherFirst, line, opens]

/-- An error without a reference is passed on as it is, and every other one is attributed by its
leftmost reference and by nothing else. -/
theorem diagnose_by_reference (rawError transcript : Text) (pattern : Pattern)
    (showDebug : Bool) :
    let told := diagnose rawError transcript pattern showDebug
    let opensWithMatch := fun text => ∃ hit, (0, hit) ∈ Pattern.located 0 (pattern.pieces text)
    ((∃ passed, told = .unattributed passed) ↔ ¬LineReference.OccursIn rawError) ∧
      (¬LineReference.OccursIn rawError →
        told.message = "Further information could not be ascertained. ".toList ++ rawError) ∧
      (LineReference.OccursIn rawError →
        ∃ reference : LineReference, ∃ diagnostic, reference.IsFirstIn rawError ∧
          (∀ other : LineReference, other.IsFirstIn rawError → other = reference) ∧
          told = .attributed diagnostic ∧ Quotes diagnostic pattern reference.after.trim ∧
          diagnostic.trailer.isSome = showDebug ∧
          ∀ otherError otherDebug, ∀ other : LineReference, other.IsFirstIn otherError →
            other.digits = reference.digits →
            (opensWithMatch other.after.trim ↔ opensWithMatch reference.after.trim) →
            (diagnose otherError transcript pattern otherDebug).sectionLabel? =
              some diagnostic.sectionLabel) := by
  intro told opensWithMatch
  refine ⟨⟨?_, ?_⟩, ?_, ?_⟩
  · rintro ⟨passed, unattributed⟩ refers
    rcases LineReference.exists_isFirstIn refers with ⟨reference, first, _⟩
    rcases exists_quotes first with ⟨diagnostic, attributed, _⟩
    rw [show told = .attributed diagnostic from attributed] at unattributed
    cases unattributed
  · intro absent
    exact ⟨rawError, diagnose_of_not_occursIn absent⟩
  · intro absent
    have passed : told = .unattributed rawError := diagnose_of_not_occursIn absent
    rw [passed]
    rfl
  · intro refers
    rcases LineReference.exists_isFirstIn refers with ⟨reference, first, only⟩
    rcases exists_quotes first with ⟨diagnostic, attributed, quotes, shown⟩
    refine ⟨reference, diagnostic, first, only, attributed, quotes, shown, ?_⟩
    intro otherError otherDebug other otherFirst digits opens
    have opens : pattern.opens other.fragment = pattern.opens reference.fragment := by
      rw [Bool.eq_iff_iff, Pattern.opens_iff_exists_located, Pattern.opens_iff_exists_located]
      exact opens
    have label : told.sectionLabel? = some diagnostic.sectionLabel :=
      congrArg sectionLabel? attributed
    rw [← label]
    exact sectionLabel?_diagnose_congr first otherFirst digits opens

end Diagnosis

end Typeset
