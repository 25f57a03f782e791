import Typeset.InlineMath
import Typeset.Proofs.Text.Splitting

/-!
# Where a normal form can be cut

The normal form of a text is found locally: a bracket is known by the character before it, and a
run of blanks is judged by the two characters around it.  So a text can be cut at a character that
is no blank, and what becomes of one side does not depend on the other.

Nothing but dollars is put in, and nothing but blanks and brackets is taken out.  A stretch of the
normal form that holds neither blanks nor dollars is therefore a stretch of the text.
-/

namespace Typeset

namespace InlineMath

/-- Whether a character is neither a blank nor a delimiter. -/
def IsSolid (char : Char) : Prop :=
  isBlank char = false ∧ char ≠ delimiter

section Brackets

variable {text first rest word : Text} {char : Char}

theorem replaceBrackets_append_cons (first rest : Text) (other : isBracket char = false) :
    replaceBrackets (first ++ char :: rest) =
      replaceBrackets first ++ replaceBrackets (char :: rest) := by
  induction first using replaceBrackets.induct with
  | case1 => rfl
  | case2 last => simp [replaceBrackets, other]
  | case3 first second more pair ih => simp [replaceBrackets, pair, ih]
  | case4 first second more alone ih =>
      simp only [List.cons_append] at ih ⊢
      rw [replaceBrackets, if_neg alone, ih, replaceBrackets, if_neg alone, List.cons_append]

theorem replaceBrackets_cons (rest : Text) (other : char ≠ '\\') :
    replaceBrackets (char :: rest) = char :: replaceBrackets rest := by
  cases rest with
  | nil => rfl
  | cons next rest => simp [replaceBrackets, other]

theorem exists_of_replaceBrackets_eq_append (shape : replaceBrackets text = first ++ rest) :
    ∃ before after, text = before ++ after ∧ replaceBrackets before = first ∧
      replaceBrackets after = rest := by
  induction text using replaceBrackets.induct generalizing first with
  | case1 =>
      rcases List.append_eq_nil_iff.mp shape.symm with ⟨rfl, rfl⟩
      exact ⟨[], [], rfl, rfl, rfl⟩
  | case2 last =>
      cases first with
      | nil => exact ⟨[], [last], rfl, rfl, shape⟩
      | cons char first =>
          injection shape with same ended
          rcases List.append_eq_nil_iff.mp ended.symm with ⟨rfl, rfl⟩
          exact ⟨[last], [], rfl, congrArg (fun char => [char]) same, rfl⟩
  | case3 slash second more pair ih =>
      cases first with
      | nil => exact ⟨[], slash :: second :: more, rfl, rfl, shape⟩
      | cons char first =>
          rw [replaceBrackets, if_pos pair] at shape
          injection shape with same shape
          rcases ih shape with ⟨before, after, rfl, head, tail⟩
          refine ⟨slash :: second :: before, after, rfl, ?_, tail⟩
          rw [replaceBrackets, if_pos pair, head, same]
  | case4 next second more alone ih =>
      cases first with
      | nil => exact ⟨[], next :: second :: more, rfl, rfl, shape⟩
      | cons char first =>
          rw [replaceBrackets, if_neg alone] at shape
          injection shape with same shape
          rcases ih shape with ⟨before, after, split, head, tail⟩
          refine ⟨next :: before, after, congrArg (next :: ·) split, ?_, tail⟩
          cases before with
          | nil => rw [← head, ← same]; rfl
          | cons other before =>
              injection split with split
              rw [replaceBrackets, ← split, if_neg alone, ← same, split, head]

theorem exists_of_replaceBrackets_eq_cons (kept : char ≠ delimiter)
    (shape : replaceBrackets text = char :: rest) :
    ∃ after, text = char :: after ∧ replaceBrackets after = rest := by
  cases text using replaceBrackets.fun_cases with
  | case1 => cases shape
  | case2 last =>
      cases shape
      exact ⟨[], rfl, rfl⟩
  | case3 first second more pair =>
      rw [replaceBrackets, if_pos pair] at shape
      cases shape
      exact absurd rfl kept
  | case4 first second more alone =>
      rw [replaceBrackets, if_neg alone] at shape
      cases shape
      exact ⟨second :: more, rfl, rfl⟩

/-- A stretch without dollars has not been replaced. -/
theorem exists_of_replaceBrackets_eq_word (kept : delimiter ∉ word)
    (shape : replaceBrackets text = word ++ rest) :
    ∃ after, text = word ++ after ∧ replaceBrackets after = rest := by
  induction word generalizing text with
  | nil => exact ⟨text, rfl, shape⟩
  | cons char word ih =>
      rw [List.mem_cons, not_or] at kept
      rcases exists_of_replaceBrackets_eq_cons (Ne.symm kept.1) shape with ⟨more, rfl, later⟩
      rcases ih kept.2 later with ⟨after, rfl, tail⟩
      exact ⟨after, rfl, tail⟩

theorem replaceBrackets_word (rest : Text) (plain : '\\' ∉ word) :
    replaceBrackets (word ++ rest) = word ++ replaceBrackets rest := by
  induction word with
  | nil => rfl
  | cons char word ih =>
      rw [List.mem_cons, not_or] at plain
      rw [List.cons_append, replaceBrackets_cons _ (Ne.symm plain.1), ih plain.2, List.cons_append]

theorem count_replaceBrackets (text : Text) (plain : char ≠ '\\') (kept : char ≠ delimiter)
    (other : isBracket char = false) :
    (replaceBrackets text).count char = text.count char := by
  induction text using replaceBrackets.induct with
  | case1 => rfl
  | case2 last => rfl
  | case3 slash second more pair ih =>
      rw [replaceBrackets, if_pos pair]
      rw [Bool.and_eq_true, decide_eq_true_eq] at pair
      rcases pair with ⟨rfl, bracket⟩
      have absent : second ≠ char := by
        rintro rfl
        rw [other] at bracket
        cases bracket
      rw [List.count_cons_of_ne kept.symm, ih, List.count_cons_of_ne plain.symm,
        List.count_cons_of_ne absent]
  | case4 next second more alone ih =>
      rw [replaceBrackets, if_neg alone, List.count_cons, ih, ← List.count_cons]

end Brackets

section Blanks

variable {text first rest word run : Text} {before : Option Char} {char : Char}

/-- Where a run of blanks ends is told by the text. -/
theorem blanks_append_cons_inj {other more : Text} {next : Char}
    (firstBlank : ∀ char ∈ first, isBlank char = true)
    (otherBlank : ∀ char ∈ other, isBlank char = true) (solid : isBlank char = false)
    (nextSolid : isBlank next = false) (same : first ++ char :: rest = other ++ next :: more) :
    first = other ∧ char = next ∧ rest = more := by
  have taken := congrArg (List.takeWhile isBlank) same
  rw [List.takeWhile_append_of_pos firstBlank, List.takeWhile_append_of_pos otherBlank,
    List.takeWhile_cons_of_neg (by simp [solid]), List.takeWhile_cons_of_neg (by simp [nextSolid]),
    List.append_nil, List.append_nil] at taken
  subst taken
  simpa using same

theorem collapseFrom_append_cons (before : Option Char) (run first rest : Text)
    (solid : isBlank char = false) :
    collapseFrom before run (first ++ char :: rest) =
      collapseFrom before run (first ++ [char]) ++ collapseFrom (some char) [] rest := by
  induction first generalizing before run with
  | nil => simp [collapseFrom, solid]
  | cons next first ih =>
      rw [List.cons_append, List.cons_append, collapseFrom, collapseFrom]
      cases isBlank next with
      | true => exact ih before (next :: run)
      | false =>
          have later := ih (some next) []
          simp [later]

theorem collapseFrom_cons (before : Option Char) (rest : Text) (solid : isBlank char = false) :
    collapseFrom before [] (char :: rest) = char :: collapseFrom (some char) [] rest := by
  simp [collapseFrom, solid]

/-- Blanks wait for what follows them. -/
theorem collapseFrom_append_blanks (before : Option Char) (run rest : Text)
    (blank : ∀ char ∈ first, isBlank char = true) :
    collapseFrom before run (first ++ rest) = collapseFrom before (first.reverse ++ run) rest := by
  induction first generalizing run with
  | nil => rfl
  | cons char first ih =>
      rw [List.forall_mem_cons] at blank
      rw [List.cons_append, collapseFrom, blank.1, if_pos rfl, ih _ blank.2]
      simp

/-- A stretch without blanks is kept as it is. -/
theorem collapseFrom_word (char : Char) (word rest : Text)
    (solid : ∀ char ∈ word, isBlank char = false) :
    collapseFrom (some char) [] (word ++ rest) =
      word ++ collapseFrom (some (word.getLast?.getD char)) [] rest := by
  induction word generalizing char with
  | nil => rfl
  | cons next word ih =>
      rw [List.forall_mem_cons] at solid
      rw [List.cons_append, collapseFrom_cons _ _ solid.1, ih next solid.2, List.getLast?_cons]
      rfl

theorem exists_collapseFrom_concat (before : Option Char) (run first : Text)
    (solid : isBlank char = false) :
    ∃ kept, collapseFrom before run (first ++ [char]) = kept ++ [char] := by
  induction first generalizing before run with
  | nil =>
      rw [List.nil_append, collapseFrom, solid]
      exact ⟨_, rfl⟩
  | cons next first ih =>
      rw [List.cons_append, collapseFrom]
      cases isBlank next with
      | true => exact ih before (next :: run)
      | false =>
          rcases ih (some next) [] with ⟨kept, split⟩
          refine ⟨(if isRemovable before next then [] else run.reverse) ++ next :: kept, ?_⟩
          simp [split]

theorem not_mem_kept (removed : Bool) (blank : ∀ char ∈ run, isBlank char = true)
    (solid : isBlank char = false) : char ∉ if removed then [] else run.reverse := by
  intro inside
  cases removed with
  | true => cases inside
  | false =>
      rw [blank char (List.mem_reverse.mp inside)] at solid
      cases solid

/-- Nothing but blanks is taken out. -/
theorem count_collapseFrom (before : Option Char) (text : Text) (solid : isBlank char = false)
    (blank : ∀ char ∈ run, isBlank char = true) :
    (collapseFrom before run text).count char = text.count char := by
  induction text generalizing before run with
  | nil => exact List.count_eq_zero.mpr (not_mem_kept false blank solid)
  | cons next text ih =>
      rw [collapseFrom]
      cases passed : isBlank next with
      | true =>
          have other : next ≠ char := by
            rintro rfl
            rw [passed] at solid
            cases solid
          rw [List.count_cons_of_ne other]
          exact ih before (List.forall_mem_cons.mpr ⟨passed, blank⟩)
      | false =>
          have absent := List.count_eq_zero.mpr
            (not_mem_kept (isRemovable before next) blank solid)
          have later := ih (some next) (List.forall_mem_nil _)
          simp only [Bool.false_eq_true, if_false, List.count_append, absent, List.count_cons,
            later, Nat.zero_add]

/-- Every solid character of a normal form comes from a place in the text.  The blanks in `run` have
been passed already and are no such places: of them only blanks are put out. -/
theorem exists_of_collapseFrom_eq_append (blank : ∀ char ∈ run, isBlank char = true)
    (solid : isBlank char = false)
    (shape : collapseFrom before run text = first ++ char :: rest) :
    ∃ ahead after, text = ahead ++ char :: after ∧
      collapseFrom before run (ahead ++ [char]) = first ++ [char] ∧
      collapseFrom (some char) [] after = rest := by
  induction text generalizing before run first with
  | nil =>
      have absent := not_mem_kept false blank solid
      rw [show (if false then [] else run.reverse) = first ++ char :: rest from shape] at absent
      simp at absent
  | cons next text ih =>
      rw [collapseFrom] at shape
      cases passed : isBlank next with
      | true =>
          rw [passed] at shape
          have blanks : ∀ char ∈ next :: run, isBlank char = true :=
            List.forall_mem_cons.mpr ⟨passed, blank⟩
          rcases ih blanks shape with ⟨ahead, after, rfl, head, tail⟩
          refine ⟨next :: ahead, after, rfl, ?_, tail⟩
          rw [List.cons_append, collapseFrom, passed]
          exact head
      | false =>
          rw [passed] at shape
          rcases Text.exists_of_append_eq_append_cons
            (not_mem_kept (isRemovable before next) blank solid) shape with ⟨more, rfl, later⟩
          cases more with
          | nil =>
              injection later with same tail
              subst same
              refine ⟨[], text, rfl, ?_, tail⟩
              rw [List.nil_append, collapseFrom, passed, List.append_nil]
              rfl
          | cons other more =>
              injection later with same later
              rcases ih (List.forall_mem_nil _) later with ⟨ahead, after, rfl, head, tail⟩
              refine ⟨next :: ahead, after, rfl, ?_, tail⟩
              rw [List.cons_append, collapseFrom, passed, head, ← same, List.append_assoc]
              rfl

/-- A run between two characters that are no dollars is kept, so nothing can stand between two
characters that a normal form brings together. -/
theorem eq_nil_of_collapseFrom_eq_singleton {last : Char} {ahead : Text}
    (plain : last ≠ delimiter) (solid : IsSolid char)
    (shape : collapseFrom (some last) run (ahead ++ [char]) = [char]) :
    run = [] ∧ ahead = [] := by
  induction ahead generalizing run with
  | nil =>
      have kept : isRemovable (some last) char = false := by
        simp [isRemovable, plain, solid.2]
      rw [List.nil_append, collapseFrom, solid.1, kept] at shape
      simpa [collapseFrom] using shape
  | cons next ahead ih =>
      rw [List.cons_append, collapseFrom] at shape
      cases passed : isBlank next with
      | true =>
          rw [passed] at shape
          cases (ih shape).1
      | false =>
          rcases exists_collapseFrom_concat (some next) [] ahead solid.1 with ⟨kept, split⟩
          have longer := congrArg List.length shape
          simp only [passed, split, Bool.false_eq_true, if_false, List.length_append,
            List.length_cons, List.length_nil] at longer
          omega

theorem exists_of_collapseFrom_eq_cons {last : Char} (plain : last ≠ delimiter)
    (solid : IsSolid char) (shape : collapseFrom (some last) [] text = char :: rest) :
    ∃ after, text = char :: after ∧ collapseFrom (some char) [] after = rest := by
  rcases exists_of_collapseFrom_eq_append (List.forall_mem_nil _) solid.1
    (show _ = [] ++ char :: rest from shape) with ⟨ahead, after, rfl, head, tail⟩
  cases (eq_nil_of_collapseFrom_eq_singleton plain solid head).2
  exact ⟨after, rfl, tail⟩

/-- After a solid character, a solid stretch comes from the same stretch of the text. -/
theorem exists_of_collapseFrom_eq_word {last : Char} (plain : last ≠ delimiter)
    (solid : ∀ char ∈ word, IsSolid char)
    (shape : collapseFrom (some last) [] text = word ++ rest) :
    ∃ after, text = word ++ after ∧
      collapseFrom (some (word.getLast?.getD last)) [] after = rest := by
  induction word generalizing last text with
  | nil => exact ⟨text, rfl, shape⟩
  | cons char word ih =>
      rw [List.forall_mem_cons] at solid
      rcases exists_of_collapseFrom_eq_cons plain solid.1 shape with ⟨more, rfl, later⟩
      rcases ih solid.1.2 solid.2 later with ⟨after, rfl, tail⟩
      refine ⟨after, rfl, ?_⟩
      rw [List.getLast?_cons]
      exact tail

end Blanks

end InlineMath

end Typeset
