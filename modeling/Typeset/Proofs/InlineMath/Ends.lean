import Typeset.Proofs.InlineMath.NormalForm
import Typeset.Proofs.Text.Trimming

/-!
# The end of a normal form

Normalising and trimming go together.  The normal form of a trimmed text is trimmed, and blanks
around such a text do not change what it becomes: those after it stay, and those before it stay or
go.  So when a text is cut at a character that is neither a blank nor part of an older delimiter,
the normal form of what follows, trimmed, is what the normal form of the whole ends with.
-/

namespace Typeset

open Text (IsTrimmed)

namespace InlineMath

variable {text tail run : Text} {before : Option Char}

theorem slash_not_mem_of_blank (blank : ∀ char ∈ run, isBlank char = true) : '\\' ∉ run := by
  intro member
  cases blank '\\' member

theorem isBracket_of_isBlank {char : Char} (blank : isBlank char = true) :
    isBracket char = false := by
  rw [← Bool.not_eq_true]
  intro known
  rw [isBlank_of_isBracket known] at blank
  cases blank

theorem replaceBrackets_append_blanks (blank : ∀ char ∈ tail, isBlank char = true) (text : Text) :
    replaceBrackets (text ++ tail) = replaceBrackets text ++ tail := by
  have kept : replaceBrackets tail = tail := by
    have whole := replaceBrackets_word [] (slash_not_mem_of_blank blank)
    rwa [List.append_nil, show replaceBrackets [] = [] from rfl, List.append_nil] at whole
  cases tail with
  | nil => rw [List.append_nil, List.append_nil]
  | cons char tail =>
      rw [replaceBrackets_append_cons text tail (isBracket_of_isBlank (blank char (by simp))), kept]

theorem replaceBrackets_ne_nil (some_text : text ≠ []) : replaceBrackets text ≠ [] := by
  cases text using replaceBrackets.fun_cases with
  | case1 => exact some_text
  | case2 last => exact some_text
  | case3 slash second rest pair =>
      rw [replaceBrackets, if_pos pair]
      exact List.cons_ne_nil _ _
  | case4 first second rest alone =>
      rw [replaceBrackets, if_neg alone]
      exact List.cons_ne_nil _ _

theorem head?_replaceBrackets (head : ∀ char ∈ text.head?, isBlank char = false) :
    ∀ char ∈ (replaceBrackets text).head?, isBlank char = false := by
  cases text using replaceBrackets.fun_cases with
  | case1 => exact head
  | case2 last => exact head
  | case3 slash second rest pair =>
      rw [replaceBrackets, if_pos pair]
      rintro char ⟨rfl⟩
      rfl
  | case4 first second rest alone =>
      rw [replaceBrackets, if_neg alone]
      exact head

theorem getLast?_replaceBrackets (last : ∀ char ∈ text.getLast?, isBlank char = false) :
    ∀ char ∈ (replaceBrackets text).getLast?, isBlank char = false := by
  induction text using replaceBrackets.induct with
  | case1 => exact last
  | case2 final => exact last
  | case3 slash second rest pair ih =>
      have later : ∀ char ∈ rest.getLast?, isBlank char = false := by
        intro char ended
        apply last char
        rw [List.getLast?_cons, List.getLast?_cons, Option.mem_def.mp ended]
        rfl
      rw [replaceBrackets, if_pos pair, List.getLast?_cons]
      rintro char ⟨rfl⟩
      cases final : (replaceBrackets rest).getLast? with
      | none => rfl
      | some sign => exact ih later sign final
  | case4 first second rest alone ih =>
      rw [List.getLast?_cons_cons] at last
      rw [replaceBrackets, if_neg alone, List.getLast?_cons]
      rintro char ⟨rfl⟩
      cases final : (replaceBrackets (second :: rest)).getLast? with
      | some sign => exact ih last sign final
      | none =>
          have left := replaceBrackets_ne_nil (List.cons_ne_nil second rest)
          exact absurd (List.getLast?_eq_none_iff.mp final) left

theorem isTrimmed_replaceBrackets (trimmed : text.IsTrimmed) :
    Text.IsTrimmed (replaceBrackets text) where
  ne_nil := replaceBrackets_ne_nil trimmed.ne_nil
  head := head?_replaceBrackets trimmed.head
  last := getLast?_replaceBrackets trimmed.last

/-- What is carried along when a trimmed text is reached goes before it. -/
theorem exists_collapseFrom_append_eq (before : Option Char) (run rest : Text)
    (trimmed : text.IsTrimmed) :
    ∃ kept, collapseFrom before run (text ++ rest) = kept ++ collapse (text ++ rest) := by
  rcases trimmed.exists_eq_cons with ⟨char, more, rfl, solid⟩
  rw [List.cons_append, collapse, collapseFrom_cons none _ solid, collapseFrom, solid]
  exact ⟨_, rfl⟩

/-- Blanks at the end of a text stay. -/
theorem collapse_append_blanks (trimmed : text.IsTrimmed)
    (blank : ∀ char ∈ tail, isBlank char = true) :
    collapse (text ++ tail) = collapse text ++ tail := by
  rcases trimmed.exists_eq_concat with ⟨first, last, rfl, solid⟩
  have waiting := collapseFrom_append_blanks (some last) [] [] blank
  rw [List.append_nil, List.append_nil, collapseFrom, List.reverse_reverse] at waiting
  rw [collapse, List.append_assoc, List.singleton_append, collapseFrom_append_cons _ _ _ _ solid,
    waiting, collapse]

theorem isTrimmed_collapse (trimmed : text.IsTrimmed) : Text.IsTrimmed (collapse text) := by
  rcases trimmed.exists_eq_cons with ⟨first, rest, opened, firstSolid⟩
  rcases trimmed.exists_eq_concat with ⟨more, last, ended, lastSolid⟩
  have opens : collapse text = first :: collapseFrom (some first) [] rest := by
    rw [opened]
    exact collapseFrom_cons none rest firstSolid
  have ends : ∃ kept, collapse text = kept ++ [last] := by
    rw [ended]
    exact exists_collapseFrom_concat none [] more lastSolid
  rcases ends with ⟨kept, ends⟩
  refine ⟨by simp [opens], ?_, ?_⟩
  · rw [opens]
    rintro char ⟨rfl⟩
    exact firstSolid
  · rw [ends, List.getLast?_concat]
    rintro char ⟨rfl⟩
    exact lastSolid

theorem isTrimmed_normalize (trimmed : text.IsTrimmed) : Text.IsTrimmed (normalize text) :=
  isTrimmed_collapse (isTrimmed_replaceBrackets trimmed)

/-- The normal form of a whole text ends with that of its trimmed rest, blanks aside, if the rest is
cut off after a character that is neither a blank nor part of an older delimiter. -/
theorem normalize_trim_suffix {mark : Char} (solid : isBlank mark = false)
    (closed : isBracket mark = false) (plain : mark ≠ '\\') (head text : Text) :
    normalize text.trim <:+ (normalize (head ++ mark :: text)).trimEnd := by
  by_cases left : text.trim = []
  · rw [left]
    exact List.nil_suffix
  rcases Text.exists_blanks_trim text with ⟨lead, tail, split, leadBlank, tailBlank⟩
  have trimmed := isTrimmed_replaceBrackets (Text.isTrimmed_trim left)
  have replaced : replaceBrackets text = lead ++ (replaceBrackets text.trim ++ tail) :=
    calc
      replaceBrackets text = replaceBrackets (lead ++ (text.trim ++ tail)) := congrArg _ split
      _ = lead ++ replaceBrackets (text.trim ++ tail) :=
        replaceBrackets_word _ (slash_not_mem_of_blank leadBlank)
      _ = lead ++ (replaceBrackets text.trim ++ tail) := by
        rw [replaceBrackets_append_blanks tailBlank]
  rcases exists_collapseFrom_append_eq (some mark) (lead.reverse ++ []) tail trimmed with
    ⟨kept, reached⟩
  have whole : normalize (head ++ mark :: text) =
      (collapse (replaceBrackets head ++ [mark]) ++ kept ++ normalize text.trim) ++ tail :=
    calc
      normalize (head ++ mark :: text) =
          collapse (replaceBrackets head ++ mark :: replaceBrackets text) := by
        rw [normalize, replaceBrackets_append_cons head _ closed, replaceBrackets_cons _ plain]
      _ = collapse (replaceBrackets head ++ [mark]) ++
          collapseFrom (some mark) [] (replaceBrackets text) :=
        collapseFrom_append_cons none [] _ _ solid
      _ = collapse (replaceBrackets head ++ [mark]) ++ (kept ++ (normalize text.trim ++ tail)) := by
        rw [replaced, collapseFrom_append_blanks _ _ _ leadBlank, reached,
          collapse_append_blanks trimmed tailBlank, normalize]
      _ = (collapse (replaceBrackets head ++ [mark]) ++ kept ++ normalize text.trim) ++ tail := by
        simp only [List.append_assoc]
  have ended := (isTrimmed_normalize (Text.isTrimmed_trim left)).getLast?_append
  rw [whole, Text.trimEnd_append_blanks (ended _) tailBlank]
  exact List.suffix_append ..

end InlineMath

end Typeset
