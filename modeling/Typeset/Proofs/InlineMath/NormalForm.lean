import Typeset.Proofs.InlineMath.Cuts

/-!
# The normal form of inline mathematics

A text is in normal form if no older delimiter is written in it and every dollar stands next to its
neighbours, blanks at the ends of the text aside.  Normalising gives a text in normal form and
leaves such a text alone, so it is done once and for all.

Taking out blanks cannot bring back an older delimiter.  Two characters that come together have a
dollar among them, and a dollar is part of no older delimiter; so what is written without a dollar
after the blanks are gone was written before.  Nor can it leave new blanks to take out, because the
character before a run that stays is the one that stood before it in the text.
-/

namespace Typeset

namespace InlineMath

/-- The delimiters of mathematics that normalising replaces by dollars. -/
def olderDelimiters : List Text :=
  ["\\[".toList, "\\]".toList, "\\(".toList, "\\)".toList]

/-- A run of blanks with the characters around it, of which at least one is a dollar. -/
def IsLoose (stretch : Text) : Prop :=
  ∃ left run right, stretch = left :: (run ++ [right]) ∧ run ≠ [] ∧
    (∀ char ∈ run, isBlank char = true) ∧ isBlank left = false ∧ isBlank right = false ∧
      (left = delimiter ∨ right = delimiter)

/-- A text with neither older delimiters nor blanks beside a dollar. -/
structure IsNormal (text : Text) : Prop where
  current : ∀ older ∈ olderDelimiters, ¬older <:+: text
  tight : ∀ stretch, IsLoose stretch → ¬stretch <:+: text

variable {text first rest run : Text} {before : Option Char} {char bracket : Char}

theorem mem_olderDelimiters_iff {older : Text} :
    older ∈ olderDelimiters ↔ ∃ bracket, isBracket bracket = true ∧ older = ['\\', bracket] := by
  have listed : olderDelimiters = [['\\', '['], ['\\', ']'], ['\\', '('], ['\\', ')']] := by decide
  rw [listed]
  constructor
  · intro member
    simp only [List.mem_cons, List.not_mem_nil, or_false] at member
    rcases member with rfl | rfl | rfl | rfl
    · exact ⟨'[', rfl, rfl⟩
    · exact ⟨']', rfl, rfl⟩
    · exact ⟨'(', rfl, rfl⟩
    · exact ⟨')', rfl, rfl⟩
  · rintro ⟨bracket, isBracket, rfl⟩
    simp only [InlineMath.isBracket, Bool.or_eq_true, beq_iff_eq] at isBracket
    rcases isBracket with ((rfl | rfl) | rfl) | rfl <;> simp

theorem ne_delimiter_of_isBracket (isBracket : isBracket bracket = true) :
    bracket ≠ delimiter := by
  rintro rfl
  cases isBracket

theorem isBlank_of_isBracket (isBracket : isBracket bracket = true) : isBlank bracket = false := by
  simp only [InlineMath.isBracket, Bool.or_eq_true, beq_iff_eq] at isBracket
  rcases isBracket with ((rfl | rfl) | rfl) | rfl <;> rfl

/-- No older delimiter is left when they have been replaced. -/
theorem not_infix_replaceBrackets {older : Text} (member : older ∈ olderDelimiters) :
    ¬older <:+: replaceBrackets text := by
  rcases mem_olderDelimiters_iff.mp member with ⟨bracket, isBracket, rfl⟩
  rintro ⟨first, rest, shape⟩
  rw [List.append_assoc] at shape
  rcases exists_of_replaceBrackets_eq_append shape.symm with ⟨_, after, _, _, slash⟩
  rcases exists_of_replaceBrackets_eq_cons (by decide) slash with ⟨after, rfl, opened⟩
  rcases exists_of_replaceBrackets_eq_cons (ne_delimiter_of_isBracket isBracket) opened with
    ⟨after, rfl, _⟩
  rw [replaceBrackets, if_pos (by simp [isBracket])] at slash
  cases slash

/-- An older delimiter that is there when blanks have been taken out was there before. -/
theorem infix_of_infix_collapse {older : Text} (member : older ∈ olderDelimiters)
    (held : older <:+: collapse text) : older <:+: text := by
  rcases mem_olderDelimiters_iff.mp member with ⟨bracket, isBracket, rfl⟩
  rcases held with ⟨first, rest, shape⟩
  rw [List.append_assoc] at shape
  have solid : IsSolid bracket :=
    ⟨isBlank_of_isBracket isBracket, ne_delimiter_of_isBracket isBracket⟩
  rcases exists_of_collapseFrom_eq_append (List.forall_mem_nil _) rfl shape.symm with
    ⟨ahead, after, rfl, _, opened⟩
  rcases exists_of_collapseFrom_eq_cons (by decide) solid opened with ⟨after, rfl, _⟩
  exact ⟨ahead, after, by simp⟩

/-- A run of blanks that is left between two characters is not beside a dollar. -/
theorem isRemovable_eq_false_of_collapseFrom_eq {passed : Text} {left right : Char}
    (passedBlank : ∀ char ∈ passed, isBlank char = true) (some_run : run ≠ [])
    (runBlank : ∀ char ∈ run, isBlank char = true) (solid : isBlank right = false)
    (shape : collapseFrom (some left) passed text = run ++ right :: rest) :
    isRemovable (some left) right = false := by
  induction text generalizing passed with
  | nil =>
      have inside : right ∈ passed.reverse := by
        rw [show passed.reverse = run ++ right :: rest from shape]
        simp
      have blank := passedBlank right (List.mem_reverse.mp inside)
      rw [solid] at blank
      cases blank
  | cons next text ih =>
      rw [collapseFrom] at shape
      cases blank : isBlank next with
      | true =>
          rw [blank] at shape
          exact ih (List.forall_mem_cons.mpr ⟨blank, passedBlank⟩) shape
      | false =>
          simp only [blank, Bool.false_eq_true, if_false] at shape
          cases removable : isRemovable (some left) next with
          | true =>
              rcases List.exists_cons_of_ne_nil some_run with ⟨start, more, rfl⟩
              simp only [removable, if_true, List.nil_append, List.cons_append,
                List.cons.injEq] at shape
              rw [shape.1, runBlank start (by simp)] at blank
              cases blank
          | false =>
              simp only [removable, Bool.false_eq_true, if_false] at shape
              have reversed : ∀ char ∈ passed.reverse, isBlank char = true := by
                intro char member
                exact passedBlank char (List.mem_reverse.mp member)
              rcases blanks_append_cons_inj reversed runBlank blank solid shape with ⟨_, rfl, _⟩
              exact removable

theorem not_infix_collapse {stretch : Text} (loose : IsLoose stretch) :
    ¬stretch <:+: collapse text := by
  rintro ⟨first, rest, shape⟩
  rcases loose with ⟨left, run, right, rfl, some_run, blank, solidLeft, solidRight, hugs⟩
  have split : collapse text = first ++ left :: (run ++ right :: rest) := by
    rw [← shape]
    simp
  rcases exists_of_collapseFrom_eq_append (List.forall_mem_nil _) solidLeft split with
    ⟨ahead, after, rfl, _, later⟩
  have kept := isRemovable_eq_false_of_collapseFrom_eq (List.forall_mem_nil _) some_run blank
    solidRight later
  simp only [isRemovable, Bool.or_eq_false_iff, beq_eq_false_iff_ne] at kept
  rcases hugs with dollar | dollar
  · exact kept.1 dollar
  · exact kept.2 dollar

theorem isNormal_normalize (text : Text) : IsNormal (normalize text) where
  current := by
    intro older member held
    exact not_infix_replaceBrackets member (infix_of_infix_collapse member held)
  tight := by
    intro stretch loose
    exact not_infix_collapse loose

theorem replaceBrackets_eq_self (current : ∀ older ∈ olderDelimiters, ¬older <:+: text) :
    replaceBrackets text = text := by
  induction text using replaceBrackets.induct with
  | case1 => rfl
  | case2 last => rfl
  | case3 slash second rest pair ih =>
      rw [Bool.and_eq_true, decide_eq_true_eq] at pair
      rcases pair with ⟨rfl, isBracket⟩
      have held : ['\\', second] <:+: '\\' :: second :: rest := ⟨[], rest, rfl⟩
      exact absurd held (current _ (mem_olderDelimiters_iff.mpr ⟨second, isBracket, rfl⟩))
  | case4 next second rest alone ih =>
      rw [replaceBrackets, if_neg alone, ih]
      intro older member held
      exact current older member (held.trans (List.suffix_cons next _).isInfix)

/-- A run that is not loose is kept. -/
theorem kept_of_tight (solid : ∀ char ∈ before, isBlank char = false)
    (blank : ∀ char ∈ run, isBlank char = true) (solidNext : isBlank char = false)
    (tight : ∀ stretch, IsLoose stretch →
      ¬stretch <:+: before.toList ++ (run.reverse ++ char :: rest)) :
    (if isRemovable before char then [] else run.reverse) = run.reverse := by
  cases removable : isRemovable before char with
  | false => rfl
  | true =>
      cases before with
      | none => cases removable
      | some left =>
          cases run with
          | nil => rfl
          | cons last run =>
              simp only [isRemovable, Bool.or_eq_true, beq_iff_eq] at removable
              have loose : IsLoose (left :: ((last :: run).reverse ++ [char])) := by
                refine ⟨left, (last :: run).reverse, char, rfl, by simp, ?_, solid left rfl,
                  solidNext, removable⟩
                intro other member
                exact blank other (List.mem_reverse.mp member)
              exact absurd ⟨[], rest, by simp⟩ (tight _ loose)

/-- Blanks stay as they are in a text where none are beside a dollar.  The character before them and
the blanks that have been passed belong to the text. -/
theorem collapseFrom_eq_self (solid : ∀ char ∈ before, isBlank char = false)
    (blank : ∀ char ∈ run, isBlank char = true)
    (tight : ∀ stretch, IsLoose stretch → ¬stretch <:+: before.toList ++ (run.reverse ++ text)) :
    collapseFrom before run text = run.reverse ++ text := by
  induction text generalizing before run with
  | nil => simp [collapseFrom]
  | cons next text ih =>
      rw [collapseFrom]
      cases passed : isBlank next with
      | true =>
          have longer : (next :: run).reverse ++ text = run.reverse ++ next :: text := by simp
          rw [← longer] at tight ⊢
          exact ih solid (List.forall_mem_cons.mpr ⟨passed, blank⟩) tight
      | false =>
          have later : collapseFrom (some next) [] text = text := by
            apply ih
            · rintro char ⟨rfl⟩
              exact passed
            · exact List.forall_mem_nil _
            · intro stretch loose held
              exact tight stretch loose (held.trans ⟨before.toList ++ run.reverse, [], by simp⟩)
          rw [if_neg Bool.false_ne_true, kept_of_tight solid blank passed tight, later]

theorem normalize_eq_self (normal : IsNormal text) : normalize text = text := by
  rw [normalize, replaceBrackets_eq_self normal.current]
  exact collapseFrom_eq_self (by simp) (List.forall_mem_nil _) normal.tight

/-- Normalising is a projection onto the texts in normal form. -/
theorem normalize_projects (text : Text) :
    IsNormal (normalize text) ∧ (IsNormal text ↔ normalize text = text) ∧
      normalize (normalize text) = normalize text := by
  refine ⟨isNormal_normalize text, ⟨normalize_eq_self, ?_⟩, ?_⟩
  · intro unchanged
    rw [← unchanged]
    exact isNormal_normalize text
  · exact normalize_eq_self (isNormal_normalize text)

end InlineMath

end Typeset
