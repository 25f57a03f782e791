import Typeset.Proofs.Steps
import Typeset.Proofs.Text.Trimming
import Typeset.Request.Validation

/-!
# Checks of requests

What each check of a member asks for, said of the request alone: a check either goes on with what
the member gives, or ends with the one error that it has.  A name is checked after it has been
found, so an error that it is missing comes before one that it is unsafe.
-/

namespace Typeset

theorem Text.occursIn_iff {part text : Text} : occursIn part text = true ↔ part <:+: text := by
  induction text with
  | nil => simp [occursIn]
  | cons char rest ih =>
      rw [occursIn, Bool.or_eq_true, ih, List.isPrefixOf_iff_prefix, List.infix_cons_iff]

namespace Validation

/-- Whether a member gives a name, which is what is left of its text without the blanks around
it. -/
def Gives (value : Option Text) (name : Text) : Prop :=
  ∃ text, value = some text ∧ text.trim = name ∧ name ≠ []

/-- Whether a member gives a document, which is its text as it stands if that is more than
blanks. -/
def GivesBody (value : Option Text) (body : Text) : Prop :=
  value = some body ∧ ∃ char ∈ body, isBlank char = false

/-- A name without separators and without two dots in a row. -/
structure IsSafe (name : Text) : Prop where
  no_slash : '/' ∉ name
  no_backslash : '\\' ∉ name
  no_dots : ¬['.', '.'] <:+: name

/-- Whether a member gives a label pattern: none if it is missing, and otherwise one that has a
group. -/
inductive GivesPattern [Pattern.Sizes] : Option Text → Option Pattern → Prop where
  | absent : GivesPattern none none
  | compiled (source : Text) (pattern : Pattern) (compiles : Pattern.compile source = .ok pattern)
      (captures : pattern.groups ≠ 0) : GivesPattern (some source) (some pattern)

/-- Why a member gives no label pattern. -/
inductive RefusesPattern [Pattern.Sizes] : Option Text → LabelPattern.Error → Prop where
  | refused (source : Text) (error : Pattern.Error)
      (fails : Pattern.compile source = .error error) :
      RefusesPattern (some source) (.refused source error)
  | withoutGroup (source : Text) (pattern : Pattern)
      (compiles : Pattern.compile source = .ok pattern) (captures : pattern.groups = 0) :
      RefusesPattern (some source) (.withoutGroup source)

/-- A name, once it has been found and checked. -/
def checkedName (field : Field) (found : Except RequestError Text) : Except RequestError Text := do
  let name ← found
  safe field name
  return name

variable {value : Option Text} {name : Text}

theorem Gives.isTrimmed (given : Gives value name) : name.IsTrimmed := by
  rcases given with ⟨text, _, rfl, left⟩
  exact Text.isTrimmed_trim left

theorem Gives.unique {other : Text} (given : Gives value name) (alsoGiven : Gives value other) :
    name = other := by
  rcases given with ⟨text, same, rfl, _⟩
  rcases alsoGiven with ⟨again, alsoSame, rfl, _⟩
  rw [Option.some.inj (same.symm.trans alsoSame)]

theorem nonEmpty?_eq_some_iff : nonEmpty? value = some name ↔ Gives value name := by
  rw [nonEmpty?, Option.filter_eq_some_iff, Option.map_eq_some_iff]
  constructor
  · rintro ⟨⟨text, given, trimmed⟩, left⟩
    exact ⟨text, given, trimmed, by simpa using left⟩
  · rintro ⟨text, given, trimmed, left⟩
    exact ⟨⟨text, given, trimmed⟩, by simpa using left⟩

theorem nonEmpty?_eq_none_iff : nonEmpty? value = none ↔ ∀ name, ¬Gives value name := by
  rw [Option.eq_none_iff_forall_ne_some]
  simp only [Ne, nonEmpty?_eq_some_iff]

theorem isSafe_iff : isSafeName name = true ↔ IsSafe name := by
  simp only [isSafeName, Bool.and_eq_true, Bool.not_eq_true', ← Bool.not_eq_true,
    List.contains_iff_mem, Text.occursIn_iff]
  constructor
  · rintro ⟨⟨slash, backslash⟩, dots⟩
    exact ⟨slash, backslash, dots⟩
  · rintro ⟨slash, backslash, dots⟩
    exact ⟨⟨slash, backslash⟩, dots⟩

theorem required_eq_ok_iff {field : Field} :
    required field value = .ok name ↔ Gives value name := by
  rw [← nonEmpty?_eq_some_iff, required]
  cases nonEmpty? value with
  | none => simp
  | some found => simp

theorem required_eq_error_iff {field : Field} {error : RequestError} :
    required field value = .error error ↔
      error = .missingField field ∧ ∀ name, ¬Gives value name := by
  have single : ∀ other, required field value = .error other → other = .missingField field := by
    intro other failed
    rw [required] at failed
    split at failed <;> cases failed
    rfl
  simp only [eq_error_iff single, Ne, required_eq_ok_iff]

theorem requiredBody_eq_ok_iff {field : Field} {body : Text} :
    requiredBody field value = .ok body ↔ GivesBody value body := by
  cases value with
  | none => simp [requiredBody, GivesBody]
  | some text =>
      have solid : text.trim.isEmpty = false ↔ ∃ char ∈ text, isBlank char = false := by
        rw [← Bool.not_eq_true, List.isEmpty_iff, Text.trim_eq_nil_iff]
        simp only [Classical.not_forall, Bool.not_eq_true, exists_prop]
      rw [requiredBody, GivesBody, Option.some.injEq]
      constructor
      · intro found
        split at found
        · cases found
        · rename_i left
          cases found
          exact ⟨rfl, solid.mp (by simpa using left)⟩
      · rintro ⟨rfl, left⟩
        rw [solid.mpr left]
        rfl

theorem requiredBody_eq_error_iff {field : Field} {error : RequestError} :
    requiredBody field value = .error error ↔
      error = .missingField field ∧ ∀ body, ¬GivesBody value body := by
  have single : ∀ other, requiredBody field value = .error other →
      other = .missingField field := by
    intro other failed
    unfold requiredBody at failed
    split at failed
    · split at failed <;> cases failed
      rfl
    · cases failed
      rfl
  simp only [eq_error_iff single, Ne, requiredBody_eq_ok_iff]

theorem safe_eq_ok_iff {field : Field} {passed : Unit} :
    safe field name = .ok passed ↔ IsSafe name := by
  rw [safe, ← isSafe_iff]
  cases isSafeName name with
  | true => simp
  | false => simp

theorem safe_eq_error_iff {field : Field} {error : RequestError} :
    safe field name = .error error ↔ error = .unsafeName field name ∧ ¬IsSafe name := by
  rw [safe, ← isSafe_iff]
  cases isSafeName name with
  | true => simp
  | false => simp [eq_comm]

theorem checkedName_eq_ok_iff {field : Field} {found : Except RequestError Text} :
    checkedName field found = .ok name ↔ found = .ok name ∧ IsSafe name := by
  simp only [checkedName, bind_eq_ok_iff, safe_eq_ok_iff, exists_const]
  constructor
  · rintro ⟨other, ok, safe, ⟨⟩⟩
    exact ⟨ok, safe⟩
  · rintro ⟨ok, safe⟩
    exact ⟨name, ok, safe, rfl⟩

theorem checkedName_eq_error_iff {field : Field} {found : Except RequestError Text}
    {error : RequestError} :
    checkedName field found = .error error ↔
      found = .error error ∨
        ∃ name, found = .ok name ∧ ¬IsSafe name ∧ error = .unsafeName field name := by
  simp only [checkedName, bind_eq_error_iff, safe_eq_error_iff]
  constructor
  · rintro (missing | ⟨name, ok, ⟨rfl, risky⟩ | ⟨_, _, ⟨⟩⟩⟩)
    · exact .inl missing
    · exact .inr ⟨name, ok, risky, rfl⟩
  · rintro (missing | ⟨name, ok, risky, rfl⟩)
    · exact .inl missing
    · exact .inr ⟨name, ok, .inl ⟨rfl, risky⟩⟩

theorem fileType_eq_ok_iff {allowsAll : Bool} {type : FileType} :
    fileType allowsAll name = .ok type ↔
      name = type.name ∧ (type = .all → allowsAll = true) := by
  have texName : FileType.tex.name ≠ FileType.pdf.name := by decide
  have allName : FileType.all.name ≠ FileType.pdf.name ∧ FileType.all.name ≠ FileType.tex.name := by
    decide
  rw [fileType]
  constructor
  · intro found
    split at found
    · cases found
      exact ⟨‹_›, nofun⟩
    split at found
    · cases found
      exact ⟨‹_›, nofun⟩
    split at found
    · cases found
      rename_i named
      simpa using named
    · cases found
  · rintro ⟨rfl, allowed⟩
    cases type with
    | pdf => rfl
    | tex => simp [texName]
    | all => simp [allName, allowed]

theorem fileType_eq_error_iff {allowsAll : Bool} {error : RequestError} :
    fileType allowsAll name = .error error ↔
      error = .unsupportedFileType name allowsAll ∧
        ∀ type : FileType, name = type.name → type = .all ∧ allowsAll = false := by
  have single : ∀ other, fileType allowsAll name = .error other →
      other = .unsupportedFileType name allowsAll := by
    intro other failed
    unfold fileType at failed
    repeat' split at failed
    all_goals cases failed
    rfl
  simp only [eq_error_iff single, Ne, fileType_eq_ok_iff, not_and, Classical.not_imp,
    Bool.not_eq_true]

/-- A label pattern is either given or refused. -/
theorem givesPattern_or_refuses [Pattern.Sizes] (value : Option Text) :
    (∃ pattern, GivesPattern value pattern) ∨ ∃ refusal, RefusesPattern value refusal := by
  cases value with
  | none => exact .inl ⟨none, .absent⟩
  | some source =>
      cases compiles : Pattern.compile source with
      | error refusal => exact .inr ⟨_, .refused source refusal compiles⟩
      | ok pattern =>
          by_cases captures : pattern.groups = 0
          · exact .inr ⟨_, .withoutGroup source pattern compiles captures⟩
          · exact .inl ⟨_, .compiled source pattern compiles captures⟩

theorem GivesPattern.compiledPattern_eq [Pattern.Sizes] {pattern : Option Pattern}
    (given : GivesPattern value pattern) : compiledPattern value = .ok pattern := by
  cases given with
  | absent => rfl
  | compiled source pattern compiles captures =>
      simp only [compiledPattern, LabelPattern.compile, compiles, if_neg captures]

theorem RefusesPattern.compiledPattern_eq [Pattern.Sizes] {refusal : LabelPattern.Error}
    (refused : RefusesPattern value refusal) :
    compiledPattern value = .error (.invalidLabelPattern refusal) := by
  cases refused with
  | refused source refusal fails => simp only [compiledPattern, LabelPattern.compile, fails]
  | withoutGroup source pattern compiles captures =>
      simp only [compiledPattern, LabelPattern.compile, compiles, if_pos captures]

theorem compiledPattern_eq_ok_iff [Pattern.Sizes] {pattern : Option Pattern} :
    compiledPattern value = .ok pattern ↔ GivesPattern value pattern := by
  refine ⟨fun found => ?_, GivesPattern.compiledPattern_eq⟩
  rcases givesPattern_or_refuses value with ⟨other, given⟩ | ⟨refusal, refused⟩
  · cases given.compiledPattern_eq.symm.trans found
    exact given
  · cases refused.compiledPattern_eq.symm.trans found

theorem compiledPattern_eq_error_iff [Pattern.Sizes] {error : RequestError} :
    compiledPattern value = .error error ↔
      ∃ refusal, RefusesPattern value refusal ∧ error = .invalidLabelPattern refusal := by
  constructor
  · intro failed
    rcases givesPattern_or_refuses value with ⟨pattern, given⟩ | ⟨refusal, refused⟩
    · cases given.compiledPattern_eq.symm.trans failed
    · cases refused.compiledPattern_eq.symm.trans failed
      exact ⟨refusal, refused, rfl⟩
  · rintro ⟨refusal, refused, rfl⟩
    exact refused.compiledPattern_eq

end Validation

end Typeset
