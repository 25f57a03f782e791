import Mathlib.Data.List.Forall2
import Typeset.Proofs.Request.Checks

/-!
# Batches

An element of a batch is valid if every member gives what a job needs, and its job is then told by
its members alone.  A batch is all or nothing: either each of its elements gives a job, or the batch
is refused with the error of the first element that is not valid, whatever comes after it.

Elements are numbered while they are checked, so the inductions are about the rest of a batch from
any number on.
-/

namespace Typeset

open Validation

namespace Validation

/-- The format that a member gives where only one can be asked for. -/
def singleFormat (value : Option Text) : Except RequestError OutputFormat := do
  let type ← fileType false (← required .typeOfFile value)
  return if type = .tex then .tex else .pdf

theorem singleFormat_eq_ok_iff {value : Option Text} {format : OutputFormat} :
    singleFormat value = .ok format ↔ Gives value format.name := by
  simp only [singleFormat, bind_eq_ok_iff, required_eq_ok_iff, fileType_eq_ok_iff]
  constructor
  · rintro ⟨name, given, type, ⟨rfl, single⟩, ⟨⟩⟩
    cases type with
    | pdf => exact given
    | tex => exact given
    | all => cases single rfl
  · intro given
    cases format with
    | pdf => exact ⟨_, given, .pdf, ⟨rfl, nofun⟩, rfl⟩
    | tex => exact ⟨_, given, .tex, ⟨rfl, nofun⟩, rfl⟩

end Validation

namespace BatchItem

/-- An element of a batch that can become a job. -/
structure IsValid [Pattern.Sizes] (item : BatchItem) : Prop where
  owner : ∃ name, Gives item.userId name ∧ IsSafe name
  fileName : ∃ name, Gives item.fileName name ∧ IsSafe name
  fileType : Gives item.typeOfFile FileType.pdf.name ∨ Gives item.typeOfFile FileType.tex.name
  markdown : ∃ body, GivesBody item.markdown body
  labelPattern : ∃ pattern, GivesPattern item.labelPattern pattern

/-- The job that an element of a batch asks for. -/
structure Describes [Pattern.Sizes] (item : BatchItem) (figures : Bool) (job : DocumentJob) :
    Prop where
  owner : Gives item.userId job.owner ∧ IsSafe job.owner
  fileName : Gives item.fileName job.fileName ∧ IsSafe job.fileName
  format : Gives item.typeOfFile job.format.name
  markdown : GivesBody item.markdown job.markdown
  labelPattern : GivesPattern item.labelPattern job.labelPattern
  implicitFigures : job.implicitFigures = item.implicitFigures.getD figures

variable {item : BatchItem} {items : List BatchItem} {figures : Bool} {index : Nat}
  {job : DocumentJob} {jobs : List DocumentJob}

theorem validate_eq [Pattern.Sizes] (item : BatchItem) (figures : Bool) :
    item.validate figures = do
      let owner ← checkedName .userId (required .userId item.userId)
      let fileName ← checkedName .fileName (required .fileName item.fileName)
      let format ← singleFormat item.typeOfFile
      let markdown ← requiredBody .markdown item.markdown
      let labelPattern ← compiledPattern item.labelPattern
      return {
        owner, fileName, format, markdown, labelPattern
        implicitFigures := item.implicitFigures.getD figures } := by
  simp only [validate, checkedName, singleFormat, bind_assoc, pure_bind]

/-- An element gives just the job that it asks for. -/
theorem validate_eq_ok_iff [Pattern.Sizes] :
    item.validate figures = .ok job ↔ item.Describes figures job := by
  simp only [validate_eq, bind_eq_ok_iff, checkedName_eq_ok_iff, required_eq_ok_iff,
    singleFormat_eq_ok_iff, requiredBody_eq_ok_iff, compiledPattern_eq_ok_iff]
  constructor
  · rintro ⟨owner, ownerGiven, fileName, named, format, formatGiven, markdown, bodyGiven, pattern,
      patternGiven, ⟨⟩⟩
    exact ⟨ownerGiven, named, formatGiven, bodyGiven, patternGiven, rfl⟩
  · intro described
    refine ⟨job.owner, described.owner, job.fileName, described.fileName, job.format,
      described.format, job.markdown, described.markdown, job.labelPattern,
      described.labelPattern, ?_⟩
    rw [← described.implicitFigures]
    rfl

/-- An element gives a job just if it is valid. -/
theorem exists_validate_eq_ok_iff [Pattern.Sizes] (figures : Bool) :
    (∃ job, item.validate figures = .ok job) ↔ item.IsValid := by
  simp only [validate_eq_ok_iff]
  constructor
  · rintro ⟨job, described⟩
    refine ⟨⟨_, described.owner⟩, ⟨_, described.fileName⟩, ?_, ⟨_, described.markdown⟩,
      ⟨_, described.labelPattern⟩⟩
    have given := described.format
    cases format : job.format with
    | pdf =>
        rw [format] at given
        exact .inl given
    | tex =>
        rw [format] at given
        exact .inr given
  · rintro ⟨⟨owner, ownerGiven⟩, ⟨fileName, named⟩, typeGiven, ⟨markdown, bodyGiven⟩,
      ⟨pattern, patternGiven⟩⟩
    obtain ⟨format, formatGiven⟩ : ∃ format : OutputFormat, Gives item.typeOfFile format.name := by
      rcases typeGiven with pdf | tex
      · exact ⟨.pdf, pdf⟩
      · exact ⟨.tex, tex⟩
    exact ⟨⟨owner, fileName, format, markdown, _, pattern⟩, ownerGiven, named, formatGiven,
      bodyGiven, patternGiven, rfl⟩

theorem not_isValid_iff [Pattern.Sizes] (figures : Bool) :
    ¬item.IsValid ↔ ∃ error, item.validate figures = .error error := by
  rw [← exists_validate_eq_ok_iff figures]
  cases item.validate figures with
  | ok job => simp
  | error error => simp

theorem validateFrom_eq_ok_iff [Pattern.Sizes] :
    validateFrom index figures items = .ok jobs ↔
      List.Forall₂ (fun item job => item.validate figures = .ok job) items jobs := by
  induction items generalizing index jobs with
  | nil => simp [validateFrom, eq_comm]
  | cons item items ih =>
      rw [validateFrom, List.forall₂_cons_left_iff]
      cases item.validate figures with
      | error error => simp
      | ok job =>
          simp only [map_eq_ok_iff, ih, Except.ok.injEq]
          constructor
          · rintro ⟨others, rest, rfl⟩
            exact ⟨job, others, rfl, rest, rfl⟩
          · rintro ⟨_, others, rfl, rest, rfl⟩
            exact ⟨others, rest, rfl⟩

/-- The error is that of the first element that is not valid, with the number of that element. -/
theorem validateFrom_eq_error_iff [Pattern.Sizes] {error : ValidationError} :
    validateFrom index figures items = .error error ↔
      ∃ earlier item later source, items = earlier ++ item :: later ∧
        (∀ other ∈ earlier, other.IsValid) ∧ item.validate figures = .error source ∧
        error = .invalidItem (index + earlier.length) source := by
  induction items generalizing index with
  | nil => simp [validateFrom]
  | cons first items ih =>
      rw [validateFrom]
      cases outcome : first.validate figures with
      | error source =>
          constructor
          · rintro ⟨⟩
            exact ⟨[], first, items, source, rfl, by simp, outcome, rfl⟩
          · rintro ⟨_ | ⟨other, earlier⟩, item, later, found, split, valid, failed, rfl⟩
            · cases split
              cases outcome.symm.trans failed
              rfl
            · cases split
              have refused := (not_isValid_iff figures).mpr ⟨source, outcome⟩
              exact absurd (valid _ (List.mem_cons_self ..)) refused
      | ok job =>
          simp only [map_eq_error_iff, ih]
          constructor
          · rintro ⟨earlier, item, later, source, rfl, valid, failed, rfl⟩
            have isFirst : first.IsValid := (exists_validate_eq_ok_iff figures).mp ⟨job, outcome⟩
            refine ⟨first :: earlier, item, later, source, rfl,
              List.forall_mem_cons.mpr ⟨isFirst, valid⟩, failed, ?_⟩
            simp [Nat.add_comm, Nat.add_left_comm]
          · rintro ⟨_ | ⟨other, earlier⟩, item, later, source, split, valid, failed, rfl⟩
            · cases split
              cases outcome.symm.trans failed
            · cases split
              refine ⟨earlier, item, later, source, rfl, ?_, failed, ?_⟩
              · exact (List.forall_mem_cons.mp valid).2
              · simp [Nat.add_comm, Nat.add_left_comm]

theorem exists_forall₂_validate_iff [Pattern.Sizes] (items : List BatchItem) (figures : Bool) :
    (∃ jobs, List.Forall₂ (fun item job => item.validate figures = .ok job) items jobs) ↔
      ∀ item ∈ items, item.IsValid := by
  induction items with
  | nil => simp
  | cons item items ih =>
      rw [List.forall_mem_cons, ← ih, ← exists_validate_eq_ok_iff figures]
      constructor
      · rintro ⟨jobs, described⟩
        rcases List.forall₂_cons_left_iff.mp described with ⟨job, others, valid, rest, rfl⟩
        exact ⟨⟨job, valid⟩, ⟨others, rest⟩⟩
      · rintro ⟨⟨job, valid⟩, ⟨jobs, rest⟩⟩
        exact ⟨job :: jobs, .cons valid rest⟩

theorem validateAll_of_ne_nil [Pattern.Sizes] (more : items ≠ []) :
    validateAll items figures = validateFrom 0 figures items := by
  rw [validateAll, if_neg (by simpa using more)]

theorem validateAll_eq_ok_iff [Pattern.Sizes] :
    validateAll items figures = .ok jobs ↔
      items ≠ [] ∧ List.Forall₂ (fun item job => item.validate figures = .ok job) items jobs := by
  by_cases more : items = []
  · simp [validateAll, more]
  · rw [validateAll_of_ne_nil more, validateFrom_eq_ok_iff]
    exact (and_iff_right more).symm

theorem validateAll_eq_error_iff [Pattern.Sizes] {error : ValidationError} :
    validateAll items figures = .error error ↔
      (items = [] ∧ error = .emptyBatch) ∨
        ∃ earlier item later source, items = earlier ++ item :: later ∧
          (∀ other ∈ earlier, other.IsValid) ∧ item.validate figures = .error source ∧
          error = .invalidItem earlier.length source := by
  by_cases more : items = []
  · subst more
    simp [validateAll, eq_comm]
  · rw [validateAll_of_ne_nil more, validateFrom_eq_error_iff]
    simp [more]

/-- A batch is refused as a whole if it is empty or if an element is not valid, and the error is
then that of the first such element.  Otherwise every element gives the job that it gives alone. -/
theorem validateAll_decides_items [Pattern.Sizes] (items : List BatchItem) (figures : Bool) :
    (validateAll items figures = .error .emptyBatch ↔ items = []) ∧
      ((∃ jobs, validateAll items figures = .ok jobs) ↔
        items ≠ [] ∧ ∀ item ∈ items, item.IsValid) ∧
      (∀ jobs, validateAll items figures = .ok jobs ↔
        items ≠ [] ∧
          List.Forall₂ (fun item job => item.validate figures = .ok job) items jobs) ∧
      ∀ error, validateAll items figures = .error error ↔
        (items = [] ∧ error = .emptyBatch) ∨
          ∃ earlier item later source, items = earlier ++ item :: later ∧
            (∀ other ∈ earlier, other.IsValid) ∧ ¬item.IsValid ∧
            item.validate figures = .error source ∧
            error = .invalidItem earlier.length source := by
  refine ⟨?_, ?_, fun jobs => validateAll_eq_ok_iff, ?_⟩
  · simp [validateAll_eq_error_iff]
  · simp only [validateAll_eq_ok_iff, exists_and_left, exists_forall₂_validate_iff]
  · intro error
    rw [validateAll_eq_error_iff]
    apply or_congr_right
    constructor
    · rintro ⟨earlier, item, later, source, split, valid, failed, told⟩
      have refused := (not_isValid_iff figures).mpr ⟨source, failed⟩
      exact ⟨earlier, item, later, source, split, valid, refused, failed, told⟩
    · rintro ⟨earlier, item, later, source, split, valid, -, failed, told⟩
      exact ⟨earlier, item, later, source, split, valid, failed, told⟩

end BatchItem

end Typeset
