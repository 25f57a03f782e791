import Typeset.Proofs.Request.Checks

/-!
# Requests for one document

A request for one document has to meet five conditions, each of which is about members of its own:
no condition looks at what another one has found.  So the request is accepted just if it meets all
of them, whatever the order; the order in which they are checked only decides which error is
reported, and that is the error of the first condition that is not met.
-/

namespace Typeset

open Validation

namespace SingleRequest

/-- A condition on a request for one document. -/
inductive Condition where
  | owner
  | markdown
  | fileType
  | fileName
  | labelPattern
  deriving DecidableEq, Repr

/-- The conditions in the order in which they are checked. -/
def Condition.all : List Condition :=
  [owner, markdown, fileType, fileName, labelPattern]

/-- What a request gives for its jobs. -/
structure Draft where
  owner : Text
  markdown : Text
  fileType : FileType
  fileName : Text
  labelPattern : Option Pattern

/-- The job of a draft for one format. -/
def Draft.job (draft : Draft) (implicitFigures : Bool) (format : OutputFormat) : DocumentJob where
  owner := draft.owner
  fileName := draft.fileName
  format := format
  markdown := draft.markdown
  implicitFigures := implicitFigures
  labelPattern := draft.labelPattern

/-- The jobs of a draft: one for each of its formats, the document before its source. -/
def Draft.jobs (draft : Draft) (implicitFigures : Bool) : List DocumentJob :=
  match draft.fileType with
  | .pdf => [draft.job implicitFigures .pdf]
  | .tex => [draft.job implicitFigures .tex]
  | .all => [draft.job implicitFigures .pdf, draft.job implicitFigures .tex]

/-- Whether a request names its document.  The slug and the number count only if there is no file
name. -/
inductive Names (request : SingleRequest) : Text → Prop where
  | given (name : Text) (given : Gives request.fileName name) : Names request name
  | numbered (slug : Text) (number : SetNumber)
      (unnamed : ∀ name, ¬Gives request.fileName name) (slugGiven : Gives request.moduleSlug slug)
      (numberGiven : request.setNumber = some number) (shown : number.display ≠ []) :
      Names request (slug ++ '-' :: number.display)

/-- Whether a draft has what a request gives for a condition. -/
def Settles [Pattern.Sizes] (request : SingleRequest) (draft : Draft) : Condition → Prop
  | .owner => Gives request.userId draft.owner ∧ IsSafe draft.owner
  | .markdown => GivesBody request.markdown draft.markdown
  | .fileType => Gives request.typeOfFile draft.fileType.name
  | .fileName => request.Names draft.fileName ∧ IsSafe draft.fileName
  | .labelPattern => GivesPattern request.labelPattern draft.labelPattern

/-- Whether a request meets a condition. -/
def Meets [Pattern.Sizes] (request : SingleRequest) (condition : Condition) : Prop :=
  ∃ draft, request.Settles draft condition

/-- The error of a condition that a request does not meet. -/
inductive Fails [Pattern.Sizes] (request : SingleRequest) : Condition → RequestError → Prop where
  | ownerMissing (missing : ∀ name, ¬Gives request.userId name) :
      Fails request .owner (.missingField .userId)
  | ownerUnsafe (name : Text) (given : Gives request.userId name) (risky : ¬IsSafe name) :
      Fails request .owner (.unsafeName .userId name)
  | markdownMissing (missing : ∀ body, ¬GivesBody request.markdown body) :
      Fails request .markdown (.missingField .markdown)
  | typeMissing (missing : ∀ name, ¬Gives request.typeOfFile name) :
      Fails request .fileType (.missingField .typeOfFile)
  | typeUnsupported (name : Text) (given : Gives request.typeOfFile name)
      (unknown : ∀ type : FileType, name ≠ type.name) :
      Fails request .fileType (.unsupportedFileType name true)
  | nameMissing (missing : ∀ name, ¬request.Names name) : Fails request .fileName .missingIdentity
  | nameUnsafe (name : Text) (named : request.Names name) (risky : ¬IsSafe name) :
      Fails request .fileName (.unsafeName .fileName name)
  | patternRefused (error : LabelPattern.Error)
      (refused : RefusesPattern request.labelPattern error) :
      Fails request .labelPattern (.invalidLabelPattern error)

variable {request : SingleRequest}

theorem Draft.jobs_eq_map (draft : Draft) (figures : Bool) :
    draft.jobs figures = draft.fileType.formats.map (draft.job figures) := by
  unfold jobs
  cases draft.fileType <;> rfl

theorem Draft.exists_of_mem_jobs {draft : Draft} {figures : Bool} {job : DocumentJob}
    (member : job ∈ draft.jobs figures) : ∃ format, job = draft.job figures format := by
  rw [jobs_eq_map, List.mem_map] at member
  rcases member with ⟨format, _, rfl⟩
  exact ⟨format, rfl⟩

theorem isTrimmed_display {number : SetNumber} (shown : number.display ≠ []) :
    number.display.IsTrimmed := by
  cases number with
  | number value => exact Text.isTrimmed_ofNat value.toNat
  | text value => exact Text.isTrimmed_trim shown

theorem Names.isTrimmed {name : Text} (named : request.Names name) : name.IsTrimmed := by
  cases named with
  | given _ given => exact given.isTrimmed
  | numbered slug number _ slugGiven _ shown =>
      simpa using slugGiven.isTrimmed.append (isTrimmed_display shown) ['-']

theorem documentName_eq_ok_iff {name : Text} :
    documentName request = .ok name ↔ request.Names name := by
  constructor
  · intro found
    unfold documentName at found
    split at found
    · rename_i given
      cases found
      exact .given name (nonEmpty?_eq_some_iff.mp given)
    · rename_i unnamed
      split at found
      · rename_i slug number slugGiven numberGiven
        split at found
        · cases found
        · rename_i shown
          cases found
          exact .numbered slug number (nonEmpty?_eq_none_iff.mp unnamed)
            (nonEmpty?_eq_some_iff.mp slugGiven) numberGiven (by simpa using shown)
      · cases found
  · rintro (⟨_, given⟩ | ⟨slug, number, unnamed, slugGiven, numberGiven, shown⟩)
    · simp only [documentName, nonEmpty?_eq_some_iff.mpr given]
    · simp only [documentName, nonEmpty?_eq_none_iff.mpr unnamed,
        nonEmpty?_eq_some_iff.mpr slugGiven, numberGiven, List.isEmpty_iff, if_neg shown]

example (request : SingleRequest) :
    Names { request with
        fileName := some " \t".toList
        moduleSlug := some " algebra ".toList
        setNumber := some (.text "3 ".toList) }
      "algebra-3".toList :=
  documentName_eq_ok_iff.mp rfl

theorem documentName_eq_error_iff {error : RequestError} :
    documentName request = .error error ↔
      error = .missingIdentity ∧ ∀ name, ¬request.Names name := by
  have single : ∀ other, documentName request = .error other → other = .missingIdentity := by
    intro other failed
    unfold documentName at failed
    repeat' split at failed
    all_goals cases failed
    all_goals rfl
  simp only [eq_error_iff single, Ne, documentName_eq_ok_iff]

/-- The check of a condition, without what it finds. -/
def check [Pattern.Sizes] (request : SingleRequest) : Condition → Except RequestError Unit
  | .owner => (checkedName .userId (required .userId request.userId)).map fun _ => ()
  | .markdown => (requiredBody .markdown request.markdown).map fun _ => ()
  | .fileType => (required .typeOfFile request.typeOfFile >>= fileType true).map fun _ => ()
  | .fileName => (checkedName .fileName (documentName request)).map fun _ => ()
  | .labelPattern => (compiledPattern request.labelPattern).map fun _ => ()

theorem check_eq_ok_iff [Pattern.Sizes] {condition : Condition} :
    request.check condition = .ok () ↔ request.Meets condition := by
  cases condition with
  | owner =>
      simp only [check, map_eq_ok_iff, checkedName_eq_ok_iff, required_eq_ok_iff, and_true]
      exact ⟨fun ⟨owner, given⟩ => ⟨⟨owner, [], .pdf, [], none⟩, given⟩,
        fun ⟨draft, settled⟩ => ⟨draft.owner, settled⟩⟩
  | markdown =>
      simp only [check, map_eq_ok_iff, requiredBody_eq_ok_iff, and_true]
      exact ⟨fun ⟨markdown, given⟩ => ⟨⟨[], markdown, .pdf, [], none⟩, given⟩,
        fun ⟨draft, settled⟩ => ⟨draft.markdown, settled⟩⟩
  | fileType =>
      simp only [check, map_eq_ok_iff, bind_eq_ok_iff, required_eq_ok_iff, fileType_eq_ok_iff,
        implies_true, and_true]
      constructor
      · rintro ⟨type, _, given, rfl⟩
        exact ⟨⟨[], [], type, [], none⟩, given⟩
      · rintro ⟨draft, settled⟩
        exact ⟨draft.fileType, _, settled, rfl⟩
  | fileName =>
      simp only [check, map_eq_ok_iff, checkedName_eq_ok_iff, documentName_eq_ok_iff, and_true]
      exact ⟨fun ⟨name, named⟩ => ⟨⟨[], [], .pdf, name, none⟩, named⟩,
        fun ⟨draft, settled⟩ => ⟨draft.fileName, settled⟩⟩
  | labelPattern =>
      simp only [check, map_eq_ok_iff, compiledPattern_eq_ok_iff, and_true]
      exact ⟨fun ⟨pattern, given⟩ => ⟨⟨[], [], .pdf, [], pattern⟩, given⟩,
        fun ⟨draft, settled⟩ => ⟨draft.labelPattern, settled⟩⟩

theorem check_eq_error_iff [Pattern.Sizes] {condition : Condition} {error : RequestError} :
    request.check condition = .error error ↔ request.Fails condition error := by
  cases condition with
  | owner =>
      simp only [check, map_eq_error_iff, checkedName_eq_error_iff, required_eq_error_iff,
        required_eq_ok_iff]
      constructor
      · rintro (⟨rfl, missing⟩ | ⟨name, given, risky, rfl⟩)
        · exact .ownerMissing missing
        · exact .ownerUnsafe name given risky
      · intro failed
        cases failed with
        | ownerMissing missing => exact .inl ⟨rfl, missing⟩
        | ownerUnsafe name given risky => exact .inr ⟨name, given, risky, rfl⟩
  | markdown =>
      simp only [check, map_eq_error_iff, requiredBody_eq_error_iff]
      constructor
      · rintro ⟨rfl, missing⟩
        exact .markdownMissing missing
      · intro failed
        cases failed with
        | markdownMissing missing => exact ⟨rfl, missing⟩
  | fileType =>
      simp only [check, map_eq_error_iff, bind_eq_error_iff, required_eq_error_iff,
        required_eq_ok_iff, fileType_eq_error_iff, Bool.true_eq_false, and_false, imp_false]
      constructor
      · rintro (⟨rfl, missing⟩ | ⟨name, given, rfl, unknown⟩)
        · exact .typeMissing missing
        · exact .typeUnsupported name given unknown
      · intro failed
        cases failed with
        | typeMissing missing => exact .inl ⟨rfl, missing⟩
        | typeUnsupported name given unknown => exact .inr ⟨name, given, rfl, unknown⟩
  | fileName =>
      simp only [check, map_eq_error_iff, checkedName_eq_error_iff, documentName_eq_error_iff,
        documentName_eq_ok_iff]
      constructor
      · rintro (⟨rfl, missing⟩ | ⟨name, named, risky, rfl⟩)
        · exact .nameMissing missing
        · exact .nameUnsafe name named risky
      · intro failed
        cases failed with
        | nameMissing missing => exact .inl ⟨rfl, missing⟩
        | nameUnsafe name named risky => exact .inr ⟨name, named, risky, rfl⟩
  | labelPattern =>
      simp only [check, map_eq_error_iff, compiledPattern_eq_error_iff]
      constructor
      · rintro ⟨refusal, refused, rfl⟩
        exact .patternRefused refusal refused
      · intro failed
        cases failed with
        | patternRefused refusal refused => exact ⟨refusal, refused, rfl⟩

theorem Fails.not_meets [Pattern.Sizes] {condition : Condition} {error : RequestError}
    (failed : request.Fails condition error) : ¬request.Meets condition := by
  rw [← check_eq_ok_iff, check_eq_error_iff.mpr failed]
  nofun

theorem validate_eq [Pattern.Sizes] (request : SingleRequest) (implicitFigures : Bool) :
    request.validate implicitFigures = do
      let owner ← checkedName .userId (required .userId request.userId)
      let markdown ← requiredBody .markdown request.markdown
      let fileType ← required .typeOfFile request.typeOfFile >>= fileType true
      let fileName ← checkedName .fileName (documentName request)
      let labelPattern ← compiledPattern request.labelPattern
      return Draft.jobs { owner, markdown, fileType, fileName, labelPattern }
        (request.implicitFigures.getD implicitFigures) := by
  simp only [validate, checkedName, bind_assoc, pure_bind, Draft.jobs_eq_map]
  rfl

theorem validate_eq_ok_iff [Pattern.Sizes] {figures : Bool} {jobs : List DocumentJob} :
    request.validate figures = .ok jobs ↔
      ∃ draft : Draft, (∀ condition, request.Settles draft condition) ∧
        jobs = draft.jobs (request.implicitFigures.getD figures) := by
  simp only [validate_eq, bind_eq_ok_iff, checkedName_eq_ok_iff, required_eq_ok_iff,
    requiredBody_eq_ok_iff, fileType_eq_ok_iff, documentName_eq_ok_iff, compiledPattern_eq_ok_iff]
  constructor
  · rintro ⟨owner, ownerGiven, markdown, bodyGiven, type, ⟨_, typeGiven, rfl, _⟩, name, named,
      pattern, patternGiven, ⟨⟩⟩
    refine ⟨⟨owner, markdown, type, name, pattern⟩, ?_, rfl⟩
    intro condition
    cases condition with
    | owner => exact ownerGiven
    | markdown => exact bodyGiven
    | fileType => exact typeGiven
    | fileName => exact named
    | labelPattern => exact patternGiven
  · rintro ⟨draft, settled, rfl⟩
    exact ⟨draft.owner, settled .owner, draft.markdown, settled .markdown, draft.fileType,
      ⟨_, settled .fileType, rfl, fun _ => trivial⟩, draft.fileName, settled .fileName,
      draft.labelPattern, settled .labelPattern, rfl⟩

/-- A request is refused with the error of the first condition that it does not meet.  No check
looks at what an earlier one has found. -/
theorem validate_eq_error_iff [Pattern.Sizes] {figures : Bool} {error : RequestError} :
    request.validate figures = .error error ↔
      ∃ earlier condition later, Condition.all = earlier ++ condition :: later ∧
        (∀ other ∈ earlier, request.Meets other) ∧ request.Fails condition error := by
  have checked : request.validate figures = .error error ↔
      forM Condition.all request.check = .error error := by
    simp only [validate_eq, Condition.all, List.forM_cons, List.forM_nil, bind_eq_error_iff, check,
      map_eq_error_iff, map_eq_ok_iff, pure_ne_error, exists_and_right, exists_const, and_true,
      and_false, or_false]
  simp only [checked, forM_eq_error_iff, check_eq_ok_iff, check_eq_error_iff]

/-- A request for one document is accepted just if it meets every condition, and its jobs are then
those of what it gives for them.  Otherwise its error is that of the first condition that it does
not meet. -/
theorem validate_decides_conditions [Pattern.Sizes] (request : SingleRequest) (figures : Bool) :
    ((∃ jobs, request.validate figures = .ok jobs) ↔ ∀ condition, request.Meets condition) ∧
      (∀ jobs, request.validate figures = .ok jobs ↔
        ∃ draft : Draft, (∀ condition, request.Settles draft condition) ∧
          jobs = draft.jobs (request.implicitFigures.getD figures)) ∧
      ∀ error, request.validate figures = .error error ↔
        ∃ earlier condition later, Condition.all = earlier ++ condition :: later ∧
          (∀ other ∈ earlier, request.Meets other) ∧ ¬request.Meets condition ∧
          request.Fails condition error := by
  refine ⟨⟨?_, ?_⟩, fun jobs => validate_eq_ok_iff, fun error => ⟨?_, ?_⟩⟩
  · rintro ⟨jobs, accepted⟩ condition
    rcases validate_eq_ok_iff.mp accepted with ⟨draft, settled, _⟩
    exact ⟨draft, settled condition⟩
  · intro met
    cases outcome : request.validate figures with
    | ok jobs => exact ⟨jobs, rfl⟩
    | error error =>
        rcases validate_eq_error_iff.mp outcome with ⟨_, condition, _, _, _, failed⟩
        exact absurd (met condition) failed.not_meets
  · intro refused
    rcases validate_eq_error_iff.mp refused with ⟨earlier, condition, later, order, met, failed⟩
    exact ⟨earlier, condition, later, order, met, failed.not_meets, failed⟩
  · rintro ⟨earlier, condition, later, order, met, _, failed⟩
    exact validate_eq_error_iff.mpr ⟨earlier, condition, later, order, met, failed⟩

end SingleRequest

end Typeset
