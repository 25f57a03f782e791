import Typeset.Libraries
import Typeset.Proofs.Request.Batch
import Typeset.Proofs.Request.SingleDocument

/-!
# One document as a batch

A request for one document that names its file asks for the same as a batch with one element for
each of its formats.  The two are checked in a different order, so they can be refused with
different errors, but they are accepted alike and give the same jobs.

The slug and the number of a request have no part in this, as they only count where no file is
named.  An element cannot ask for all formats, so a request that does becomes two elements.
-/

namespace Typeset

open Validation

namespace SingleRequest

/-- The document of a request as an element of a batch that asks for a file type. -/
def toItem (request : SingleRequest) (typeOfFile : Option Text) : BatchItem where
  userId := request.userId
  fileName := request.fileName
  typeOfFile := typeOfFile
  markdown := request.markdown
  implicitFigures := request.implicitFigures
  labelPattern := request.labelPattern

/-- The file type of an element that asks for a format. -/
def AsksFor (typeOfFile : Option Text) (format : OutputFormat) : Prop :=
  Gives typeOfFile format.name

variable {request : SingleRequest} {figures : Bool} {jobs : List DocumentJob} {job : DocumentJob}

theorem names_iff_of_given (named : ∃ name, Gives request.fileName name) {name : Text} :
    request.Names name ↔ Gives request.fileName name := by
  constructor
  · intro found
    cases found with
    | given _ given => exact given
    | numbered slug number unnamed _ _ _ =>
        rcases named with ⟨other, given⟩
        exact absurd given (unnamed other)
  · exact .given name

/-- What a draft has to hold for its job in one format to be the one that an element asks for. -/
theorem describes_job_iff [Pattern.Sizes] (named : ∃ name, Gives request.fileName name)
    {draft : Draft} {typeOfFile : Option Text} {format : OutputFormat} :
    (request.toItem typeOfFile).Describes figures
        (draft.job (request.implicitFigures.getD figures) format) ↔
      AsksFor typeOfFile format ∧
        ∀ condition ≠ .fileType, request.Settles draft condition := by
  constructor
  · intro described
    refine ⟨described.format, ?_⟩
    intro condition other
    cases condition with
    | owner => exact described.owner
    | markdown => exact described.markdown
    | fileType => exact absurd rfl other
    | fileName =>
        exact ⟨(names_iff_of_given named).mpr described.fileName.1, described.fileName.2⟩
    | labelPattern => exact described.labelPattern
  · rintro ⟨given, settled⟩
    have fileName := settled .fileName (by simp)
    exact {
      owner := settled .owner (by simp)
      fileName := ⟨(names_iff_of_given named).mp fileName.1, fileName.2⟩
      format := given
      markdown := settled .markdown (by simp)
      labelPattern := settled .labelPattern (by simp)
      implicitFigures := rfl }

/-- A job that an element asks for is that of a draft for the request. -/
theorem exists_draft_of_describes [Pattern.Sizes] {typeOfFile : Option Text} (type : FileType)
    (described : (request.toItem typeOfFile).Describes figures job) :
    ∃ draft : Draft, draft.fileType = type ∧
      job = draft.job (request.implicitFigures.getD figures) job.format := by
  refine ⟨⟨job.owner, job.markdown, type, job.fileName, job.labelPattern⟩, rfl, ?_⟩
  have same := described.implicitFigures
  cases job
  cases same
  rfl

/-- A batch that asks for the formats of a draft gives the jobs of the draft. -/
theorem validateAll_toItem [Pattern.Sizes] (named : ∃ name, Gives request.fileName name)
    {draft : Draft} (settled : ∀ condition ≠ .fileType, request.Settles draft condition)
    {types : List (Option Text)} (more : types ≠ [])
    (formats : List.Forall₂ AsksFor types draft.fileType.formats) :
    BatchItem.validateAll (types.map request.toItem) figures =
      .ok (draft.jobs (request.implicitFigures.getD figures)) := by
  rw [BatchItem.validateAll_eq_ok_iff, Draft.jobs_eq_map]
  refine ⟨by simpa using more, ?_⟩
  rw [List.forall₂_map_left_iff, List.forall₂_map_right_iff]
  apply formats.imp
  intro typeOfFile format given
  exact BatchItem.validate_eq_ok_iff.mpr ((describes_job_iff named).mpr ⟨given, settled⟩)

/-- A format is asked for by its name. -/
theorem asksFor_name_iff {asked format : OutputFormat} :
    AsksFor (some asked.name) format ↔ format = asked := by
  have itself : ∀ asked : OutputFormat, AsksFor (some asked.name) asked := by
    intro asked
    cases asked <;> exact ⟨_, rfl, by decide, by decide⟩
  constructor
  · intro given
    have same : format.name = asked.name := given.unique (itself asked)
    revert same
    cases asked <;> cases format <;> decide
  · rintro rfl
    exact itself format

/-- A file type other than all formats stands for itself. -/
theorem forall₂_asksFor_of_single {typeOfFile : Option Text} {type : FileType}
    (single : ¬Gives typeOfFile FileType.all.name) (given : Gives typeOfFile type.name) :
    List.Forall₂ AsksFor [typeOfFile] type.formats := by
  cases type with
  | pdf => exact .cons given .nil
  | tex => exact .cons given .nil
  | all => exact absurd given single

/-- All formats are asked for by the name of each. -/
theorem forall₂_asksFor_of_all {typeOfFile : Option Text} {type : FileType}
    (all : Gives typeOfFile FileType.all.name) (given : Gives typeOfFile type.name) :
    List.Forall₂ AsksFor [some OutputFormat.pdf.name, some OutputFormat.tex.name]
      type.formats := by
  have same := given.unique all
  cases type with
  | pdf => cases same
  | tex => cases same
  | all => exact .cons (asksFor_name_iff.mpr rfl) (.cons (asksFor_name_iff.mpr rfl) .nil)

/-- A request agrees with a batch whose file types stand for the formats of the request. -/
theorem validate_eq_ok_iff_of_types [Pattern.Sizes] (named : ∃ name, Gives request.fileName name)
    {types : List (Option Text)} (more : types ≠ [])
    (formats : ∀ type : FileType, Gives request.typeOfFile type.name →
      List.Forall₂ AsksFor types type.formats)
    (known : ∀ typeOfFile ∈ types, ∀ format, AsksFor typeOfFile format →
      ∃ type : FileType, Gives request.typeOfFile type.name) :
    request.validate figures = .ok jobs ↔
      BatchItem.validateAll (types.map request.toItem) figures = .ok jobs := by
  have onward {draft : Draft} (settled : ∀ condition, request.Settles draft condition) :
      BatchItem.validateAll (types.map request.toItem) figures =
        .ok (draft.jobs (request.implicitFigures.getD figures)) :=
    validateAll_toItem named (fun condition _ => settled condition) more
      (formats _ (settled .fileType))
  constructor
  · intro accepted
    rcases validate_eq_ok_iff.mp accepted with ⟨draft, settled, rfl⟩
    exact onward settled
  · intro accepted
    rcases List.exists_cons_of_ne_nil more with ⟨first, later, rfl⟩
    rcases BatchItem.validateAll_eq_ok_iff.mp accepted with ⟨-, each⟩
    rcases List.forall₂_cons_left_iff.mp each with ⟨job, rest, valid, -, rfl⟩
    have described := BatchItem.validate_eq_ok_iff.mp valid
    rcases known first (List.mem_cons_self ..) job.format described.format with ⟨type, given⟩
    rcases exists_draft_of_describes type described with ⟨draft, rfl, told⟩
    rw [told] at described
    have others := ((describes_job_iff named).mp described).2
    have settled : ∀ condition, request.Settles draft condition := by
      intro condition
      by_cases isType : condition = .fileType
      · subst isType
        exact given
      · exact others condition isType
    have same := Except.ok.inj (accepted.symm.trans (onward settled))
    exact validate_eq_ok_iff.mpr ⟨draft, settled, same⟩

/-- A request for one document that names its file is accepted just if the batch of its formats is,
and both give the same jobs. -/
theorem validate_agrees_with_batch [Pattern.Sizes] (named : ∃ name, Gives request.fileName name) :
    (¬Gives request.typeOfFile FileType.all.name → ∀ jobs,
        (request.validate figures = .ok jobs ↔
          BatchItem.validateAll [request.toItem request.typeOfFile] figures = .ok jobs) ∧
        (request.validate figures = .ok jobs → ∃ job, jobs = [job])) ∧
      (Gives request.typeOfFile FileType.all.name → ∀ jobs,
        (request.validate figures = .ok jobs ↔
          BatchItem.validateAll [request.toItem (some OutputFormat.pdf.name),
            request.toItem (some OutputFormat.tex.name)] figures = .ok jobs) ∧
        (request.validate figures = .ok jobs → ∃ document source, jobs = [document, source] ∧
          document.format = .pdf ∧ source.format = .tex)) := by
  constructor
  · intro single jobs
    have known : ∀ typeOfFile ∈ [request.typeOfFile], ∀ format, AsksFor typeOfFile format →
        ∃ type : FileType, Gives request.typeOfFile type.name := by
      intro typeOfFile member format asked
      rw [List.mem_singleton.mp member] at asked
      cases format with
      | pdf => exact ⟨.pdf, asked⟩
      | tex => exact ⟨.tex, asked⟩
    have agrees : request.validate figures = .ok jobs ↔
        BatchItem.validateAll [request.toItem request.typeOfFile] figures = .ok jobs :=
      validate_eq_ok_iff_of_types named (by simp) (fun _ => forall₂_asksFor_of_single single) known
    refine ⟨agrees, ?_⟩
    intro accepted
    rcases BatchItem.validateAll_eq_ok_iff.mp (agrees.mp accepted) with ⟨-, each⟩
    rcases List.forall₂_cons_left_iff.mp each with ⟨job, rest, -, nothing, rfl⟩
    rw [List.forall₂_nil_left_iff.mp nothing]
    exact ⟨job, rfl⟩
  · intro all jobs
    have agrees : request.validate figures = .ok jobs ↔
        BatchItem.validateAll [request.toItem (some OutputFormat.pdf.name),
          request.toItem (some OutputFormat.tex.name)] figures = .ok jobs :=
      validate_eq_ok_iff_of_types named (by simp) (fun _ => forall₂_asksFor_of_all all)
        fun _ _ _ _ => ⟨.all, all⟩
    refine ⟨agrees, ?_⟩
    intro accepted
    rcases BatchItem.validateAll_eq_ok_iff.mp (agrees.mp accepted) with ⟨-, each⟩
    rcases List.forall₂_cons_left_iff.mp each with ⟨document, rest, first, others, rfl⟩
    rcases List.forall₂_cons_left_iff.mp others with ⟨source, rest, second, nothing, rfl⟩
    rw [List.forall₂_nil_left_iff.mp nothing]
    have isDocument := (BatchItem.validate_eq_ok_iff.mp first).format
    have isSource := (BatchItem.validate_eq_ok_iff.mp second).format
    exact ⟨document, source, rfl, asksFor_name_iff.mp isDocument, asksFor_name_iff.mp isSource⟩

/-- A request that has a slug and a number next to its file name. -/
def numbered (typeOfFile : Text) : SingleRequest where
  userId := some " u ".toList
  markdown := some "  # Hi".toList
  fileName := some " a. ".toList
  moduleSlug := some "waves".toList
  setNumber := some (.number 3)
  typeOfFile := some typeOfFile
  implicitFigures := none
  labelPattern := none

/-- Asked for in all formats it is two elements of a batch, asked for as its source it is one. -/
theorem validate_agrees_with_batch_numbered :
    let job (format : OutputFormat) : DocumentJob :=
      ⟨['u'], ['a', '.'], format, "  # Hi".toList, true, none⟩
    BatchItem.validateAll [(numbered " ALL ".toList).toItem (some OutputFormat.pdf.name),
        (numbered " ALL ".toList).toItem (some OutputFormat.tex.name)] true =
          .ok [job .pdf, job .tex] ∧
      BatchItem.validateAll [(numbered " TEX ".toList).toItem (some " TEX ".toList)] true =
        .ok [job .tex] := by
  intro job
  have gives (typeOfFile : Text) : ∃ name, Gives (numbered typeOfFile).fileName name :=
    ⟨['a', '.'], _, rfl, by decide, by decide⟩
  constructor
  · have all : Gives (numbered " ALL ".toList).typeOfFile FileType.all.name :=
      ⟨_, rfl, by decide, by decide⟩
    exact (((validate_agrees_with_batch (gives _)).2 all _).1).mp rfl
  · have single : ¬Gives (numbered " TEX ".toList).typeOfFile FileType.all.name := by
      rintro ⟨_, ⟨⟩, same, _⟩
      revert same
      decide
    exact (((validate_agrees_with_batch (gives _)).1 single _).1).mp rfl

end SingleRequest

end Typeset
