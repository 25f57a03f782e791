import Typeset.Proofs.Convert.Batch
import Typeset.Proofs.Diagnosis.Attribution
import Typeset.Service

/-!
# Answers of the service

A payload is answered in one of three ways.  If it is refused, then nothing else has happened.  If
the directories of the engine can be made and every document is uploaded, then the answer lists the
documents in order.  Everything else is a failure, and the answer names a section if and only if it
was the engine that failed.

`Contract` says this of what has become of the validation, so that it serves both kinds of
payloads.  Which of the ways is taken is decided by `UploadsAll` and `FailsAt`, one of which holds
of every list of documents, and both of which determine the run of the batch.
-/

namespace Typeset

open Json (Value)

/-- The member of an object with a name, if there is one. -/
def Json.Value.member? (name : Text) : Value → Option Value
  | .object members => members.lookup name
  | _ => none

/-- How a document is listed that is stored at an address. -/
def Response.entry (job : DocumentJob) (url : Text) : Value :=
  .object
    [("file_name".toList, .text job.fileName), ("format".toList, .text job.format.name),
      ("key".toList, .text job.storageKey), ("url".toList, .text url)]

theorem Json.Value.ofText?_eq_null_iff {text : Option Text} :
    Value.ofText? text = .null ↔ text = none := by
  cases text with
  | none => simp [Value.ofText?]
  | some text => simp [Value.ofText?]

theorem ConvertError.eq_generation_of_diagnosis? {error : ConvertError} {diagnosis : Diagnosis}
    (diagnosed : error.diagnosis? = some diagnosis) :
    ∃ fileName, error = .generation fileName diagnosis := by
  cases error with
  | generation fileName found =>
      cases diagnosed
      exact ⟨fileName, rfl⟩
  | storage fileName key source => cases diagnosed
  | scratch directory source => cases diagnosed
  | environment source => cases diagnosed
  | configuration source => cases diagnosed

theorem Response.body_failed_of_none {error : ConvertError} (unknown : error.diagnosis? = none) :
    (failed error).body = .object [("error".toList, .text error.message)] := by
  simp only [failed, unknown]

theorem Response.section_failed_generation (fileName : Text) (diagnosis : Diagnosis) :
    (failed (.generation fileName diagnosis)).body.member? "section".toList =
      some (.ofText? diagnosis.sectionLabel?) :=
  rfl

namespace Converter

/-- The directories of the engine can be made, and the files are then `prepared`. -/
def Prepares (converter : Converter) (world : World) (prepared : Files) : Prop :=
  converter.configuration.environment.prepare world.files = (.ok (), prepared)

/-- The world in which the first document of a batch is converted. -/
def begun (converter : Converter) (jobs : List DocumentJob) (world : World) (prepared : Files) :
    World :=
  { world with
    files := prepared
    events := world.events ++ converter.recorded [.batchStart jobs.length] }

/-- The engine rejects a document with an error when it is asked for it the first time. -/
def Rejects (converter : Converter) (job : DocumentJob) (world : World) (rawError : Text) : Prop :=
  ∃ scratch reserved transcript rejected,
    converter.reserve job world.files = .ok (scratch, reserved) ∧
      converter.engine.generate world.calls (converter.request job scratch) reserved =
        (.failure rawError transcript, rejected)

/-- What a response says about the failure of a document. -/
structure TellsFailure (converter : Converter) (jobs : List DocumentJob) (begun : World)
    (position : Nat) (uploads : List UploadedArtifact) (error : ConvertError)
    (response : Response) : Prop where
  status : response.status = 500
  message : response.body.member? "error".toList = some (.text error.message)
  section_iff : (response.body.member? "section".toList).isSome = true ↔
    ∃ fileName diagnosis, error = .generation fileName diagnosis
  of_generation : ∀ fileName diagnosis, error = .generation fileName diagnosis →
    response.body.member? "section".toList = some (.ofText? diagnosis.sectionLabel?) ∧
      ∃ job middle rawError, jobs[position]? = some job ∧
        converter.UploadsAll (jobs.take position) begun uploads middle ∧
        converter.Rejects job middle rawError ∧
        (response.body.member? "section".toList = some .null ↔
          ¬LineReference.OccursIn rawError)

/-- What a validated payload is answered with, and what has happened until then. -/
structure Contract (converter : Converter)
    (validated : Except ValidationError (List DocumentJob)) (world : World)
    (response : Response) (after : World) : Prop where
  status : response.status = 200 ∨ response.status = 400 ∨ response.status = 500
  refused_iff : response.status = 400 ↔ ∃ error, validated = .error error
  of_refused : ∀ error, validated = .error error →
    response.body = .object [("error".toList, .text error.message)] ∧ after = world
  complete_iff : response.status = 200 ↔
    ∃ jobs prepared uploads last, validated = .ok jobs ∧ converter.Prepares world prepared ∧
      converter.UploadsAll jobs (converter.begun jobs world prepared) uploads last
  of_complete : ∀ jobs prepared uploads last, validated = .ok jobs →
    converter.Prepares world prepared →
    converter.UploadsAll jobs (converter.begun jobs world prepared) uploads last →
      response.body = .object
        [("files".toList, .list (List.zipWith Response.entry jobs (uploads.map (·.url)))),
          ("url".toList, .ofText?
            (((jobs.zip (uploads.map (·.url))).find? (·.1.format == .pdf)).map (·.2)))]
  failed_iff : response.status = 500 ↔ ∃ jobs, validated = .ok jobs ∧
    ((∃ source left,
        converter.configuration.environment.prepare world.files = (.error source, left)) ∨
      ∃ prepared position uploads error last, converter.Prepares world prepared ∧
        converter.FailsAt jobs (converter.begun jobs world prepared) position uploads error last)
  of_unprepared : ∀ jobs source left, validated = .ok jobs →
    converter.configuration.environment.prepare world.files = (.error source, left) →
      response.status = 500 ∧
      response.body =
        .object [("error".toList, .text (ConvertError.environment source).message)] ∧
      after = { world with files := left }
  of_stopped : ∀ jobs prepared position uploads error last, validated = .ok jobs →
    converter.Prepares world prepared →
    converter.FailsAt jobs (converter.begun jobs world prepared) position uploads error last →
      converter.TellsFailure jobs (converter.begun jobs world prepared) position uploads error
        response

variable {converter : Converter} {jobs : List DocumentJob} {world : World}

theorem run_prepare (converter : Converter) (world : World) :
    converter.prepare.run world =
      ((converter.configuration.environment.prepare world.files).1.mapError .environment,
        { world with files := (converter.configuration.environment.prepare world.files).2 }) :=
  rfl

theorem run_handleJobs_of_unprepared {source : OsError} {left : Files}
    (refused : converter.configuration.environment.prepare world.files = (.error source, left)) :
    (converter.handleJobs jobs).run world =
      (.failed (.environment source), { world with files := left }) := by
  have ran := converter.run_prepare world
  rw [refused] at ran
  rw [handleJobs, Run.run_bind_of_run ran]
  rfl

theorem run_handleJobs_of_run {prepared : Files} {uploads : List UploadedArtifact}
    {error : Option ConvertError} {last : World} (ready : converter.Prepares world prepared)
    (ran : (converter.convertAll jobs).run (converter.begun jobs world prepared) =
      ((uploads, error), last)) :
    (converter.handleJobs jobs).run world =
      (match error with
        | none => .ok ⟨uploads⟩
        | some error => .failed error,
        { last with
          events := last.events ++
            converter.recorded [.batchComplete jobs.length uploads.length] }) := by
  have made := converter.run_prepare world
  rw [ready] at made
  have converted : (converter.convertBatch jobs).run { world with files := prepared } = _ :=
    converter.run_convertBatch_of_run ran
  rw [handleJobs, Run.run_bind_of_run made]
  simp only [Except.mapError]
  rw [Run.run_bind_of_run converted]
  cases error with
  | none => rfl
  | some error => rfl

theorem UploadsAll.map_ofUpload_eq {begun last : World} {uploads : List UploadedArtifact}
    (all : converter.UploadsAll jobs begun uploads last) :
    uploads.map Response.ofUpload =
      List.zipWith Response.entry jobs (uploads.map (·.url)) := by
  induction all with
  | nil world => rfl
  | cons first rest ih =>
      rw [List.map_cons, List.map_cons, List.zipWith_cons_cons, ih]
      congr 1
      rw [Response.ofUpload, first.fileName, first.format, first.key]
      rfl

theorem UploadsAll.pdfUrl?_eq {begun last : World} {uploads : List UploadedArtifact}
    (all : converter.UploadsAll jobs begun uploads last) :
    BatchReport.pdfUrl? ⟨uploads⟩ =
      ((jobs.zip (uploads.map (·.url))).find? (·.1.format == .pdf)).map (·.2) := by
  unfold BatchReport.pdfUrl?
  induction all with
  | nil world => rfl
  | @cons job jobs world middle after artifact uploads first rest ih =>
      rw [List.map_cons, List.zip_cons_cons, List.find?_cons, List.find?_cons, first.format]
      cases job.format == OutputFormat.pdf with
      | true => rfl
      | false => exact ih

/-- Only the engine leads to a diagnosis, and the diagnosis is one of its error. -/
theorem exists_rejects_of_generation {job : DocumentJob} {after : World} {fileName : Text}
    {diagnosis : Diagnosis}
    (failed : (converter.convert job).run world =
      (.error (.generation fileName diagnosis), after)) :
    ∃ rawError, converter.Rejects job world rawError ∧
      (diagnosis.sectionLabel? = none ↔ ¬LineReference.OccursIn rawError) := by
  have conversion := conversion_convert converter job world
  rw [failed] at conversion
  cases conversion with
  | notGenerated scratch reserved rejected retried rawError transcript second made answered =>
      exact ⟨rawError, ⟨scratch, reserved, transcript, rejected, made, answered⟩,
        Diagnosis.sectionLabel?_eq_none_iff⟩

/-- The failure of a document is told with the section if there is a diagnosis, and else without. -/
theorem FailsAt.tellsFailure {begun last : World} {position : Nat}
    {uploads : List UploadedArtifact} {error : ConvertError}
    (fails : converter.FailsAt jobs begun position uploads error last) :
    converter.TellsFailure jobs begun position uploads error (.failed error) := by
  cases diagnosed : error.diagnosis? with
  | none =>
      have body := Response.body_failed_of_none diagnosed
      have otherwise : ∀ fileName diagnosis, error ≠ .generation fileName diagnosis := by
        rintro fileName diagnosis rfl
        cases diagnosed
      refine ⟨rfl, by rw [body]; rfl, ?_, ?_⟩
      · rw [body]
        constructor
        · intro named
          cases named
        · rintro ⟨fileName, diagnosis, generation⟩
          exact absurd generation (otherwise fileName diagnosis)
      · intro fileName diagnosis generation
        exact absurd generation (otherwise fileName diagnosis)
  | some diagnosis =>
      rcases ConvertError.eq_generation_of_diagnosis? diagnosed with ⟨fileName, rfl⟩
      rcases fails with ⟨job, middle, found, before, failed⟩
      rcases exists_rejects_of_generation failed with ⟨rawError, rejects, label⟩
      refine ⟨rfl, rfl, ⟨fun _ => ⟨fileName, diagnosis, rfl⟩, fun _ => rfl⟩, ?_⟩
      rintro fileName diagnosis ⟨⟩
      have named := Response.section_failed_generation fileName diagnosis
      refine ⟨named, job, middle, rawError, found, before, rejects, ?_⟩
      rw [named, Option.some.injEq, Value.ofText?_eq_null_iff]
      exact label

/-- An accepted payload is not answered as a refused one. -/
theorem refused_iff_of_ne {response : Response} (other : response.status ≠ 400) :
    response.status = 400 ↔
      ∃ error : ValidationError, (.ok jobs : Except ValidationError (List DocumentJob)) =
        .error error := by
  constructor
  · intro refused
    exact absurd refused other
  · rintro ⟨error, ⟨⟩⟩

theorem contract_of_refused (error : ValidationError) (world : World) :
    converter.Contract (.error error) world (.invalid error) world where
  status := .inr (.inl rfl)
  refused_iff := ⟨fun _ => ⟨error, rfl⟩, fun _ => rfl⟩
  of_refused := by
    rintro error ⟨⟩
    exact ⟨rfl, rfl⟩
  complete_iff := by
    constructor
    · intro answered
      cases answered
    · rintro ⟨jobs, prepared, uploads, last, ⟨⟩, _⟩
  of_complete := by
    rintro jobs prepared uploads last ⟨⟩
  failed_iff := by
    constructor
    · intro answered
      cases answered
    · rintro ⟨jobs, ⟨⟩, _⟩
  of_unprepared := by
    rintro jobs source left ⟨⟩
  of_stopped := by
    rintro jobs prepared position uploads error last ⟨⟩

theorem contract_of_unprepared {source : OsError} {left : Files}
    (refused : converter.configuration.environment.prepare world.files = (.error source, left)) :
    converter.Contract (.ok jobs) world (.failed (.environment source))
      { world with files := left } where
  status := .inr (.inr rfl)
  refused_iff := refused_iff_of_ne nofun
  of_refused := by
    rintro error ⟨⟩
  complete_iff := by
    constructor
    · intro answered
      cases answered
    · rintro ⟨jobs, prepared, uploads, last, -, ready, -⟩
      cases refused.symm.trans ready
  of_complete := by
    intro jobs prepared uploads last validated ready
    cases refused.symm.trans ready
  failed_iff := ⟨fun _ => ⟨jobs, rfl, .inl ⟨source, left, refused⟩⟩, fun _ => rfl⟩
  of_unprepared := by
    intro jobs other found validated failed
    cases refused.symm.trans failed
    exact ⟨rfl, rfl, rfl⟩
  of_stopped := by
    intro jobs prepared position uploads error last validated ready
    cases refused.symm.trans ready

theorem contract_of_uploadsAll {prepared : Files} {uploads : List UploadedArtifact}
    {last after : World} (ready : converter.Prepares world prepared)
    (all : converter.UploadsAll jobs (converter.begun jobs world prepared) uploads last) :
    converter.Contract (.ok jobs) world (.ok ⟨uploads⟩) after where
  status := .inl rfl
  refused_iff := refused_iff_of_ne nofun
  of_refused := by
    rintro error ⟨⟩
  complete_iff :=
    ⟨fun _ => ⟨jobs, prepared, uploads, last, rfl, ready, all⟩, fun _ => rfl⟩
  of_complete := by
    rintro jobs found others reached ⟨⟩ made othersAll
    cases ready.symm.trans made
    cases all.run_eq.symm.trans othersAll.run_eq
    rw [Response.ok, all.map_ofUpload_eq, all.pdfUrl?_eq]
  failed_iff := by
    constructor
    · intro answered
      cases answered
    · rintro ⟨jobs, ⟨⟩, unprepared | stopped⟩
      · rcases unprepared with ⟨source, left, refused⟩
        cases ready.symm.trans refused
      · rcases stopped with ⟨found, position, others, error, reached, made, fails⟩
        cases ready.symm.trans made
        cases all.run_eq.symm.trans fails.run_eq
  of_unprepared := by
    intro jobs source left validated refused
    cases ready.symm.trans refused
  of_stopped := by
    rintro jobs found position others error reached ⟨⟩ made fails
    cases ready.symm.trans made
    cases all.run_eq.symm.trans fails.run_eq

theorem contract_of_failsAt {prepared : Files} {position : Nat}
    {uploads : List UploadedArtifact} {error : ConvertError} {last after : World}
    (ready : converter.Prepares world prepared)
    (fails : converter.FailsAt jobs (converter.begun jobs world prepared) position uploads error
      last) :
    converter.Contract (.ok jobs) world (.failed error) after where
  status := .inr (.inr rfl)
  refused_iff := refused_iff_of_ne nofun
  of_refused := by
    rintro error ⟨⟩
  complete_iff := by
    constructor
    · intro answered
      cases answered
    · rintro ⟨jobs, found, others, reached, ⟨⟩, made, all⟩
      cases ready.symm.trans made
      cases fails.run_eq.symm.trans all.run_eq
  of_complete := by
    rintro jobs found others reached ⟨⟩ made all
    cases ready.symm.trans made
    cases fails.run_eq.symm.trans all.run_eq
  failed_iff :=
    ⟨fun _ => ⟨jobs, rfl, .inr ⟨prepared, position, uploads, error, last, ready, fails⟩⟩,
      fun _ => rfl⟩
  of_unprepared := by
    intro jobs source left validated refused
    cases ready.symm.trans refused
  of_stopped := by
    rintro jobs found other others otherError reached ⟨⟩ made otherFails
    cases ready.symm.trans made
    cases fails.run_eq.symm.trans otherFails.run_eq
    exact otherFails.tellsFailure

variable (converter)

theorem contract_handleValidated (validated : Except ValidationError (List DocumentJob))
    (world : World) :
    converter.Contract validated world ((converter.handleValidated validated).run world).1
      ((converter.handleValidated validated).run world).2 := by
  cases validated with
  | error error => exact contract_of_refused error world
  | ok jobs =>
      rcases made : converter.configuration.environment.prepare world.files with ⟨result, prepared⟩
      cases result with
      | error source =>
          rw [handleValidated, run_handleJobs_of_unprepared made]
          exact contract_of_unprepared made
      | ok done =>
          rcases converter.convertAll_uploadsAll_or_failsAt jobs
            (converter.begun jobs world prepared) with
            ⟨uploads, last, ran, all⟩ | ⟨position, uploads, error, last, ran, fails⟩
          · rw [handleValidated, run_handleJobs_of_run made ran]
            exact contract_of_uploadsAll made all
          · rw [handleValidated, run_handleJobs_of_run made ran]
            exact contract_of_failsAt made fails

/-- Both kinds of payloads are answered as the contract says, given what their validation finds. -/
theorem handle_contract [Pattern.Sizes] (payload : Text) (world : World) :
    let figures := converter.configuration.profile.implicitFigures
    converter.Contract (SingleRequest.jobsOfPayload payload figures) world
        ((converter.handleSingle payload).run world).1
        ((converter.handleSingle payload).run world).2 ∧
      converter.Contract (BatchItem.jobsOfPayload payload figures) world
        ((converter.handleBatch payload).run world).1
        ((converter.handleBatch payload).run world).2 := by
  intro figures
  exact ⟨converter.contract_handleValidated _ world, converter.contract_handleValidated _ world⟩

end Converter

end Typeset
