import Typeset.Proofs.Service.Answers

/-!
# Observers do not influence runs

Who watches a run and whether debugging values are shown decides only what is told.  Two runs that
differ in nothing else ask the engine and the storage the same, leave the same files and have the
same answer, but for the trailer in the message of a failure that has been placed in a section.

The two runs are carried along side by side.  Their worlds may differ in the events that have been
reported, and no step looks at these; a document takes the same of the four ways in both.  The
random parts of scratch names are the same in both runs, as an engine sees these names and could
answer differently.
-/

namespace Typeset

/-- Who watches a run, and whether debugging values are shown. -/
structure Observation where
  observer : Option Observer
  showDebug : Bool

/-- The converter with nothing changed but who watches and whether debugging values are shown. -/
def Converter.under (converter : Converter) (observation : Observation) : Converter :=
  { converter with
    configuration :=
      { converter.configuration with
        observer := observation.observer
        showDebug := observation.showDebug } }

/-- The same files have been left, and the same has been asked of the engine and the storage. -/
structure World.SameDeeds (first second : World) : Prop where
  files : first.files = second.files
  calls : first.calls = second.calls

/-- A message with a debug trailer on the lines before it, if debugging values are shown. -/
def Observation.message (observation : Observation) (trailer plain : Text) : Text :=
  if observation.showDebug then trailer ++ '\n' :: plain else plain

variable {first second : Observation}

/-- Two errors that tell of the same failure under two observations. -/
inductive ConvertError.SameFailure (first second : Observation) :
    ConvertError → ConvertError → Prop where
  | unplaced (error : ConvertError)
      (elsewhere : ∀ fileName diagnostic, error ≠ .generation fileName (.attributed diagnostic)) :
      SameFailure first second error error
  | placed (firstDiagnostic secondDiagnostic : Diagnostic) (fileName : Text)
      (reference : LineReference) (index : LabelIndex) (transcript plain : Text)
      (label : firstDiagnostic.sectionLabel = secondDiagnostic.sectionLabel)
      (firstMessage : (Diagnosis.attributed firstDiagnostic).message =
        first.message (Diagnosis.trailer reference index transcript) plain)
      (secondMessage : (Diagnosis.attributed secondDiagnostic).message =
        second.message (Diagnosis.trailer reference index transcript) plain) :
      SameFailure first second (.generation fileName (.attributed firstDiagnostic))
        (.generation fileName (.attributed secondDiagnostic))

/-- Two results that agree under two observations. -/
inductive SameResult (first second : Observation) {Result : Type} :
    Except ConvertError Result → Except ConvertError Result → Prop where
  | ok (result : Result) : SameResult first second (.ok result) (.ok result)
  | error {firstError secondError : ConvertError}
      (same : ConvertError.SameFailure first second firstError secondError) :
      SameResult first second (.error firstError) (.error secondError)

/-- What of the loop over documents agrees under two observations: the uploads, and the error, if
there is one. -/
inductive SameUploads (first second : Observation) :
    List UploadedArtifact × Option ConvertError → List UploadedArtifact × Option ConvertError →
      Prop where
  | all (uploads : List UploadedArtifact) :
      SameUploads first second (uploads, none) (uploads, none)
  | stopped {firstError secondError : ConvertError} (uploads : List UploadedArtifact)
      (same : ConvertError.SameFailure first second firstError secondError) :
      SameUploads first second (uploads, some firstError) (uploads, some secondError)

/-- Two responses that agree under two observations. -/
inductive Response.SameAnswer (first second : Observation) : Response → Response → Prop where
  | complete (report : BatchReport) : SameAnswer first second (.ok report) (.ok report)
  | refused (error : ValidationError) : SameAnswer first second (.invalid error) (.invalid error)
  | failed {firstError secondError : ConvertError}
      (same : ConvertError.SameFailure first second firstError secondError) :
      SameAnswer first second (.failed firstError) (.failed secondError)

/-- Two runs that agree under two observations.  A failure has been placed if its answer names the
section in words; only then do the bodies differ, and only in the trailer of the message. -/
structure SameRun (first second : Observation) (ran other : Response × World) : Prop where
  deeds : ran.2.SameDeeds other.2
  answer : Response.SameAnswer first second ran.1 other.1
  status : ran.1.status = other.1.status
  label : ran.1.body.member? "section".toList = other.1.body.member? "section".toList
  settled : ran.1.status = 200 ∨ ran.1.status = 400 → ran.1.body = other.1.body
  unplaced : (∀ label, ran.1.body.member? "section".toList ≠ some (.text label)) →
    ran.1.body = other.1.body
  placed : ∀ label, ran.1.body.member? "section".toList = some (.text label) →
    ∃ reference index transcript plain,
      ran.1.body.member? "error".toList = some (.text
          (first.message (Diagnosis.trailer reference index transcript) plain)) ∧
        other.1.body.member? "error".toList = some (.text
          (second.message (Diagnosis.trailer reference index transcript) plain))

/-- The answer to a failure names a section in words only if the failure has been placed. -/
theorem Response.section_failed_ne_text {error : ConvertError}
    (elsewhere : ∀ fileName diagnostic, error ≠ .generation fileName (.attributed diagnostic))
    (label : Text) : (failed error).body.member? "section".toList ≠ some (.text label) := by
  cases diagnosed : error.diagnosis? with
  | none =>
      rw [body_failed_of_none diagnosed]
      rintro ⟨⟩
  | some diagnosis =>
      rcases ConvertError.eq_generation_of_diagnosis? diagnosed with ⟨fileName, rfl⟩
      rw [section_failed_generation]
      cases diagnosis with
      | attributed diagnostic => exact absurd rfl (elsewhere fileName diagnostic)
      | unattributed rawError => rintro ⟨⟩

theorem Response.error_failed_generation (fileName : Text) (diagnosis : Diagnosis) :
    (failed (.generation fileName diagnosis)).body.member? "error".toList =
      some (.text diagnosis.message) :=
  rfl

theorem Response.SameAnswer.sameRun {response other : Response} {after otherAfter : World}
    (answer : SameAnswer first second response other) (deeds : after.SameDeeds otherAfter) :
    SameRun first second (response, after) (other, otherAfter) := by
  cases answer with
  | complete report =>
      refine ⟨deeds, .complete report, rfl, rfl, fun _ => rfl, fun _ => rfl, ?_⟩
      rintro label ⟨⟩
  | refused error =>
      refine ⟨deeds, .refused error, rfl, rfl, fun _ => rfl, fun _ => rfl, ?_⟩
      rintro label ⟨⟩
  | failed same =>
      cases same with
      | unplaced _ elsewhere =>
          refine ⟨deeds, .failed (.unplaced _ elsewhere), rfl, rfl, fun _ => rfl,
            fun _ => rfl, ?_⟩
          intro label named
          exact absurd named (section_failed_ne_text elsewhere label)
      | placed firstDiagnostic secondDiagnostic fileName reference index transcript plain label
          firstMessage secondMessage =>
          refine ⟨deeds, .failed (.placed firstDiagnostic secondDiagnostic fileName reference index
            transcript plain label firstMessage secondMessage), rfl, ?_, ?_, ?_, ?_⟩
          · rw [section_failed_generation, section_failed_generation, Diagnosis.sectionLabel?,
              Diagnosis.sectionLabel?, label]
          · rintro (⟨⟨⟩⟩ | ⟨⟨⟩⟩)
          · intro unnamed
            exact absurd (section_failed_generation fileName (.attributed firstDiagnostic))
              (unnamed firstDiagnostic.sectionLabel)
          · intro named told
            refine ⟨reference, index, transcript, plain, ?_, ?_⟩
            · rw [error_failed_generation, firstMessage]
            · rw [error_failed_generation, secondMessage]

namespace Diagnosis

/-- The message for the author, and before it the trailer if one is kept. -/
theorem message_attributed (observation : Observation) (label fragment detail values : Text) :
    message (.attributed
        ⟨label, fragment, detail, if observation.showDebug then some values else none⟩) =
      observation.message values (plainMessage ⟨label, fragment, detail, none⟩) := by
  unfold Observation.message
  cases observation.showDebug with
  | false => rfl
  | true => rfl

/-- Only the trailer of a diagnosis depends on whether debugging values are shown. -/
theorem exists_eq_attributed {rawError : Text} {reference : LineReference}
    (found : LineReference.find? rawError = some reference) (transcript : Text)
    (pattern : Pattern) :
    ∃ label fragment detail index, ∀ showDebug,
      diagnose rawError transcript pattern showDebug = .attributed
        ⟨label, fragment, detail,
          if showDebug then some (trailer reference index transcript) else none⟩ := by
  unfold diagnose
  rw [found]
  exact ⟨_, _, _, _, fun showDebug => rfl⟩

/-- A diagnosis says the same under both observations, apart from its trailer. -/
theorem sameFailure_diagnose (fileName rawError transcript : Text) (pattern : Pattern) :
    ConvertError.SameFailure first second
      (.generation fileName (diagnose rawError transcript pattern first.showDebug))
      (.generation fileName (diagnose rawError transcript pattern second.showDebug)) := by
  cases found : LineReference.find? rawError with
  | none =>
      unfold diagnose
      rw [found]
      refine .unplaced _ ?_
      rintro fileName diagnostic ⟨⟩
  | some reference =>
      rcases exists_eq_attributed found transcript pattern with
        ⟨label, fragment, detail, index, eq_attributed⟩
      rw [eq_attributed, eq_attributed]
      exact .placed _ _ fileName reference index transcript
        (plainMessage ⟨label, fragment, detail, none⟩) rfl
        (message_attributed first label fragment detail _)
        (message_attributed second label fragment detail _)

end Diagnosis

namespace Converter

variable (converter : Converter) (first second : Observation)

/-- A document takes the same way under both observations. -/
theorem convert_under (job : DocumentJob) {begun other : World} (same : begun.SameDeeds other) :
    let ran := ((converter.under first).convert job).run begun
    let otherRan := ((converter.under second).convert job).run other
    SameResult first second ran.1 otherRan.1 ∧ ran.2.SameDeeds otherRan.2 := by
  intro ran otherRan
  rcases begun with ⟨files, calls, events⟩
  rcases other with ⟨otherFiles, otherCalls, otherEvents⟩
  obtain ⟨rfl, rfl⟩ := same
  have conversion := conversion_convert (converter.under first) job ⟨files, calls, events⟩
  change Conversion _ job _ ran.1 ran.2 at conversion
  rcases ran with ⟨result, after⟩
  cases conversion with
  | withoutScratch source refused =>
      have again : otherRan = _ := run_convert_of_run (converter.under second) job
        (run_withScratch_of_error (converter.under second) job _ _ refused)
      rw [again]
      exact ⟨.error (.unplaced _ (by rintro fileName diagnostic ⟨⟩)), rfl, rfl⟩
  | notGenerated scratch reserved rejected retried rawError transcript answer made failed
      repeated =>
      have again : otherRan = _ := run_convert_of_reserve (converter.under second) job made
        (run_generateAndUpload_of_failure (converter.under second) job failed repeated)
      rw [again]
      exact ⟨.error (Diagnosis.sameFailure_diagnose ..), rfl, rfl⟩
  | notStored scratch reserved generated left artifact source made accepted refused =>
      have again : otherRan = _ := run_convert_of_reserve (converter.under second) job made
        (run_generateAndUpload_of_success (converter.under second) job accepted refused)
      rw [again]
      exact ⟨.error (.unplaced _ (by rintro fileName diagnostic ⟨⟩)), rfl, rfl⟩
  | uploaded scratch reserved generated left artifact url made accepted kept =>
      have again : otherRan = _ := run_convert_of_reserve (converter.under second) job made
        (run_generateAndUpload_of_success (converter.under second) job accepted kept)
      rw [again]
      exact ⟨.ok _, rfl, rfl⟩

/-- The loop over the documents uploads the same ones and stops at the same one. -/
theorem convertAll_under (jobs : List DocumentJob) {begun other : World}
    (same : begun.SameDeeds other) :
    let ran := ((converter.under first).convertAll jobs).run begun
    let otherRan := ((converter.under second).convertAll jobs).run other
    SameUploads first second ran.1 otherRan.1 ∧ ran.2.SameDeeds otherRan.2 := by
  induction jobs generalizing begun other with
  | nil => exact ⟨.all [], same⟩
  | cons job jobs ih =>
      have converted := converter.convert_under first second job same
      rcases ran : ((converter.under first).convert job).run begun with ⟨result, middle⟩
      rcases otherRan : ((converter.under second).convert job).run other with
        ⟨otherResult, otherMiddle⟩
      rw [ran, otherRan] at converted
      rw [convertAll, convertAll, Run.run_bind_of_run ran, Run.run_bind_of_run otherRan]
      rcases converted with ⟨results, middles⟩
      cases results with
      | error sameFailure => exact ⟨.stopped [] sameFailure, middles⟩
      | ok uploaded =>
          have later := ih middles
          rcases rest : ((converter.under first).convertAll jobs).run middle with
            ⟨⟨uploads, error⟩, last⟩
          rcases otherRest : ((converter.under second).convertAll jobs).run otherMiddle with
            ⟨⟨otherUploads, otherError⟩, otherLast⟩
          rw [rest, otherRest] at later
          rcases later with ⟨sameUploads, lasts⟩
          simp only
          rw [Run.run_bind_of_run rest, Run.run_bind_of_run otherRest]
          cases sameUploads with
          | all uploads => exact ⟨.all _, lasts⟩
          | stopped uploads sameFailure => exact ⟨.stopped _ sameFailure, lasts⟩

/-- Jobs are answered alike, whether the directories of the engine can be made or not. -/
theorem handleJobs_under (jobs : List DocumentJob) {begun other : World}
    (same : begun.SameDeeds other) :
    let ran := ((converter.under first).handleJobs jobs).run begun
    let otherRan := ((converter.under second).handleJobs jobs).run other
    Response.SameAnswer first second ran.1 otherRan.1 ∧ ran.2.SameDeeds otherRan.2 := by
  intro ran otherRan
  rcases made : converter.configuration.environment.prepare begun.files with ⟨result, prepared⟩
  have otherMade := made
  rw [same.files] at otherMade
  cases result with
  | error source =>
      have answered : ran = _ := run_handleJobs_of_unprepared made
      have otherAnswered : otherRan = _ := run_handleJobs_of_unprepared otherMade
      rw [answered, otherAnswered]
      exact ⟨.failed (.unplaced (.environment source) (by rintro fileName diagnostic ⟨⟩)), rfl,
        same.calls⟩
  | ok done =>
      let ready : (converter.under first).Prepares begun prepared := made
      let otherReady : (converter.under second).Prepares other prepared := otherMade
      have started : ((converter.under first).begun jobs begun prepared).SameDeeds
          ((converter.under second).begun jobs other prepared) := ⟨rfl, same.calls⟩
      have converted := converter.convertAll_under first second jobs started
      rcases run : ((converter.under first).convertAll jobs).run
        ((converter.under first).begun jobs begun prepared) with ⟨⟨uploads, error⟩, last⟩
      rcases otherRun : ((converter.under second).convertAll jobs).run
        ((converter.under second).begun jobs other prepared) with
        ⟨⟨otherUploads, otherError⟩, otherLast⟩
      rw [run, otherRun] at converted
      have answered : ran = _ := run_handleJobs_of_run ready run
      have otherAnswered : otherRan = _ := run_handleJobs_of_run otherReady otherRun
      rw [answered, otherAnswered]
      rcases converted with ⟨sameUploads, lasts⟩
      cases sameUploads with
      | all uploads => exact ⟨.complete ⟨uploads⟩, lasts.files, lasts.calls⟩
      | stopped uploads sameFailure => exact ⟨.failed sameFailure, lasts.files, lasts.calls⟩

theorem handleValidated_under (validated : Except ValidationError (List DocumentJob))
    (world : World) :
    let ran := ((converter.under first).handleValidated validated).run world
    let otherRan := ((converter.under second).handleValidated validated).run world
    Response.SameAnswer first second ran.1 otherRan.1 ∧ ran.2.SameDeeds otherRan.2 := by
  cases validated with
  | error error => exact ⟨.refused error, rfl, rfl⟩
  | ok jobs => exact converter.handleJobs_under first second jobs ⟨rfl, rfl⟩

/-- Both kinds of payloads are answered alike under any two observations. -/
theorem handle_under [Pattern.Sizes] (payload : Text) (world : World) :
    SameRun first second (((converter.under first).handleSingle payload).run world)
        (((converter.under second).handleSingle payload).run world) ∧
      SameRun first second (((converter.under first).handleBatch payload).run world)
        (((converter.under second).handleBatch payload).run world) := by
  let figures := converter.configuration.profile.implicitFigures
  have single := converter.handleValidated_under first second
    (SingleRequest.jobsOfPayload payload figures) world
  have batch := converter.handleValidated_under first second
    (BatchItem.jobsOfPayload payload figures) world
  exact ⟨single.1.sameRun single.2, batch.1.sameRun batch.2⟩

end Converter

end Typeset
