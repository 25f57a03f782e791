import Typeset.Convert.Converter
import Typeset.Proofs.Scratch.Reservation

/-!
# The ways of a document

A document takes one of four ways.  It is uploaded, the storage refuses it, the engine rejects it,
or no scratch file can be reserved for it.

Everything that a conversion does is said here once, for each of its functions and then, in
`Conversion`, for each of the four ways: what is asked and with which history, what the answers
have been, which files are left, what is reported and what is returned.  Statements about
conversions are case analyses on `Conversion`.
-/

namespace Typeset

namespace Run

theorem run_bind_of_run {First Second : Type} {first : Run First} {next : First → Run Second}
    {world after : World} {answer : First} (ran : first.run world = (answer, after)) :
    (first >>= next).run world = (next answer).run after := by
  rw [StateT.run_bind, ran]
  rfl

theorem run_get_bind {Result : Type} (next : World → Run Result) (world : World) :
    (get >>= next : Run Result).run world = (next world).run world :=
  rfl

theorem run_set_bind {Result : Type} (after : World) (next : PUnit → Run Result)
    (world : World) : (set after >>= next : Run Result).run world = (next ⟨⟩).run after :=
  rfl

theorem run_generate (engine : Engine) (request : ConversionRequest) (world : World) :
    (generate engine request).run world =
      ((engine.generate world.calls request world.files).1,
        { world with
          files := (engine.generate world.calls request world.files).2
          calls := world.calls ++ [.generate request] }) :=
  rfl

theorem run_upload (storage : Storage) (key : Text) (artifact : Path) (world : World) :
    (upload storage key artifact).run world =
      ((storage.upload world.calls key artifact world.files).1,
        { world with
          files := (storage.upload world.calls key artifact world.files).2
          calls := world.calls ++
            [.upload key artifact (world.files.read artifact).toOption] }) :=
  rfl

end Run

/-- The way of a document, with what is told in the end. -/
inductive DocumentPath where
  | uploaded (url : Text)
  | notStored (message : Text)
  | notGenerated (message : Text)
  | withoutScratch (message : Text)
  deriving DecidableEq, Repr

namespace DocumentPath

/-- What is reported about a document on its way. -/
def events (fileName : Text) : DocumentPath → List Event
  | uploaded url =>
      [.state fileName .generatingToFile, .state fileName .uploading, .state fileName .done,
        .complete fileName url]
  | notStored message =>
      [.state fileName .generatingToFile, .state fileName .uploading, .state fileName .failed,
        .error fileName message]
  | notGenerated message =>
      [.state fileName .generatingToFile, .state fileName .retryingToTranscript,
        .state fileName .localizing, .state fileName .failed, .error fileName message]
  | withoutScratch message =>
      [.state fileName .generatingToFile, .state fileName .failed, .error fileName message]

theorem events_injective (fileName : Text) {first second : DocumentPath}
    (same : first.events fileName = second.events fileName) : first = second := by
  cases first <;> cases second <;> simp_all [events]

end DocumentPath

namespace Converter

variable (converter : Converter) (job : DocumentJob)

/-- What comes of reporting events: the recording observer notes them, nobody else does. -/
def recorded (events : List Event) : List Event :=
  if converter.configuration.observer = some .recording then events else []

/-- Reserves the scratch file for a document. -/
def reserve (files : Files) : Except Scratch.Error (Path × Files) :=
  Scratch.create converter.configuration.scratchDirectory job.owner job.fileName job.format
    converter.stamps files

/-- The request for the text of a document whose generation to a file has failed. -/
def retry (scratch : Path) : ConversionRequest :=
  (converter.request job scratch).forTranscript converter.configuration.profile.transcriptRun

/-- What is said about a failed generation, given the answer to the second request. -/
def diagnosisOf (rawError : Text) (answer : ConversionOutcome) : Diagnosis :=
  Diagnosis.diagnose rawError (transcriptOf answer) (converter.patternFor job)
    converter.configuration.showDebug

/-- The result of a conversion, given the answer of the storage. -/
def uploadResult : Except StorageError Text → Except ConvertError UploadedArtifact
  | .ok url => .ok ⟨job.fileName, job.format, job.storageKey, url⟩
  | .error source => .error (.storage job.fileName job.storageKey source)

/-- What is reported when a conversion has come to its result. -/
def resultEvents : Except ConvertError UploadedArtifact → List Event
  | .ok uploaded => [.state job.fileName .done, .complete job.fileName uploaded.url]
  | .error error => [.state job.fileName .failed, .error job.fileName error.message]

theorem recorded_nil : converter.recorded [] = [] := by
  simp [recorded]

theorem recorded_append (first second : List Event) :
    converter.recorded (first ++ second) =
      converter.recorded first ++ converter.recorded second := by
  unfold recorded
  split <;> simp

theorem recorded_eq_self (recording : converter.configuration.observer = some .recording)
    (events : List Event) : converter.recorded events = events := by
  simp [recorded, recording]

theorem run_report (event : Event) (world : World) :
    (converter.report event).run world =
      ((), { world with events := world.events ++ converter.recorded [event] }) := by
  unfold report Run.report recorded
  cases converter.configuration.observer with
  | none => simp; rfl
  | some observer =>
      cases observer with
      | silent => simp; rfl
      | recording => simp; rfl

theorem run_enter (state : DocumentState) (world : World) :
    (converter.enter job state).run world =
      ((), { world with
        events := world.events ++ converter.recorded [.state job.fileName state] }) :=
  converter.run_report _ world

theorem run_release (scratch : Path) (world : World) :
    (release scratch).run world =
      ((), { world with files := Scratch.released scratch world.files }) := by
  unfold release Scratch.released
  cases released : Scratch.release scratch world.files with
  | ok files => simp [released]; rfl
  | error refusal => simp [released]; rfl

theorem run_uploadArtifact (scratch : Path) (world : World) :
    (converter.uploadArtifact job scratch).run world =
      (uploadResult job
          (converter.storage.upload world.calls job.storageKey scratch world.files).1,
        { files := (converter.storage.upload world.calls job.storageKey scratch world.files).2
          calls := world.calls ++
            [.upload job.storageKey scratch (world.files.read scratch).toOption]
          events := world.events ++
            converter.recorded [.state job.fileName .uploading] }) := by
  rw [uploadArtifact, Run.run_bind_of_run (converter.run_enter job .uploading world),
    Run.run_bind_of_run (Run.run_upload ..)]
  cases (converter.storage.upload world.calls job.storageKey scratch world.files).1 with
  | ok url => rfl
  | error source => rfl

theorem run_localizeFailure (scratch : Path) (rawError : Text) (world : World) :
    (converter.localizeFailure job (converter.request job scratch) rawError).run world =
      (converter.diagnosisOf job rawError
          (converter.engine.generate world.calls (converter.retry job scratch) world.files).1,
        { files :=
            (converter.engine.generate world.calls (converter.retry job scratch) world.files).2
          calls := world.calls ++ [.generate (converter.retry job scratch)]
          events := world.events ++ converter.recorded
            [.state job.fileName .retryingToTranscript, .state job.fileName .localizing] }) := by
  rw [localizeFailure, Run.run_bind_of_run (converter.run_enter job .retryingToTranscript world)]
  rw [Run.run_bind_of_run (Run.run_generate ..), Run.run_bind_of_run (converter.run_enter ..)]
  rw [List.append_assoc, ← recorded_append]
  rfl

theorem run_reportResult (result : Except ConvertError UploadedArtifact) (world : World) :
    (converter.reportResult job result).run world =
      ((), { world with
        events := world.events ++ converter.recorded (resultEvents job result) }) := by
  cases result with
  | ok uploaded =>
      rw [reportResult, Run.run_bind_of_run (converter.run_enter ..), run_report,
        List.append_assoc, ← recorded_append]
      rfl
  | error error =>
      rw [reportResult, Run.run_bind_of_run (converter.run_enter ..), run_report,
        List.append_assoc, ← recorded_append]
      rfl

theorem run_generateAndUpload_of_failure {scratch : Path} {world : World} {rawError : Text}
    {transcript : Option Text} {rejected retried : Files} {second : ConversionOutcome}
    (failed : converter.engine.generate world.calls (converter.request job scratch) world.files =
      (.failure rawError transcript, rejected))
    (repeated : converter.engine.generate
      (world.calls ++ [.generate (converter.request job scratch)])
      (converter.retry job scratch) rejected = (second, retried)) :
    (converter.generateAndUpload job scratch).run world =
      (.error (.generation job.fileName (converter.diagnosisOf job rawError second)),
        { files := retried
          calls := world.calls ++
            [.generate (converter.request job scratch), .generate (converter.retry job scratch)]
          events := world.events ++ converter.recorded
            [.state job.fileName .retryingToTranscript, .state job.fileName .localizing] }) := by
  rw [generateAndUpload, Run.run_bind_of_run (Run.run_generate ..), failed]
  rw [Run.run_bind_of_run (run_localizeFailure ..), repeated, List.append_assoc]
  rfl

theorem run_generateAndUpload_of_success {scratch : Path} {world : World} {artifact : Artifact}
    {generated stored : Files} {answer : Except StorageError Text}
    (accepted : converter.engine.generate world.calls (converter.request job scratch) world.files =
      (.success artifact, generated))
    (answered : converter.storage.upload
      (world.calls ++ [.generate (converter.request job scratch)])
      job.storageKey scratch generated = (answer, stored)) :
    (converter.generateAndUpload job scratch).run world =
      (uploadResult job answer,
        { files := stored
          calls := world.calls ++ [.generate (converter.request job scratch),
            .upload job.storageKey scratch (generated.read scratch).toOption]
          events := world.events ++ converter.recorded [.state job.fileName .uploading] }) := by
  rw [generateAndUpload, Run.run_bind_of_run (Run.run_generate ..), accepted]
  rw [run_uploadArtifact, answered, List.append_assoc]
  rfl

theorem run_withScratch_of_error {source : Scratch.Error} (world : World)
    (use : Path → Run (Except ConvertError UploadedArtifact))
    (refused : converter.reserve job world.files = .error source) :
    (converter.withScratch job use).run world =
      (.error (.scratch converter.configuration.scratchDirectory source), world) := by
  unfold reserve at refused
  rw [withScratch, Run.run_get_bind]
  simp only [refused]
  rfl

theorem run_withScratch_of_ok {scratch : Path} {reserved : Files} {after : World}
    (world : World) {use : Path → Run (Except ConvertError UploadedArtifact)}
    {result : Except ConvertError UploadedArtifact}
    (made : converter.reserve job world.files = .ok (scratch, reserved))
    (ran : (use scratch).run { world with files := reserved } = (result, after)) :
    (converter.withScratch job use).run world =
      (result, { after with files := Scratch.released scratch after.files }) := by
  unfold reserve at made
  rw [withScratch, Run.run_get_bind]
  simp only [made]
  rw [Run.run_set_bind, Run.run_bind_of_run ran, Run.run_bind_of_run (run_release ..)]
  rfl

theorem run_convert_of_run {world after : World}
    {result : Except ConvertError UploadedArtifact}
    (ran : (converter.withScratch job (converter.generateAndUpload job)).run
      { world with
        events := world.events ++
          converter.recorded [.state job.fileName .generatingToFile] } = (result, after)) :
    (converter.convert job).run world =
      (result, { after with
        events := after.events ++ converter.recorded (resultEvents job result) }) := by
  rw [convert, Run.run_bind_of_run (converter.run_enter ..), Run.run_bind_of_run ran,
    Run.run_bind_of_run (run_reportResult ..)]
  rfl

/-- The result of a conversion is the one from before the release. -/
theorem run_convert_of_reserve {world used : World} {scratch : Path} {reserved : Files}
    {result : Except ConvertError UploadedArtifact}
    (made : converter.reserve job world.files = .ok (scratch, reserved))
    (ran : (converter.generateAndUpload job scratch).run
      { files := reserved
        calls := world.calls
        events := world.events ++
          converter.recorded [.state job.fileName .generatingToFile] } = (result, used)) :
    (converter.convert job).run world =
      (result,
        { files := Scratch.released scratch used.files
          calls := used.calls
          events := used.events ++ converter.recorded (resultEvents job result) }) :=
  run_convert_of_run converter job
    (run_withScratch_of_ok converter job { world with events := _ } made ran)

/-- The result of a batch, given what the loop over its documents has found. -/
def batchResult (uploads : List UploadedArtifact) :
    Option ConvertError → Except ConvertError BatchReport
  | none => .ok ⟨uploads⟩
  | some error => .error error

theorem run_convertBatch_of_run {jobs : List DocumentJob} {world last : World}
    {uploads : List UploadedArtifact} {error : Option ConvertError}
    (ran : (converter.convertAll jobs).run
      { world with events := world.events ++ converter.recorded [.batchStart jobs.length] } =
        ((uploads, error), last)) :
    (converter.convertBatch jobs).run world =
      (batchResult uploads error,
        { last with
          events := last.events ++
            converter.recorded [.batchComplete jobs.length uploads.length] }) := by
  rw [convertBatch, Run.run_bind_of_run (run_report ..), Run.run_bind_of_run ran,
    Run.run_bind_of_run (run_report ..)]
  cases error with
  | none => rfl
  | some error => rfl

/-- The conversion of a document in a world ends with a result and leaves a world. -/
inductive Conversion (world : World) : Except ConvertError UploadedArtifact → World → Prop where
  | withoutScratch (source : Scratch.Error)
      (refused : converter.reserve job world.files = .error source) :
      Conversion world (.error (.scratch converter.configuration.scratchDirectory source))
        { world with
          events := world.events ++ converter.recorded
            ((DocumentPath.withoutScratch (ConvertError.scratch
              converter.configuration.scratchDirectory source).message).events job.fileName) }
  | notGenerated (scratch : Path) (reserved rejected retried : Files) (rawError : Text)
      (transcript : Option Text) (second : ConversionOutcome)
      (made : converter.reserve job world.files = .ok (scratch, reserved))
      (failed : converter.engine.generate world.calls (converter.request job scratch) reserved =
        (.failure rawError transcript, rejected))
      (repeated : converter.engine.generate
        (world.calls ++ [.generate (converter.request job scratch)])
        (converter.retry job scratch) rejected = (second, retried)) :
      Conversion world
        (.error (.generation job.fileName (converter.diagnosisOf job rawError second)))
        { files := Scratch.released scratch retried
          calls := world.calls ++
            [.generate (converter.request job scratch), .generate (converter.retry job scratch)]
          events := world.events ++ converter.recorded
            ((DocumentPath.notGenerated (ConvertError.generation job.fileName
              (converter.diagnosisOf job rawError second)).message).events job.fileName) }
  | notStored (scratch : Path) (reserved generated stored : Files) (artifact : Artifact)
      (source : StorageError)
      (made : converter.reserve job world.files = .ok (scratch, reserved))
      (accepted : converter.engine.generate world.calls (converter.request job scratch) reserved =
        (.success artifact, generated))
      (refused : converter.storage.upload
        (world.calls ++ [.generate (converter.request job scratch)])
        job.storageKey scratch generated = (.error source, stored)) :
      Conversion world (.error (.storage job.fileName job.storageKey source))
        { files := Scratch.released scratch stored
          calls := world.calls ++ [.generate (converter.request job scratch),
            .upload job.storageKey scratch (generated.read scratch).toOption]
          events := world.events ++ converter.recorded
            ((DocumentPath.notStored (ConvertError.storage job.fileName job.storageKey
              source).message).events job.fileName) }
  | uploaded (scratch : Path) (reserved generated stored : Files) (artifact : Artifact)
      (url : Text)
      (made : converter.reserve job world.files = .ok (scratch, reserved))
      (accepted : converter.engine.generate world.calls (converter.request job scratch) reserved =
        (.success artifact, generated))
      (kept : converter.storage.upload
        (world.calls ++ [.generate (converter.request job scratch)])
        job.storageKey scratch generated = (.ok url, stored)) :
      Conversion world (.ok ⟨job.fileName, job.format, job.storageKey, url⟩)
        { files := Scratch.released scratch stored
          calls := world.calls ++ [.generate (converter.request job scratch),
            .upload job.storageKey scratch (generated.read scratch).toOption]
          events := world.events ++ converter.recorded
            ((DocumentPath.uploaded url).events job.fileName) }

/-- Every conversion goes one of the four ways. -/
theorem conversion_convert (world : World) :
    Conversion converter job world ((converter.convert job).run world).1
      ((converter.convert job).run world).2 := by
  cases made : converter.reserve job world.files with
  | error source =>
      rw [run_convert_of_run converter job
        (run_withScratch_of_error converter job { world with events := _ } _ made)]
      simp only [List.append_assoc, ← recorded_append]
      exact .withoutScratch source made
  | ok reservation =>
      rcases reservation with ⟨scratch, reserved⟩
      rcases first : converter.engine.generate world.calls (converter.request job scratch)
        reserved with ⟨outcome, generated⟩
      cases outcome with
      | failure rawError transcript =>
          rcases repeated : converter.engine.generate
            (world.calls ++ [.generate (converter.request job scratch)])
            (converter.retry job scratch) generated with ⟨second, retried⟩
          rw [run_convert_of_reserve converter job made
            (run_generateAndUpload_of_failure converter job first repeated)]
          simp only [List.append_assoc, ← recorded_append]
          exact .notGenerated scratch reserved generated retried rawError transcript second made
            first repeated
      | success artifact =>
          rcases answered : converter.storage.upload
            (world.calls ++ [.generate (converter.request job scratch)])
            job.storageKey scratch generated with ⟨answer, stored⟩
          rw [run_convert_of_reserve converter job made
            (run_generateAndUpload_of_success converter job first answered)]
          simp only [List.append_assoc, ← recorded_append]
          cases answer with
          | error source =>
              exact .notStored scratch reserved generated stored artifact source made first answered
          | ok url =>
              exact .uploaded scratch reserved generated stored artifact url made first answered

end Converter

end Typeset
