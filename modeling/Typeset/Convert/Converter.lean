import Typeset.Config.Listing
import Typeset.Convert.Error
import Typeset.Convert.World
import Typeset.Job

/-!
# Conversions

A document is generated to a scratch file and uploaded.  If it cannot be generated, the engine is
asked a second time, for the text that it produced on the way, because the line that it complains
about is a line of that text; the failure is then placed in a section.  The scratch file is
released on every path.

The documents of a batch are converted strictly in order, up to the first that fails.
-/

namespace Typeset

/-- A document that has reached the storage. -/
structure UploadedArtifact where
  fileName : Text
  format : OutputFormat
  key : Text
  url : Text
  deriving DecidableEq, Repr

/-- The uploads of a batch, in the order of its documents. -/
structure BatchReport where
  uploads : List UploadedArtifact
  deriving DecidableEq, Repr

namespace BatchReport

/-- The address of the first PDF document, if there is one. -/
def pdfUrl? (report : BatchReport) : Option Text :=
  (report.uploads.find? (·.format == .pdf)).map (·.url)

/-- The number of uploads. -/
def size (report : BatchReport) : Nat :=
  report.uploads.length

/-- Whether nothing has been uploaded. -/
def isEmpty (report : BatchReport) : Bool :=
  report.uploads.isEmpty

end BatchReport

/-- What conversions are done with.  The stamps make the names of scratch files unique. -/
structure Converter where
  engine : Engine
  storage : Storage
  configuration : Configuration
  stamps : Nat → Scratch.Stamp

namespace Converter

/-- The converter in one line.  Of engine and storage it only says that they are there. -/
def listing (converter : Converter) : Text :=
  Listing.named "Converter"
    [("engine", Text.quoted "<dyn Engine>".toList),
      ("storage", Text.quoted "<dyn ObjectStorage>".toList),
      ("config", converter.configuration.listing)]

/-- Reports an event to the configured observer. -/
def report (converter : Converter) (event : Event) : Run Unit :=
  Run.report converter.configuration.observer event

/-- Reports that a document has come to a state. -/
def enter (converter : Converter) (job : DocumentJob) (state : DocumentState) : Run Unit :=
  converter.report (.state job.fileName state)

/-- Makes the directories that the engine writes to, unless they are there already. -/
def prepare (converter : Converter) : Run (Except ConvertError Unit) := do
  let world ← get
  let (result, files) := converter.configuration.environment.prepare world.files
  set { world with files }
  return result.mapError .environment

/-- The request that generates a document to a file. -/
def request (converter : Converter) (job : DocumentJob) (scratch : Path) : ConversionRequest where
  source := job.markdown
  inputFormat := job.inputFormat
  outputFormat := job.format
  arguments := converter.configuration.profile.fileRun job.format
  destination := some scratch

/-- The text that a second run has left. -/
def transcriptOf : ConversionOutcome → Text
  | .success (.transcript text) => text
  | .success (.file _) => []
  | .failure _ transcript => transcript.getD []

/-- The label pattern for a document: its own, or the configured one. -/
def patternFor (converter : Converter) (job : DocumentJob) : Pattern :=
  job.labelPattern.getD converter.configuration.labelPattern

/-- Places a failure in a section of the document. -/
def localizeFailure (converter : Converter) (job : DocumentJob) (request : ConversionRequest)
    (rawError : Text) : Run Diagnosis := do
  converter.enter job .retryingToTranscript
  let retry := request.forTranscript converter.configuration.profile.transcriptRun
  let outcome ← Run.generate converter.engine retry
  converter.enter job .localizing
  return Diagnosis.diagnose rawError (transcriptOf outcome) (converter.patternFor job)
    converter.configuration.showDebug

/-- Uploads a document that has been generated. -/
def uploadArtifact (converter : Converter) (job : DocumentJob) (scratch : Path) :
    Run (Except ConvertError UploadedArtifact) := do
  converter.enter job .uploading
  match ← Run.upload converter.storage job.storageKey scratch with
  | .ok url => return .ok ⟨job.fileName, job.format, job.storageKey, url⟩
  | .error source => return .error (.storage job.fileName job.storageKey source)

/-- Generates a document to its scratch file and uploads it. -/
def generateAndUpload (converter : Converter) (job : DocumentJob) (scratch : Path) :
    Run (Except ConvertError UploadedArtifact) := do
  let request := converter.request job scratch
  match ← Run.generate converter.engine request with
  | .failure rawError _ =>
      let diagnosis ← converter.localizeFailure job request rawError
      return .error (.generation job.fileName diagnosis)
  | .success _ => converter.uploadArtifact job scratch

/-- Releases a scratch file.  That this fails changes nothing else. -/
def release (scratch : Path) : Run Unit :=
  modify fun world =>
    match Scratch.release scratch world.files with
    | .ok files => { world with files }
    | .error _ => world

/-- Does something with a scratch file for a document, and releases the file. -/
def withScratch (converter : Converter) (job : DocumentJob)
    (use : Path → Run (Except ConvertError UploadedArtifact)) :
    Run (Except ConvertError UploadedArtifact) := do
  let world ← get
  let directory := converter.configuration.scratchDirectory
  match Scratch.create directory job.owner job.fileName job.format converter.stamps
      world.files with
  | .error source => return .error (.scratch directory source)
  | .ok (scratch, files) =>
      set { world with files }
      let result ← use scratch
      release scratch
      return result

/-- Reports how the conversion of a document ended. -/
def reportResult (converter : Converter) (job : DocumentJob) :
    Except ConvertError UploadedArtifact → Run Unit
  | .ok uploaded => do
      converter.enter job .done
      converter.report (.complete job.fileName uploaded.url)
  | .error error => do
      converter.enter job .failed
      converter.report (.error job.fileName error.message)

/-- Converts and uploads one document. -/
def convert (converter : Converter) (job : DocumentJob) :
    Run (Except ConvertError UploadedArtifact) := do
  converter.enter job .generatingToFile
  let result ← converter.withScratch job (converter.generateAndUpload job)
  converter.reportResult job result
  return result

/-- Converts documents in order, up to the first that fails: the uploads, and the error of the
document that failed. -/
def convertAll (converter : Converter) :
    List DocumentJob → Run (List UploadedArtifact × Option ConvertError)
  | [] => return ([], none)
  | job :: jobs => do
      match ← converter.convert job with
      | .error error => return ([], some error)
      | .ok uploaded =>
          let (uploads, error) ← converter.convertAll jobs
          return (uploaded :: uploads, error)

/-- Converts the documents of a batch.  What has been uploaded before a failure stays uploaded. -/
def convertBatch (converter : Converter) (jobs : List DocumentJob) :
    Run (Except ConvertError BatchReport) := do
  converter.report (.batchStart jobs.length)
  let (uploads, error) ← converter.convertAll jobs
  converter.report (.batchComplete jobs.length uploads.length)
  match error with
  | none => return .ok ⟨uploads⟩
  | some error => return .error error

end Converter

end Typeset
