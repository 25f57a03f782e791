import Typeset.Convert.Converter
import Typeset.Request.Validation

/-!
# The service

A payload goes in, a status and a JSON body come out: 200 with the addresses of all documents, 400
if the payload is refused, 500 if a document could not be converted and uploaded.  The body of a
failure that the engine reported names the section.
-/

namespace Typeset

open Json (Value)

/-- A status and a JSON body. -/
structure Response where
  status : Nat
  body : Value

namespace Response

/-- Whether all went well. -/
def isSuccess (response : Response) : Bool :=
  200 ≤ response.status && response.status < 300

/-- An upload as JSON. -/
def ofUpload (upload : UploadedArtifact) : Value :=
  .object
    [("file_name".toList, .text upload.fileName), ("format".toList, upload.format.toJson),
      ("key".toList, .text upload.key), ("url".toList, .text upload.url)]

/-- The answer if every document has been uploaded. -/
def ok (report : BatchReport) : Response where
  status := 200
  body := .object
    [("files".toList, .list (report.uploads.map ofUpload)),
      ("url".toList, .ofText? report.pdfUrl?)]

/-- The answer if the payload is refused. -/
def invalid (error : ValidationError) : Response where
  status := 400
  body := .object [("error".toList, .text error.message)]

/-- The answer if a document could not be converted and uploaded. -/
def failed (error : ConvertError) : Response where
  status := ConvertError.status
  body :=
    match error.diagnosis? with
    | some diagnosis =>
        .object
          [("error".toList, .text diagnosis.message),
            ("section".toList, .ofText? diagnosis.sectionLabel?)]
    | none => .object [("error".toList, .text error.message)]

/-- The response as JSON. -/
def toJson (response : Response) : Value :=
  .object [("status_code".toList, .natural response.status), ("body".toList, response.body)]

end Response

namespace Converter

/-- Runs jobs that have been validated. -/
def handleJobs (converter : Converter) (jobs : List DocumentJob) : Run Response := do
  match ← converter.prepare with
  | .error error => return .failed error
  | .ok () =>
      match ← converter.convertBatch jobs with
      | .ok report => return .ok report
      | .error error => return .failed error

/-- Runs jobs if there was nothing to refuse. -/
def handleValidated (converter : Converter) :
    Except ValidationError (List DocumentJob) → Run Response
  | .ok jobs => converter.handleJobs jobs
  | .error error => return .invalid error

/-- Answers a payload that asks for one document. -/
def handleSingle [Pattern.Sizes] (converter : Converter) (payload : Text) : Run Response :=
  converter.handleValidated
    (SingleRequest.jobsOfPayload payload converter.configuration.profile.implicitFigures)

/-- Answers a payload that is a batch. -/
def handleBatch [Pattern.Sizes] (converter : Converter) (payload : Text) : Run Response :=
  converter.handleValidated
    (BatchItem.jobsOfPayload payload converter.configuration.profile.implicitFigures)

end Converter

end Typeset
