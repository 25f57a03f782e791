import Typeset.Job
import Typeset.LabelPattern
import Typeset.Request.Payload

/-!
# Validation

Only what has been checked becomes a job.  A request for one document gives one job or two, a batch
one job for each of its elements, in order; a batch with an element that is not valid gives none.

Owners and file names become parts of storage keys and of file names, so they must not hold path
separators or two dots in a row.
-/

namespace Typeset

/-- A field of a request that has to be there. -/
inductive Field where
  | userId
  | markdown
  | fileName
  | typeOfFile
  deriving DecidableEq, Repr

/-- The name of the field in payloads. -/
def Field.name : Field → Text
  | userId => "userId".toList
  | markdown => "markdown".toList
  | fileName => "fileName".toList
  | typeOfFile => "typeOfFile".toList

/-- Why an element of a batch, or a request for one document, is refused. -/
inductive RequestError where
  | missingField (field : Field)
  | missingIdentity
  | unsupportedFileType (found : Text) (allowsAll : Bool)
  | unsafeName (field : Field) (value : Text)
  | invalidLabelPattern (error : LabelPattern.Error)
  deriving DecidableEq, Repr

namespace RequestError

/-- The file types that would have been supported. -/
def supported (allowsAll : Bool) : Text :=
  if allowsAll then "PDF, TEX, ALL".toList else "PDF, TEX".toList

/-- The error in words. -/
def message : RequestError → Text
  | missingField field => "Missing or empty field '".toList ++ field.name ++ ['\'']
  | missingIdentity =>
      "Request needs 'fileName', or both 'moduleSlug' and 'setNumber'".toList
  | unsupportedFileType found allowsAll =>
      "Unsupported typeOfFile '".toList ++ found ++ "' (expected one of ".toList ++
        supported allowsAll ++ [')']
  | unsafeName field value =>
      "Invalid ".toList ++ field.name ++ " '".toList ++ value ++
        "': path separators and '..' are not allowed".toList
  | invalidLabelPattern error => "Invalid labelPattern: ".toList ++ error.message

end RequestError

/-- Why a payload is refused.  The document of a malformed payload is the payload itself. -/
inductive ValidationError where
  | malformed (document : Text) (failure : Json.Failure)
  | request (error : RequestError)
  | emptyBatch
  | invalidItem (index : Nat) (error : RequestError)
  deriving DecidableEq, Repr

/-- The error in words. -/
def ValidationError.message : ValidationError → Text
  | malformed document failure =>
      "Malformed request body: ".toList ++ failure.message document
  | request error => error.message
  | emptyBatch => "Batch request contains no documents".toList
  | invalidItem index error =>
      "Batch item ".toList ++ Text.ofNat index ++ ": ".toList ++ error.message

namespace Validation

/-- A text without the blanks around it, if anything is left. -/
def nonEmpty? (value : Option Text) : Option Text :=
  (value.map Text.trim).filter (!·.isEmpty)

/-- A name that has to be there, without the blanks around it. -/
def required (field : Field) (value : Option Text) : Except RequestError Text :=
  match nonEmpty? value with
  | some text => .ok text
  | none => .error (.missingField field)

/-- A document that has to be there.  It stays as it is, because indentation counts. -/
def requiredBody (field : Field) (value : Option Text) : Except RequestError Text :=
  match value with
  | some text => if text.trim.isEmpty then .error (.missingField field) else .ok text
  | none => .error (.missingField field)

/-- Whether a name can be part of a key and of a file name. -/
def isSafeName (name : Text) : Bool :=
  !name.contains '/' && !name.contains '\\' && !Text.occursIn ['.', '.'] name

/-- A name that can be part of a key and of a file name. -/
def safe (field : Field) (name : Text) : Except RequestError Unit :=
  if isSafeName name then .ok () else .error (.unsafeName field name)

/-- The file type with the given name. -/
def fileType (allowsAll : Bool) (name : Text) : Except RequestError FileType :=
  if name = FileType.pdf.name then .ok .pdf
  else if name = FileType.tex.name then .ok .tex
  else if name = FileType.all.name && allowsAll then .ok .all
  else .error (.unsupportedFileType name allowsAll)

/-- The label pattern of a request, if it has one. -/
def compiledPattern [Pattern.Sizes] (source : Option Text) : Except RequestError (Option Pattern) :=
  match source with
  | none => .ok none
  | some source =>
      match LabelPattern.compile source with
      | .ok pattern => .ok (some pattern)
      | .error error => .error (.invalidLabelPattern error)

/-- The file name of a request for one document: the one it gives, or a slug and a number. -/
def documentName (request : SingleRequest) : Except RequestError Text :=
  match nonEmpty? request.fileName with
  | some name => .ok name
  | none =>
      match nonEmpty? request.moduleSlug, request.setNumber with
      | some slug, some number =>
          if number.display.isEmpty then .error .missingIdentity
          else .ok (slug ++ '-' :: number.display)
      | _, _ => .error .missingIdentity

end Validation

namespace SingleRequest

open Validation

/-- The jobs of a request for one document, one for each of its formats. -/
def validate [Pattern.Sizes] (request : SingleRequest) (implicitFigures : Bool) :
    Except RequestError (List DocumentJob) := do
  let owner ← required .userId request.userId
  safe .userId owner
  let markdown ← requiredBody .markdown request.markdown
  let fileType ← fileType true (← required .typeOfFile request.typeOfFile)
  let fileName ← documentName request
  safe .fileName fileName
  let labelPattern ← compiledPattern request.labelPattern
  return fileType.formats.map fun format =>
    { owner, fileName, format, markdown, labelPattern
      implicitFigures := request.implicitFigures.getD implicitFigures }

/-- The jobs of a payload that asks for one document. -/
def jobsOfPayload [Pattern.Sizes] (payload : Text) (implicitFigures : Bool) :
    Except ValidationError (List DocumentJob) :=
  match ofPayload payload with
  | .error failure => .error (.malformed payload failure)
  | .ok request =>
      match request.validate implicitFigures with
      | .error error => .error (.request error)
      | .ok jobs => .ok jobs

end SingleRequest

namespace BatchItem

open Validation

/-- The job of an element of a batch. -/
def validate [Pattern.Sizes] (item : BatchItem) (implicitFigures : Bool) :
    Except RequestError DocumentJob := do
  let owner ← required .userId item.userId
  safe .userId owner
  let fileName ← required .fileName item.fileName
  safe .fileName fileName
  let fileType ← fileType false (← required .typeOfFile item.typeOfFile)
  let markdown ← requiredBody .markdown item.markdown
  let labelPattern ← compiledPattern item.labelPattern
  return {
    owner, fileName, markdown, labelPattern
    format := if fileType = .tex then .tex else .pdf
    implicitFigures := item.implicitFigures.getD implicitFigures }

/-- The jobs of the elements of a batch, the first of which has the given index. -/
def validateFrom [Pattern.Sizes] (index : Nat) (implicitFigures : Bool) :
    List BatchItem → Except ValidationError (List DocumentJob)
  | [] => .ok []
  | item :: items =>
      match item.validate implicitFigures with
      | .error error => .error (.invalidItem index error)
      | .ok job => (validateFrom (index + 1) implicitFigures items).map (job :: ·)

/-- The jobs of a batch, one for each element. -/
def validateAll [Pattern.Sizes] (items : List BatchItem) (implicitFigures : Bool) :
    Except ValidationError (List DocumentJob) :=
  if items.isEmpty then .error .emptyBatch else validateFrom 0 implicitFigures items

/-- The jobs of a payload that is a batch. -/
def jobsOfPayload [Pattern.Sizes] (payload : Text) (implicitFigures : Bool) :
    Except ValidationError (List DocumentJob) :=
  match listOfPayload payload with
  | .error failure => .error (.malformed payload failure)
  | .ok items => validateAll items implicitFigures

end BatchItem

end Typeset
