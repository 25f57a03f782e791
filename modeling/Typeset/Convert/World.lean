import Typeset.Config.Basic
import Typeset.Engine.Request
import Typeset.Storage.Error

/-!
# What a conversion acts on

A conversion changes files, asks an engine and a storage, and reports events to whoever watches.
Engine and storage may do anything with the files and may answer according to everything that has
been asked before; what is reported to an observer they do not see.
-/

namespace Typeset

/-- Where a document is on its way. -/
inductive DocumentState where
  | idle
  | generatingToFile
  | uploading
  | retryingToTranscript
  | localizing
  | done
  | failed
  deriving DecidableEq, Repr

namespace DocumentState

/-- Whether nothing follows. -/
def isTerminal (state : DocumentState) : Bool :=
  state == done || state == failed

/-- All states, in the order in which a document can come to them. -/
def all : List DocumentState :=
  [idle, generatingToFile, uploading, retryingToTranscript, localizing, done, failed]

/-- The name of the state in records. -/
def name : DocumentState → Text
  | idle => "idle".toList
  | generatingToFile => "generating_to_file".toList
  | uploading => "uploading".toList
  | retryingToTranscript => "retrying_to_transcript".toList
  | localizing => "localizing".toList
  | done => "done".toList
  | failed => "failed".toList

/-- The state with a name. -/
def ofName? (name : Text) : Option DocumentState :=
  all.find? (·.name == name)

/-- The state in words. -/
def display : DocumentState → Text
  | idle => "idle".toList
  | generatingToFile => "generating".toList
  | uploading => "uploading".toList
  | retryingToTranscript => "retrying for transcript".toList
  | localizing => "localizing error".toList
  | done => "done".toList
  | failed => "failed".toList

end DocumentState

/-- What an observer is told. -/
inductive Event where
  | batchStart (total : Nat)
  | state (fileName : Text) (state : DocumentState)
  | complete (fileName url : Text)
  | error (fileName message : Text)
  | batchComplete (total uploaded : Nat)
  deriving DecidableEq, Repr

/-- What has been asked of the engine or of the storage.  With an upload goes what the artifact
held, if it was there. -/
inductive Call where
  | generate (request : ConversionRequest)
  | upload (key : Text) (artifact : Path) (content : Option Bytes)
  deriving DecidableEq, Repr

/-- A typesetting engine: how it answers a request, given what has been asked before. -/
structure Engine where
  generate : List Call → ConversionRequest → Files → ConversionOutcome × Files

/-- An object storage: how it answers the upload of an artifact under a key, given what has been
asked before.  A successful upload gives the address of the artifact. -/
structure Storage where
  upload : List Call → Text → Path → Files → Except StorageError Text × Files

/-- Everything that conversions change. -/
structure World where
  files : Files
  calls : List Call
  events : List Event
  deriving DecidableEq, Repr

/-- A step that changes the world. -/
abbrev Run := StateM World

namespace Run

/-- Asks an engine. -/
def generate (engine : Engine) (request : ConversionRequest) : Run ConversionOutcome := do
  let world ← get
  let (outcome, files) := engine.generate world.calls request world.files
  set { world with files, calls := world.calls ++ [Call.generate request] }
  return outcome

/-- Asks a storage. -/
def upload (storage : Storage) (key : Text) (artifact : Path) :
    Run (Except StorageError Text) := do
  let world ← get
  let (result, files) := storage.upload world.calls key artifact world.files
  let call := Call.upload key artifact (world.files.read artifact).toOption
  set { world with files, calls := world.calls ++ [call] }
  return result

/-- Reports an event. -/
def report (observer : Option Observer) (event : Event) : Run Unit :=
  match observer with
  | some .recording => modify fun world => { world with events := world.events ++ [event] }
  | some .silent => return
  | none => return

end Run

end Typeset
