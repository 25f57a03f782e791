import Typeset.CommandLine.Options
import Typeset.Convert.Backend
import Typeset.Convert.Converter

/-!
# Setting up a conversion

The converter that options describe.  The payload is read first, then the configuration is
checked, then the storage; the first of the three that fails is reported, and until all of them
have succeeded nothing is changed.
-/

namespace Typeset

namespace CommandLine

/-- Why a payload could not be read. -/
inductive PayloadError where
  | os (error : OsError)
  | notUtf8
  deriving DecidableEq, Repr

/-- The error in words. -/
def PayloadError.message : PayloadError → Text
  | os error => error.message
  | notUtf8 => "stream did not contain valid UTF-8".toList

/-- Why a conversion could not be set up. -/
inductive SetupError where
  | payload (source : PayloadSource) (error : PayloadError)
  | configuration (error : ConfigurationError)
  | noBucket
  deriving DecidableEq, Repr

namespace SetupError

/-- What could not be done. -/
def headline : SetupError → Text
  | payload source _ => "Failed to read payload from ".toList ++ source.display
  | configuration _ => "Invalid configuration".toList
  | noBucket => "--endpoint needs a bucket (--bucket or BUCKET_NAME)".toList

/-- Why it could not be done, if there is more to say. -/
def cause? : SetupError → Option Text
  | payload _ error => some error.message
  | configuration error => some (ConvertError.configuration error).message
  | noBucket => none

/-- A text each of whose lines is indented. -/
def indented (text : Text) : Text :=
  Text.joined ['\n'] ((Text.splitAt '\n' text).map ("    ".toList ++ ·))

/-- The error in words, with what has caused it. -/
def message (error : SetupError) : Text :=
  "Error: ".toList ++ error.headline ++
    (match error.cause? with
      | some cause => "\n\nCaused by:\n".toList ++ indented cause
      | none => []) ++
    ['\n']

end SetupError

/-- Where artifacts go: into a directory, or to a service. -/
inductive Target where
  | directory (storage : LocalStorage)
  | service (storage : HttpStorage)
  deriving DecidableEq, Repr

/-- The storage at a target, where `network` says what services answer. -/
def Target.storage [DomainNames] (target : Target) (network : List Call → Network) : Storage :=
  match target with
  | directory storage => .ofDirectory storage
  | service storage => .ofService storage network

/-- What a host offers to a command: a directory for temporary files, standard input, engines and
storages that do what they are set up for, and stamps for scratch files. -/
structure Host where
  temporary : Path
  standardInput : Bytes
  engine : EngineProgram → Engine
  storage : Target → Storage
  stamps : Nat → Scratch.Stamp

namespace Options

/-- Whether progress is shown. -/
def showsProgress (options : Options) : Bool :=
  !options.quiet && !options.noProgress

/-- What the options set in a configuration, in this order. -/
def settings (options : Options) : List Configuration.Setting :=
  [.pdfEngine options.pdfEngine, .implicitFigures options.implicitFigures,
    .showDebug options.showDebug] ++
  options.scratchDirectory.toList.map .scratchDirectory ++
  options.cacheRoot.toList.map (.environment <| .under ·) ++
  options.template.toList.map .template ++
  options.labelPattern.toList.map .labelPattern ++
  if options.showsProgress then [.observer .recording] else []

/-- The configuration that the options describe. -/
def configuration [Pattern.Sizes] (options : Options) (temporary : Path) :
    Except ConfigurationError Configuration :=
  ((Configuration.Builder.start temporary).setAll options.settings).build

/-- The engine that the options name. -/
def engineProgram (options : Options) (configuration : Configuration) : EngineProgram where
  program := options.program
  leading := []
  environment := configuration.environment

/-- The directory that artifacts are copied to. -/
def localStorage (options : Options) : LocalStorage :=
  let storage := LocalStorage.ofRoot options.outputDirectory
  match options.baseUrl with
  | some url => storage.withBaseUrl url
  | none => storage

/-- The service at an endpoint that artifacts are sent to. -/
def httpStorage (options : Options) (endpoint bucket : Text) : HttpStorage :=
  let storage := HttpStorage.ofEndpoint endpoint bucket options.region
  let storage :=
    match options.token with
    | some token => storage.withToken token
    | none => storage
  match options.publicBaseUrl with
  | some url => storage.withPublicBaseUrl url
  | none => storage

/-- Where artifacts go.  A service cannot be used without a bucket. -/
def target (options : Options) : Except SetupError Target :=
  match options.endpoint, options.bucket with
  | none, _ => .ok (.directory options.localStorage)
  | some _, none => .error .noBucket
  | some endpoint, some bucket => .ok (.service (options.httpStorage endpoint bucket))

/-- The bytes of the payload. -/
def payloadBytes (options : Options) (host : Host) (files : Files) : Except OsError Bytes :=
  match options.payload with
  | .standardInput => .ok host.standardInput
  | .file path => files.read path

/-- The payload. -/
def readPayload (options : Options) (host : Host) (files : Files) : Except PayloadError Text :=
  match options.payloadBytes host files with
  | .error error => .error (.os error)
  | .ok bytes =>
      match Utf8.decode? bytes with
      | some text => .ok text
      | none => .error .notUtf8

/-- The converter for a configuration and a target. -/
def converter (options : Options) (host : Host) (configuration : Configuration)
    (target : Target) : Converter where
  engine := host.engine (options.engineProgram configuration)
  storage := host.storage target
  configuration := configuration
  stamps := host.stamps

/-- The payload, and the converter for it. -/
def setup [Pattern.Sizes] (options : Options) (host : Host) (files : Files) :
    Except SetupError (Text × Converter) := do
  let payload ← (options.readPayload host files).mapError (.payload options.payload)
  let configuration ← (options.configuration host.temporary).mapError .configuration
  let target ← options.target
  return (payload, options.converter host configuration target)

end Options

end CommandLine

end Typeset
