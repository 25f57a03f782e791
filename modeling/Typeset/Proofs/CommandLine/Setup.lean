import Typeset.CommandLine.Setup
import Typeset.Proofs.Steps
import Typeset.Proofs.Text.Utf8

/-!
# What options describe

Options describe a payload, a configuration and a target, each of them at most one.  The payload is
the text that the bytes of its source spell; the configuration says of every setting what it is;
the target is a directory, or the service at an endpoint with a bucket.

A conversion is set up exactly if all three are there, and otherwise the first of them that is
missing is told.
-/

namespace Typeset

namespace Configuration.Builder

variable (builder : Builder)

theorem setAll_append (first second : List Setting) :
    builder.setAll (first ++ second) = (builder.setAll first).setAll second :=
  List.foldl_append

theorem setAll_start (temporary : Path) (engine : Text) (implicitFigures showDebug : Bool) :
    (start temporary).setAll
        [.pdfEngine engine, .implicitFigures implicitFigures, .showDebug showDebug] =
      { configuration :=
          { Configuration.standard temporary with
            showDebug := showDebug
            profile :=
              { FormatProfile.standard with
                implicitFigures := implicitFigures
                pdfArguments := [FormatProfile.pdfEngineArgument engine] } }
        labelPattern := none } :=
  rfl

theorem setAll_scratchDirectory (path : Option Path) :
    builder.setAll (path.toList.map .scratchDirectory) =
      { builder with configuration := { builder.configuration with
          scratchDirectory := path.getD builder.configuration.scratchDirectory } } := by
  cases path with
  | none => rfl
  | some path => rfl

theorem setAll_environment (root : Option Path) :
    builder.setAll (root.toList.map (.environment <| .under ·)) =
      { builder with configuration := { builder.configuration with
          environment := (root.map .under).getD builder.configuration.environment } } := by
  cases root with
  | none => rfl
  | some root => rfl

theorem setAll_template (path : Option Path) :
    builder.setAll (path.toList.map .template) =
      builder.changeProfile fun profile =>
        { profile with template := path.or profile.template } := by
  cases path with
  | none => rfl
  | some path => rfl

theorem setAll_labelPattern (source : Option Text) :
    builder.setAll (source.toList.map .labelPattern) =
      { builder with labelPattern := source.or builder.labelPattern } := by
  cases source with
  | none => rfl
  | some source => rfl

theorem setAll_observer (observed : Bool) (observer : Observer) :
    builder.setAll (if observed then [.observer observer] else []) =
      { builder with configuration := { builder.configuration with
          observer := if observed then some observer else builder.configuration.observer } } := by
  cases observed with
  | false => rfl
  | true => rfl

/-- Whether sections are found with a pattern in the configuration that is being built. -/
def FindsSections [Pattern.Sizes] (pattern : Pattern) : Prop :=
  match builder.labelPattern with
  | none => pattern = builder.configuration.labelPattern
  | some source => LabelPattern.compile source = .ok pattern

theorem build_eq_ok_iff [Pattern.Sizes] {configuration : Configuration} :
    builder.build = .ok configuration ↔
      ∃ pattern, builder.FindsSections pattern ∧
        builder.configuration.scratchDirectory ≠ [] ∧
        { builder.configuration with labelPattern := pattern } = configuration := by
  have checked (chosen : Configuration) :
      (if chosen.scratchDirectory.isEmpty then throw .emptyScratchDirectory
        else return chosen : Except ConfigurationError Configuration) = .ok configuration ↔
        chosen.scratchDirectory ≠ [] ∧ chosen = configuration := by
    cases chosen.scratchDirectory with
    | nil => simp
    | cons first rest => simp [pure, Except.pure]
  unfold build FindsSections
  cases builder.labelPattern with
  | none => simpa using checked builder.configuration
  | some source =>
      dsimp only
      cases LabelPattern.compile source with
      | error error => simp [throw, throwThe, MonadExceptOf.throw, bind, Except.bind]
      | ok pattern => simpa using checked { builder.configuration with labelPattern := pattern }

end Configuration.Builder

namespace CommandLine

namespace Options

/-- Whether a text is the payload. -/
def Reads (options : Options) (host : Host) (files : Files) (payload : Text) : Prop :=
  match options.payload with
  | .standardInput => host.standardInput = payload.toUtf8
  | .file path => files.read path = .ok payload.toUtf8

/-- Whether sections are found with a pattern: the standard one, unless the source of another one
is given. -/
def FindsSections [Pattern.Sizes] (options : Options) (pattern : Pattern) : Prop :=
  match options.labelPattern with
  | none => pattern = LabelPattern.standard
  | some source => LabelPattern.compile source = .ok pattern

/-- What is configured when sections are found with a pattern. -/
def configured (options : Options) (temporary : Path) (pattern : Pattern) : Configuration where
  scratchDirectory := options.scratchDirectory.getD temporary
  labelPattern := pattern
  showDebug := options.showDebug
  profile :=
    { FormatProfile.standard with
      implicitFigures := options.implicitFigures
      pdfArguments := [FormatProfile.pdfEngineArgument options.pdfEngine]
      template := options.template }
  environment := .under (options.cacheRoot.getD (Path.join temporary "md2pdf".toList))
  observer := if options.showsProgress then some .recording else none

/-- Whether a configuration is the one that is described. -/
inductive Describes [Pattern.Sizes] (options : Options) (temporary : Path) :
    Configuration → Prop where
  | configured (pattern : Pattern) (finds : options.FindsSections pattern)
      (present : options.scratchDirectory.getD temporary ≠ []) :
      Describes options temporary (options.configured temporary pattern)

/-- Whether artifacts go to a target. -/
inductive AimsAt (options : Options) : Target → Prop where
  | directory (unserved : options.endpoint = none) :
      AimsAt options (.directory
        { root := options.outputDirectory
          baseUrl := options.baseUrl.map StorageKey.trimBase })
  | service (endpoint bucket : Text) (served : options.endpoint = some endpoint)
      (named : options.bucket = some bucket) :
      AimsAt options (.service
        { endpoint := StorageKey.trimBase endpoint
          bucket := bucket
          region := options.region
          publicBaseUrl := options.publicBaseUrl.map StorageKey.trimBase
          token := options.token })

/-- Whether a conversion can be set up. -/
structure IsReady [Pattern.Sizes] (options : Options) (host : Host) (files : Files) : Prop where
  payload : ∃ payload, options.Reads host files payload
  configuration : ∃ configuration, options.Describes host.temporary configuration
  bucket : options.endpoint.isSome = true → options.bucket.isSome = true

/-- What prevents a conversion from being set up: the first of the three that is missing. -/
inductive Prevents [Pattern.Sizes] (options : Options) (host : Host) (files : Files) :
    SetupError → Prop where
  | payload (error : PayloadError) (unread : ∀ payload, ¬options.Reads host files payload) :
      Prevents options host files (.payload options.payload error)
  | configuration (error : ConfigurationError) (payload : Text)
      (read : options.Reads host files payload)
      (undescribed : ∀ configuration, ¬options.Describes host.temporary configuration) :
      Prevents options host files (.configuration error)
  | noBucket (payload : Text) (configuration : Configuration)
      (read : options.Reads host files payload)
      (described : options.Describes host.temporary configuration)
      (served : options.endpoint.isSome = true) (unnamed : options.bucket = none) :
      Prevents options host files .noBucket

variable {options : Options} {host : Host} {files : Files}

theorem payloadBytes_eq_ok_iff {payload : Text} :
    options.payloadBytes host files = .ok payload.toUtf8 ↔
      options.Reads host files payload := by
  unfold payloadBytes Reads
  cases options.payload with
  | standardInput => simp
  | file path => rfl

/-- The payload is read exactly if the bytes of its source spell it. -/
theorem readPayload_eq_ok_iff {payload : Text} :
    options.readPayload host files = .ok payload ↔ options.Reads host files payload := by
  rw [← payloadBytes_eq_ok_iff, readPayload]
  cases options.payloadBytes host files with
  | error error => simp
  | ok bytes =>
      simp only [Except.ok.injEq, ← Utf8.decode?_eq_some_iff]
      cases Utf8.decode? bytes with
      | none => simp
      | some text => simp

/-- What the options set is what they describe. -/
theorem setAll_settings (options : Options) (temporary : Path) :
    (Configuration.Builder.start temporary).setAll options.settings =
      ⟨options.configured temporary LabelPattern.standard, options.labelPattern⟩ := by
  open Configuration.Builder in
  rw [settings, setAll_append, setAll_append, setAll_append, setAll_append, setAll_append,
    setAll_start, setAll_scratchDirectory, setAll_environment, setAll_template,
    setAll_labelPattern, setAll_observer]
  have plain : FormatProfile.standard.template = none := rfl
  simp only [changeProfile, Configuration.standard, plain, Option.getD_map, Option.or_none,
    configured]

/-- A configuration is built exactly if it is the one that is described. -/
theorem configuration_eq_ok_iff [Pattern.Sizes] {temporary : Path} {configuration : Configuration} :
    options.configuration temporary = .ok configuration ↔
      options.Describes temporary configuration := by
  unfold Options.configuration
  rw [setAll_settings, Configuration.Builder.build_eq_ok_iff]
  constructor
  · rintro ⟨pattern, finds, present, rfl⟩
    exact .configured pattern finds present
  · rintro ⟨pattern, finds, present⟩
    exact ⟨pattern, finds, present, rfl⟩

theorem localStorage_eq (options : Options) :
    options.localStorage =
      { root := options.outputDirectory
        baseUrl := options.baseUrl.map StorageKey.trimBase } := by
  unfold localStorage
  cases options.baseUrl with
  | none => rfl
  | some url => rfl

theorem httpStorage_eq (options : Options) (endpoint bucket : Text) :
    options.httpStorage endpoint bucket =
      { endpoint := StorageKey.trimBase endpoint
        bucket := bucket
        region := options.region
        publicBaseUrl := options.publicBaseUrl.map StorageKey.trimBase
        token := options.token } := by
  unfold httpStorage
  cases options.token <;> cases options.publicBaseUrl <;> rfl

/-- Artifacts go to a target exactly if it is described. -/
theorem target_eq_ok_iff {target : Target} :
    options.target = .ok target ↔ options.AimsAt target := by
  constructor
  · intro aimed
    unfold Options.target at aimed
    split at aimed
    next unserved =>
      cases aimed
      rw [localStorage_eq]
      exact .directory unserved
    next => cases aimed
    next endpoint bucket served named =>
      cases aimed
      rw [httpStorage_eq]
      exact .service endpoint bucket served named
  · rintro (⟨unserved⟩ | ⟨endpoint, bucket, served, named⟩)
    · simp only [Options.target, unserved, localStorage_eq]
    · simp only [Options.target, served, named, httpStorage_eq]

theorem target_eq_error {error : SetupError} (failed : options.target = .error error) :
    options.endpoint.isSome = true ∧ options.bucket = none ∧ error = .noBucket := by
  unfold Options.target at failed
  split at failed
  next => cases failed
  next endpoint served unnamed =>
    cases failed
    rw [served]
    exact ⟨rfl, unnamed, rfl⟩
  next => cases failed

/-- The bucket is all that a target can lack. -/
theorem AimsAt.bucket {target : Target} (aimed : options.AimsAt target) :
    options.endpoint.isSome = true → options.bucket.isSome = true := by
  intro served
  cases aimed with
  | directory unserved =>
      rw [unserved] at served
      cases served
  | service endpoint bucket served named =>
      rw [named]
      rfl

theorem AimsAt.isReady [Pattern.Sizes] {payload : Text} {configuration : Configuration}
    {target : Target} (aimed : options.AimsAt target) (read : options.Reads host files payload)
    (described : options.Describes host.temporary configuration) : options.IsReady host files :=
  ⟨⟨payload, read⟩, ⟨configuration, described⟩, aimed.bucket⟩

/-- What prevents a conversion really does. -/
theorem Prevents.not_isReady [Pattern.Sizes] {error : SetupError}
    (prevented : options.Prevents host files error) : ¬options.IsReady host files := by
  rintro ⟨⟨payload, read⟩, ⟨configuration, described⟩, bucket⟩
  cases prevented with
  | payload error unread => exact unread payload read
  | configuration error _ _ undescribed => exact undescribed configuration described
  | noBucket _ _ _ _ served unnamed =>
      have named := bucket served
      rw [unnamed] at named
      cases named

theorem setup_eq_ok [Pattern.Sizes] {payload : Text} {configuration : Configuration}
    {target : Target} (read : options.Reads host files payload)
    (described : options.Describes host.temporary configuration) (aimed : options.AimsAt target) :
    options.setup host files =
      .ok (payload, options.converter host configuration target) := by
  unfold setup
  rw [readPayload_eq_ok_iff.mpr read, configuration_eq_ok_iff.mpr described,
    target_eq_ok_iff.mpr aimed]
  rfl

/-- A conversion is set up, or the first that is missing is told. -/
theorem setup_cases [Pattern.Sizes] (options : Options) (host : Host) (files : Files) :
    (∃ error, options.setup host files = .error error ∧ options.Prevents host files error) ∨
      ∃ payload configuration target, options.Reads host files payload ∧
        options.Describes host.temporary configuration ∧ options.AimsAt target := by
  unfold setup
  cases source : options.readPayload host files with
  | error error =>
      left
      refine ⟨_, rfl, .payload error ?_⟩
      intro payload read
      rw [readPayload_eq_ok_iff.mpr read] at source
      cases source
  | ok payload =>
      have read := readPayload_eq_ok_iff.mp source
      cases built : options.configuration host.temporary with
      | error error =>
          left
          refine ⟨_, rfl, .configuration error payload read ?_⟩
          intro configuration described
          rw [configuration_eq_ok_iff.mpr described] at built
          cases built
      | ok configuration =>
          have described := configuration_eq_ok_iff.mp built
          cases chosen : options.target with
          | error error =>
              left
              rcases target_eq_error chosen with ⟨served, unnamed, rfl⟩
              exact ⟨_, rfl, .noBucket payload configuration read described served unnamed⟩
          | ok target =>
              right
              exact ⟨payload, configuration, target, read, described,
                target_eq_ok_iff.mp chosen⟩

end Options

end CommandLine

end Typeset
