import Typeset.Libraries
import Typeset.Main
import Typeset.Proofs.CommandLine.Setup
import Typeset.Proofs.Service.Answers

/-!
# What a command's exit code tells

A command that asks for a conversion prints a response exactly if the conversion can be set up; it
is the response of the handler that the options choose, and the exit code tells its status.  If the
conversion cannot be set up, nothing is printed, nothing has been asked or changed, and the exit
code is 1.

Statuses and exit codes are brought together by the contract of the handlers, as a status beyond
the three of it could have an exit code of its own.
-/

namespace Typeset

namespace CommandLine

/-- Whether a command has ended with a response: it is printed, and the exit code tells its
status. -/
structure Outcome.Tells (outcome : Outcome) (response : Response) : Prop where
  output : outcome.output = printed response
  complete_iff : outcome.exitCode = 0 ↔ response.status = 200
  refused_iff : outcome.exitCode = 2 ↔ response.status = 400
  failed_iff : outcome.exitCode = 1 ↔ response.status = 500

namespace Options

/-- What a converter answers to a payload, and what there is afterwards. -/
def answer [Pattern.Sizes] (options : Options) (converter : Converter) (payload : Text)
    (world : World) : Response × World :=
  if options.batch then (converter.handleBatch payload).run world
  else (converter.handleSingle payload).run world

/-- The jobs that a payload asks for. -/
def jobs [Pattern.Sizes] (options : Options) (converter : Converter) (payload : Text) :
    Except ValidationError (List DocumentJob) :=
  if options.batch then
    BatchItem.jobsOfPayload payload converter.configuration.profile.implicitFigures
  else SingleRequest.jobsOfPayload payload converter.configuration.profile.implicitFigures

/-- How a command that asks for a conversion ends. -/
structure Ends [Pattern.Sizes] (options : Options) (host : Host) (world : World) (outcome : Outcome)
    (after : World) : Prop where
  printed_iff : outcome.output ≠ [] ↔ options.IsReady host world.files
  of_unready : ¬options.IsReady host world.files →
    ∃ error, options.Prevents host world.files error ∧ outcome = ⟨1, [], error.message⟩ ∧
      after = world
  of_ready : ∀ payload configuration target, options.Reads host world.files payload →
    options.Describes host.temporary configuration → options.AimsAt target →
      let converter : Converter :=
        { engine := host.engine ⟨options.program, [], configuration.environment⟩
          storage := host.storage target
          configuration := configuration
          stamps := host.stamps }
      let (response, last) := options.answer converter payload world
      outcome.Tells response ∧ after = last ∧
        converter.Contract (options.jobs converter payload) world response last

variable {options : Options} {host : Host} {world : World}

theorem run_respond [Pattern.Sizes] (options : Options) (converter : Converter) (payload : Text)
    (world : World) :
    (respond converter options.batch payload).run world =
      options.answer converter payload world := by
  unfold respond answer
  cases options.batch with
  | false => rfl
  | true => rfl

theorem contract_answer [Pattern.Sizes] (options : Options) (converter : Converter) (payload : Text)
    (world : World) :
    converter.Contract (options.jobs converter payload) world
      (options.answer converter payload world).1 (options.answer converter payload world).2 := by
  unfold jobs answer
  cases options.batch with
  | false => exact converter.contract_handleValidated _ world
  | true => exact converter.contract_handleValidated _ world

end Options

theorem printed_ne_nil (response : Response) : printed response ≠ [] := by
  simp [printed]

theorem exitCode_of_status {response : Response}
    (status : response.status = 200 ∨ response.status = 400 ∨ response.status = 500) :
    response.status = 200 ∧ exitCode response = 0 ∨
      response.status = 400 ∧ exitCode response = 2 ∨
        response.status = 500 ∧ exitCode response = 1 := by
  rcases status with status | status | status <;>
    simp [exitCode, Response.isSuccess, status]

/-- The exit code tells which of the three statuses a response has. -/
theorem tells_of_status {response : Response} (errors : Text)
    (status : response.status = 200 ∨ response.status = 400 ∨ response.status = 500) :
    Outcome.Tells ⟨exitCode response, printed response, errors⟩ response := by
  have codes := exitCode_of_status status
  constructor
  case output => rfl
  all_goals
    dsimp only
    omega

variable {options : Options} {host : Host} {world : World}

theorem run_convert_of_error [Pattern.Sizes] {error : SetupError}
    (failed : options.setup host world.files = .error error) :
    (convert options host).run world = (⟨1, [], error.message⟩, world) := by
  rw [convert, Run.run_get_bind, failed]
  rfl

theorem run_convert_of_ok [Pattern.Sizes] {payload : Text} {converter : Converter}
    (ready : options.setup host world.files = .ok (payload, converter)) :
    (convert options host).run world =
      let (response, after) := options.answer converter payload world
      (⟨exitCode response, printed response, Progress.summary after.events⟩, after) := by
  rw [convert, Run.run_get_bind, ready]
  exact Run.run_bind_of_run (options.run_respond converter payload world)

theorem ends_of_error [Pattern.Sizes] {error : SetupError}
    (failed : options.setup host world.files = .error error)
    (prevented : options.Prevents host world.files error) :
    options.Ends host world ((convert options host).run world).1
      ((convert options host).run world).2 := by
  rw [run_convert_of_error failed]
  exact
    { printed_iff := by
        constructor
        · intro printed
          exact absurd rfl printed
        · intro ready
          exact absurd ready prevented.not_isReady
      of_unready := fun _ => ⟨error, prevented, rfl, rfl⟩
      of_ready := by
        intro payload configuration target read described aimed
        exact absurd (aimed.isReady read described) prevented.not_isReady }

theorem ends_of_ready [Pattern.Sizes] {payload : Text} {configuration : Configuration}
    {target : Target} (read : options.Reads host world.files payload)
    (described : options.Describes host.temporary configuration) (aimed : options.AimsAt target) :
    options.Ends host world ((convert options host).run world).1
      ((convert options host).run world).2 where
  printed_iff := by
    rw [run_convert_of_ok (Options.setup_eq_ok read described aimed)]
    constructor
    · intro printed
      exact aimed.isReady read described
    · intro ready
      exact printed_ne_nil _
  of_unready := by
    intro unready
    exact absurd (aimed.isReady read described) unready
  of_ready := by
    intro payload configuration target read described aimed
    have contract :=
      options.contract_answer (options.converter host configuration target) payload world
    rw [run_convert_of_ok (Options.setup_eq_ok read described aimed)]
    exact ⟨tells_of_status _ contract.status, rfl, contract⟩

/-- How a command ends, whatever its engine and its storage do. -/
theorem run_ends [Pattern.Sizes] {arguments : List Text} {defined : Variables}
    (accepted : command arguments defined = .ok (.convert options)) (host : Host) (world : World) :
    options.Ends host world ((run arguments defined host).run world).1
      ((run arguments defined host).run world).2 := by
  have ran : run arguments defined host = convert options host := by
    rw [run, accepted]
  rw [ran]
  rcases options.setup_cases host world.files with
    ⟨error, failed, prevented⟩ | ⟨payload, configuration, target, read, described, aimed⟩
  · exact ends_of_error failed prevented
  · exact ends_of_ready read described aimed

theorem run_ends_refused :
    let host := Program.host "/tmp".toList (Text.toUtf8 "{}".toList) (Program.stampsFrom 0 0)
    let world : World := ⟨⟨[], []⟩, [], []⟩
    let refused := run [['-']] [] host
    let unserved := run [['-'], "--endpoint=http://localhost:9000".toList] [] host
    ((refused.run world).1.output ≠ [] ∧ (refused.run world).1.exitCode = 2) ∧
      (unserved.run world).1.output = [] ∧ (unserved.run world).1.exitCode = 1 ∧
        (unserved.run world).2 = world := by
  intro host world refused unserved
  constructor
  · let options := Given.options [] ['-']
    have accepted : command [['-']] [] = .ok (.convert options) :=
      eq_ok_of_toOption (by decide +kernel)
    have ends := run_ends accepted host world
    have read : options.Reads host world.files "{}".toList := rfl
    have described : options.Describes host.temporary
        (options.configured host.temporary LabelPattern.standard) :=
      .configured _ rfl (by decide)
    have aimed : options.AimsAt (.directory ⟨"md2pdf-out".toList, none⟩) := .directory rfl
    have told := (ends.of_ready _ _ _ read described aimed).1
    exact ⟨ends.printed_iff.mpr (aimed.isReady read described),
      told.refused_iff.mpr (by decide +kernel)⟩
  · let options :=
      Given.options [(.endpoint, "http://localhost:9000".toList)] ['-']
    have accepted : command [['-'], "--endpoint=http://localhost:9000".toList] [] =
        .ok (.convert options) :=
      eq_ok_of_toOption (by decide +kernel)
    have unready : ¬options.IsReady host world.files := by
      intro ready
      cases ready.bucket rfl
    rcases (run_ends accepted host world).of_unready unready with
      ⟨_, -, ended, unchanged⟩
    exact ⟨congrArg Outcome.output ended, congrArg Outcome.exitCode ended, unchanged⟩

end CommandLine

end Typeset
