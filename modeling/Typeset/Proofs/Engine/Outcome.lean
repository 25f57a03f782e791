import Typeset.Engine.Process
import Typeset.Proofs.Text.Splitting
import Typeset.Proofs.Text.Utf8

/-!
# Outcomes of programs

An engine that is a program is known by what it writes and by how it ends.  A conversion succeeds
exactly if the program could be started and ended with code 0, and what it wrote as errors, however
much, makes no failure of that.

Otherwise there is always something to tell: what the program wrote as errors, or else how it
ended, or why it could not be started.  Diagnosis needs such a text, and it needs what the program
wrote before it failed, which is kept only if it was asked for in the first place.  Whether the
program took its whole input makes no difference, since one that gave up early says why.
-/

namespace Typeset

theorem Text.ofNat_injective : Function.Injective ofNat := by
  intro first second same
  have read := congrArg (Nat.ofDigitChars 10 · 0) same
  simpa [ofNat, Nat.ofDigitChars_ten_toDigits] using read

namespace ExitStatus

theorem signalName_eq_nil_or_cons (signal : Nat) :
    signalName signal = [] ∨ ∃ rest, signalName signal = ' ' :: rest := by
  unfold signalName
  split
  · split
    · exact .inl rfl
    · exact .inr ⟨_, rfl⟩
  · exact .inl rfl

/-- No digit stands after the number of a signal. -/
theorem isDigit_head?_signalName (signal : Nat) (dumpsCore : Bool) :
    ∀ char ∈ (signalName signal ++ if dumpsCore then " (core dumped)".toList else []).head?,
      char.isDigit = false := by
  rcases signalName_eq_nil_or_cons signal with unnamed | ⟨rest, named⟩
  · rw [unnamed]
    cases dumpsCore with
    | false => exact nofun
    | true =>
        rintro char ⟨⟩
        rfl
  · rw [named]
    rintro char ⟨⟩
    rfl

theorem message_exited (code : Nat) :
    (exited code).message = "exit status: ".toList ++ Text.ofNat code :=
  rfl

theorem message_killed (signal : Nat) (dumpsCore : Bool) :
    (killed signal dumpsCore).message =
      "signal: ".toList ++ (Text.ofNat signal ++
        (signalName signal ++ if dumpsCore then " (core dumped)".toList else [])) := by
  dsimp only [message]
  rw [List.append_assoc, List.append_assoc]

/-- The words for a status tell the status. -/
theorem message_injective : Function.Injective message := by
  intro first second same
  cases first with
  | exited code =>
      cases second with
      | exited other =>
          rw [message_exited, message_exited] at same
          exact congrArg exited (Text.ofNat_injective (List.append_cancel_left same))
      | killed signal dumpsCore =>
          have initial : some 'e' = some 's' := congrArg List.head? same
          cases initial
  | killed signal dumpsCore =>
      cases second with
      | exited other =>
          have initial : some 's' = some 'e' := congrArg List.head? same
          cases initial
      | killed other otherDumps =>
          have digits (number : Nat) : ∀ char ∈ Text.ofNat number, char.isDigit = true := by
            intro char member
            exact Nat.isDigit_of_mem_toDigits (by decide) (by decide) member
          rw [message_killed, message_killed] at same
          have words := List.append_cancel_left same
          have numbers := congrArg (List.takeWhile Char.isDigit) words
          rw [(Text.span_append (digits signal) (isDigit_head?_signalName signal dumpsCore)).1,
            (Text.span_append (digits other) (isDigit_head?_signalName other otherDumps)).1]
            at numbers
          obtain rfl := Text.ofNat_injective numbers
          have ends := List.append_cancel_left (List.append_cancel_left words)
          cases dumpsCore with
          | false =>
              cases otherDumps with
              | false => rfl
              | true => cases ends
          | true =>
              cases otherDumps with
              | false => cases ends
              | true => rfl

end ExitStatus

/-- What comes of starting a program: nothing that holds a NUL can be handed to it. -/
def Launcher.start (launch : Launcher) (invocation : Invocation) (files : Files) :
    Except OsError Finished × Files :=
  if EngineProgram.holdsNul invocation then (.error .nulInData, files) else launch invocation files

/-- The same programs, of which it is told otherwise whether they took all of their input. -/
def Launcher.telling (launch : Launcher) (tookInput : Invocation → Files → Bool) : Launcher :=
  fun invocation files =>
    let (ended, after) := launch invocation files
    (ended.map ({ · with tookInput := tookInput invocation files }), after)

namespace EngineProgram

/-- What a program is handed for a request. -/
structure Hands (engine : EngineProgram) (request : ConversionRequest) (invocation : Invocation) :
    Prop where
  program : invocation.program = engine.program
  input : invocation.input = request.source
  environment : invocation.environment = engine.environment.assignments
  toFile : ∀ path, request.destination = some path →
    invocation.arguments =
      engine.leading ++ ["--from".toList, request.inputFormat.readerName, "--to".toList,
        "latex".toList] ++ request.arguments ++ ["--output".toList, path]
  toMemory : request.destination = none →
    invocation.arguments =
      engine.leading ++ ["--from".toList, request.inputFormat.readerName, "--to".toList,
        "latex".toList] ++ request.arguments

/-- What a successful run has produced: the file that was asked for, or else what was written. -/
inductive Yields (request : ConversionRequest) (finished : Finished) : Artifact → Prop where
  | file (path : Path) (asked : request.destination = some path) :
      Yields request finished (.file path)
  | transcript (asked : request.destination = none) :
      Yields request finished (.transcript (Utf8.decode finished.output))

/-- What is told of a run that failed: what was written as errors, and if that is blank, the status,
or why the program could not be started. -/
inductive Tells (program : Path) : Except OsError Finished → Text → Prop where
  | written (finished : Finished) (spoken : (Utf8.decode finished.errors).trim ≠ []) :
      Tells program (.ok finished) (Utf8.decode finished.errors).trim
  | ended (finished : Finished) (silent : (Utf8.decode finished.errors).trim = [])
      (names : ∀ other : ExitStatus, other.message = finished.status.message →
        other = finished.status) :
      Tells program (.ok finished) ("Engine exited with ".toList ++ finished.status.message)
  | unstarted (error : OsError) :
      Tells program (.error error)
        ("Failed to start '".toList ++ program ++ "': ".toList ++ error.message)

/-- The outcome that is reported of a program that could not be started or has ended. -/
structure Reports (program : Path) (request : ConversionRequest)
    (started : Except OsError Finished) (outcome : ConversionOutcome) : Prop where
  succeeds_iff : (∃ artifact, outcome = .success artifact) ↔
    ∃ finished, started = .ok finished ∧ finished.status = .exited 0
  yields : ∀ artifact finished, outcome = .success artifact → started = .ok finished →
    Yields request finished artifact
  tells : ∀ rawError transcript, outcome = .failure rawError transcript →
    rawError ≠ [] ∧ Tells program started rawError
  transcript_iff : ∀ rawError transcript, outcome = .failure rawError transcript → ∀ text,
    (transcript = some text ↔ request.destination = none ∧ ∃ finished, started = .ok finished ∧
      finished.output ≠ [] ∧ text = Utf8.decode finished.output)

variable (engine : EngineProgram) (launch : Launcher) (request : ConversionRequest)
  (files : Files)

theorem generate_eq :
    engine.generate launch request files =
      match launch.start (engine.invocation request) files with
      | (.error error, after) => (.failure (startErrorText engine.program error) none, after)
      | (.ok finished, after) => (outcome request finished, after) := by
  unfold generate Launcher.start
  dsimp only
  split <;> rfl

theorem hands_invocation : engine.Hands request (engine.invocation request) where
  program := rfl
  input := rfl
  environment := rfl
  toFile := by
    intro path asked
    simp [invocation, ConversionRequest.commandArguments, asked]
  toMemory := by
    intro asked
    simp [invocation, ConversionRequest.commandArguments, asked]

theorem tells_errorText (program : Path) (finished : Finished) :
    Tells program (.ok finished) (errorText finished) := by
  unfold errorText
  dsimp only
  split
  next silent =>
    apply Tells.ended
    · simpa using silent
    · intro other same
      exact ExitStatus.message_injective same
  next spoken =>
    apply Tells.written
    simpa using spoken

theorem Tells.ne_nil {program : Path} {started : Except OsError Finished} {rawError : Text}
    (tells : Tells program started rawError) : rawError ≠ [] := by
  cases tells with
  | written finished spoken => exact spoken
  | ended finished silent names => simp
  | unstarted error => simp

theorem reports_unstarted (program : Path) (error : OsError) :
    Reports program request (.error error) (.failure (startErrorText program error) none) where
  succeeds_iff := by simp
  yields := by simp
  tells := by
    rintro rawError transcript ⟨⟩
    have tells : Tells program (.error error) (startErrorText program error) := .unstarted error
    exact ⟨tells.ne_nil, tells⟩
  transcript_iff := by
    rintro rawError transcript ⟨⟩ text
    simp

theorem reports_succeeded (program : Path) {finished : Finished}
    (succeeded : finished.status = .exited 0) :
    Reports program request (.ok finished) (outcome request finished) := by
  have artifact : ∃ artifact, outcome request finished = .success artifact ∧
      Yields request finished artifact := by
    cases asked : request.destination with
    | some path =>
        exact ⟨.file path, by simp [outcome, succeeded, asked, ExitStatus.isSuccess],
          .file path asked⟩
    | none =>
        exact ⟨.transcript (Utf8.decode finished.output),
          by simp [outcome, succeeded, asked, ExitStatus.isSuccess], .transcript asked⟩
  rcases artifact with ⟨artifact, ends, yielded⟩
  rw [ends]
  exact {
    succeeds_iff := by simp [succeeded]
    yields := by
      rintro _ _ ⟨⟩ ⟨⟩
      exact yielded
    tells := by simp
    transcript_iff := by simp }

theorem reports_failed (program : Path) {finished : Finished}
    (failed : finished.status ≠ .exited 0) :
    Reports program request (.ok finished) (outcome request finished) := by
  have ends : outcome request finished = .failure (errorText finished)
      (if request.destination.isNone && !(Utf8.decode finished.output).isEmpty then
        some (Utf8.decode finished.output) else none) := by
    simp [outcome, failed, ExitStatus.isSuccess]
  rw [ends]
  exact {
    succeeds_iff := by simp [failed]
    yields := by simp
    tells := by
      rintro rawError transcript ⟨⟩
      have tells := tells_errorText program finished
      exact ⟨tells.ne_nil, tells⟩
    transcript_iff := by
      rintro rawError transcript ⟨⟩ text
      constructor
      · intro kept
        split at kept
        next wanted =>
          cases kept
          simp only [Bool.and_eq_true, Option.isNone_iff_eq_none, Bool.not_eq_true',
            List.isEmpty_eq_false_iff, ne_eq, Utf8.decode_eq_nil_iff] at wanted
          exact ⟨wanted.1, finished, rfl, wanted.2, rfl⟩
        next => cases kept
      · rintro ⟨asked, _, ⟨⟩, wrote, rfl⟩
        simp [asked, Utf8.decode_eq_nil_iff, wrote] }

theorem reports_generate :
    Reports engine.program request (launch.start (engine.invocation request) files).1
      (engine.generate launch request files).1 := by
  rw [generate_eq]
  rcases launch.start (engine.invocation request) files with ⟨error | finished, after⟩
  · exact reports_unstarted request engine.program error
  · by_cases succeeded : finished.status = .exited 0
    · exact reports_succeeded request engine.program succeeded
    · exact reports_failed request engine.program succeeded

theorem start_telling (tookInput : Invocation → Files → Bool) (invocation : Invocation) :
    (launch.telling tookInput).start invocation files =
      ((launch.start invocation files).1.map
          ({ · with tookInput := tookInput invocation files }),
        (launch.start invocation files).2) := by
  unfold Launcher.start Launcher.telling
  split
  · rfl
  · rfl

/-- Nothing is read off whether a program took all of its input. -/
theorem generate_telling (tookInput : Invocation → Files → Bool) :
    engine.generate (launch.telling tookInput) request files =
      engine.generate launch request files := by
  rw [generate_eq, generate_eq, start_telling]
  rcases launch.start (engine.invocation request) files with ⟨error | finished, after⟩
  · rfl
  · rfl

/-- For a request the program is handed the source and the arguments that belong to it, and what is
reported of the run depends on how it ended and on what it wrote, and on nothing else. -/
theorem generate_reports :
    (∃ invocation, engine.Hands request invocation ∧
      Reports engine.program request (launch.start invocation files).1
        (engine.generate launch request files).1 ∧
      (engine.generate launch request files).2 = (launch.start invocation files).2) ∧
      ∀ tookInput, engine.generate (launch.telling tookInput) request files =
        engine.generate launch request files := by
  refine ⟨⟨engine.invocation request, engine.hands_invocation request,
    engine.reports_generate launch request files, ?_⟩, engine.generate_telling launch request files⟩
  rw [generate_eq]
  rcases launch.start (engine.invocation request) files with ⟨error | finished, after⟩
  · rfl
  · rfl

end EngineProgram

end Typeset
