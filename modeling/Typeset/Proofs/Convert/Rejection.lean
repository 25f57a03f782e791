import Typeset.Proofs.Convert.Conversion

/-!
# Rejected documents

The engine that rejects a document is asked once more, for the text of the same document with the
same template.  The two requests are built from different lists of arguments; that they belong
together is that both lists end in the same arguments for the template.

What the second run leaves is only a transcript, or nothing.  The error that is diagnosed is the
one of the first run, whatever the second one says.
-/

namespace Typeset

namespace FormatProfile

/-- The arguments for the template: none, or one. -/
def templateArguments (profile : FormatProfile) : List Text :=
  profile.template.toList.map templateArgument

/-- The arguments for a format, without the template. -/
def formatArguments (profile : FormatProfile) : OutputFormat → List Text
  | .pdf => profile.pdfArguments
  | .tex => profile.texArguments

theorem withTemplate_eq_append (profile : FormatProfile) (arguments : List Text) :
    profile.withTemplate arguments = arguments ++ profile.templateArguments := by
  unfold withTemplate templateArguments
  cases profile.template with
  | none => simp
  | some template => simp

theorem fileRun_eq_append (profile : FormatProfile) (format : OutputFormat) :
    profile.fileRun format = profile.formatArguments format ++ profile.templateArguments := by
  cases format with
  | pdf => exact profile.withTemplate_eq_append profile.pdfArguments
  | tex => exact profile.withTemplate_eq_append profile.texArguments

theorem transcriptRun_eq_append (profile : FormatProfile) :
    profile.transcriptRun = profile.transcriptArguments ++ profile.templateArguments :=
  profile.withTemplate_eq_append profile.transcriptArguments

end FormatProfile

/-- The text that a run into memory leaves: the transcript of a success, what a failure has
produced before it, and otherwise nothing. -/
inductive ConversionOutcome.Leaves : ConversionOutcome → Text → Prop where
  | transcript (text : Text) : Leaves (.success (.transcript text)) text
  | beforeFailure (ownError text : Text) : Leaves (.failure ownError (some text)) text
  | onlyFile (path : Path) : Leaves (.success (.file path)) []
  | onlyFailure (ownError : Text) : Leaves (.failure ownError none) []

/-- A request asks for the text of the document that another request generates to a file, with the
template of that request. -/
structure ConversionRequest.Retries (profile : FormatProfile) (retry first : ConversionRequest) :
    Prop where
  source : retry.source = first.source
  inputFormat : retry.inputFormat = first.inputFormat
  outputFormat : retry.outputFormat = .tex
  destination : retry.destination = none
  arguments : retry.arguments = profile.transcriptArguments ++ profile.templateArguments
  same_template : first.arguments =
    profile.formatArguments first.outputFormat ++ profile.templateArguments

namespace Converter

theorem leaves_transcriptOf (outcome : ConversionOutcome) :
    outcome.Leaves (transcriptOf outcome) := by
  cases outcome with
  | success artifact =>
      cases artifact with
      | file path => exact .onlyFile path
      | transcript text => exact .transcript text
  | failure ownError transcript =>
      cases transcript with
      | none => exact .onlyFailure ownError
      | some text => exact .beforeFailure ownError text

variable (converter : Converter) (job : DocumentJob)

theorem retries_retry (scratch : Path) :
    (converter.retry job scratch).Retries converter.configuration.profile
      (converter.request job scratch) where
  source := rfl
  inputFormat := rfl
  outputFormat := rfl
  destination := rfl
  arguments := converter.configuration.profile.transcriptRun_eq_append
  same_template := converter.configuration.profile.fileRun_eq_append job.format

/-- A document that the engine rejects is asked for once more, as a text, and nothing else is asked
for it.  Its error carries the diagnosis of the first error, with the transcript that the second run
has left. -/
theorem convert_of_rejected {world : World} {scratch : Path} {reserved rejected : Files}
    {rawError : Text} {transcript : Option Text}
    (made : converter.reserve job world.files = .ok (scratch, reserved))
    (failed : converter.engine.generate world.calls (converter.request job scratch) reserved =
      (.failure rawError transcript, rejected)) :
    let first := converter.request job scratch
    let result := ((converter.convert job).run world).1
    let after := ((converter.convert job).run world).2
    ∃ retry answer retried text,
      after.calls = world.calls ++ [.generate first, .generate retry] ∧
      first.destination = some scratch ∧
      retry.Retries converter.configuration.profile first ∧
      converter.engine.generate (world.calls ++ [.generate first]) retry rejected =
        (answer, retried) ∧
      answer.Leaves text ∧
      result = .error (.generation job.fileName
        (.diagnose rawError text (job.labelPattern.getD converter.configuration.labelPattern)
          converter.configuration.showDebug)) := by
  intro first result after
  rcases repeated : converter.engine.generate (world.calls ++ [.generate first])
    (converter.retry job scratch) rejected with ⟨answer, retried⟩
  have converted := run_convert_of_reserve converter job made
    (run_generateAndUpload_of_failure converter job failed repeated)
  refine ⟨converter.retry job scratch, answer, retried, transcriptOf answer, ?_, rfl,
    converter.retries_retry job scratch, repeated, leaves_transcriptOf answer, ?_⟩
  · exact congrArg (fun outcome => outcome.2.calls) converted
  · exact congrArg Prod.fst converted

/-- A converter with a template whose engine rejects every document, with another error the second
time, and leaves a transcript in memory. -/
def rejecting : Converter where
  engine :=
    ⟨fun _ request files =>
      (match request.destination with
        | some _ => .failure "l.2 x".toList none
        | none => .failure "l.1 y".toList (some "\\lambdalabel\x7bQ1\x7d\nx".toList),
        files)⟩
  storage := ⟨fun _ key _ files => (.ok key, files)⟩
  configuration :=
    { Configuration.standard "/tmp".toList with
      profile := { FormatProfile.standard with template := some "a.tex".toList } }
  stamps := Scratch.countingStamps

theorem convert_of_rejected_rejecting :
    let job : DocumentJob := ⟨['u'], ['d'], .pdf, ['#'], true, none⟩
    let world : World := ⟨⟨[], [(["tmp".toList], .directory)]⟩, [], []⟩
    ∃ retry : ConversionRequest, retry.source = ['#'] ∧
      retry.arguments = ["--standalone".toList, "--template=a.tex".toList] ∧
      ((rejecting.convert job).run world).1 =
        .error (.generation ['d'] (.diagnose "l.2 x".toList
          "\\lambdalabel\x7bQ1\x7d\nx".toList LabelPattern.standard false)) := by
  intro job world
  let reserved := world.files.put ["tmp".toList, "u-d-0-0.pdf".toList] (.file [])
  have made : rejecting.reserve job world.files = .ok ("/tmp/u-d-0-0.pdf".toList, reserved) := by
    rfl
  have failed : rejecting.engine.generate [] (rejecting.request job "/tmp/u-d-0-0.pdf".toList)
      reserved = (.failure "l.2 x".toList none, reserved) := by
    rfl
  rcases convert_of_rejected rejecting job made failed with
    ⟨retry, answer, retried, text, asked, destination, retries, repeated, left, ended⟩
  have answered : answer = .failure "l.1 y".toList
      (some "\\lambdalabel\x7bQ1\x7d\nx".toList) := by
    simp only [rejecting, retries.destination, Prod.mk.injEq] at repeated
    exact repeated.1.symm
  rw [answered] at left
  cases left
  exact ⟨retry, retries.source, retries.arguments, ended⟩

end Converter

end Typeset
