import Typeset.Proofs.Convert.Conversion

/-!
# The states of a document

An observer sees each document take one of the four ways, from its first state to a final one.
Which way it is and what is told in the end say exactly how the conversion ended, and they say how
often the engine and the storage have been asked.
-/

namespace Typeset

namespace DocumentPath

/-- The way of a document tells how the conversion has ended. -/
inductive Explains : DocumentPath → Except ConvertError UploadedArtifact → Prop where
  | uploaded (artifact : UploadedArtifact) : Explains (.uploaded artifact.url) (.ok artifact)
  | notStored (fileName key : Text) (source : StorageError) :
      Explains (.notStored (ConvertError.storage fileName key source).message)
        (.error (.storage fileName key source))
  | notGenerated (fileName : Text) (diagnosis : Diagnosis) :
      Explains (.notGenerated (ConvertError.generation fileName diagnosis).message)
        (.error (.generation fileName diagnosis))
  | withoutScratch (directory : Path) (source : Scratch.Error) :
      Explains (.withoutScratch (ConvertError.scratch directory source).message)
        (.error (.scratch directory source))

/-- What is asked on a way, given the files that it begins with: the document is generated to the
scratch file that is reserved for it, and then either stored from there or generated again. -/
def Asks (converter : Converter) (job : DocumentJob) (files : Files) :
    DocumentPath → List Call → Prop
  | uploaded _, calls => ∃ scratch reserved content,
      converter.reserve job files = .ok (scratch, reserved) ∧
        calls = [.generate (converter.request job scratch),
          .upload (job.owner ++ '/' :: job.fileName ++ '.' :: job.format.extension) scratch
            content]
  | notStored _, calls => ∃ scratch reserved content,
      converter.reserve job files = .ok (scratch, reserved) ∧
        calls = [.generate (converter.request job scratch),
          .upload (job.owner ++ '/' :: job.fileName ++ '.' :: job.format.extension) scratch
            content]
  | notGenerated _, calls => ∃ scratch reserved,
      converter.reserve job files = .ok (scratch, reserved) ∧
        calls = [.generate (converter.request job scratch),
          .generate (converter.retry job scratch)]
  | withoutScratch _, calls => calls = []

theorem Explains.unique {first second : DocumentPath}
    {result : Except ConvertError UploadedArtifact} (firstExplains : first.Explains result)
    (secondExplains : second.Explains result) : first = second := by
  cases firstExplains <;> cases secondExplains <;> rfl

end DocumentPath

namespace Converter

open DocumentPath

variable {converter : Converter} {job : DocumentJob}

/-- The way that a conversion has taken. -/
theorem Conversion.exists_path {world after : World}
    {result : Except ConvertError UploadedArtifact}
    (conversion : Conversion converter job world result after) :
    ∃ path : DocumentPath, ∃ calls,
      after.events = world.events ++ converter.recorded (path.events job.fileName) ∧
        after.calls = world.calls ++ calls ∧
        path.Explains result ∧ path.Asks converter job world.files calls := by
  cases conversion with
  | withoutScratch source refused =>
      exact ⟨_, [], rfl, (List.append_nil _).symm, .withoutScratch _ source, rfl⟩
  | notGenerated scratch reserved rejected retried rawError transcript second made =>
      exact ⟨_, _, rfl, rfl, .notGenerated _ _, scratch, reserved, made, rfl⟩
  | notStored scratch reserved generated stored artifact source made =>
      exact ⟨_, _, rfl, rfl, .notStored _ _ source, scratch, reserved, _, made, rfl⟩
  | uploaded scratch reserved generated stored artifact url made =>
      exact ⟨_, _, rfl, rfl, .uploaded ⟨job.fileName, job.format, job.storageKey, url⟩, scratch,
        reserved, _, made, rfl⟩

variable (converter job)

/-- What an observer is told about a document is one of the four ways, it is the one that the
result explains, and engine and storage have been asked what belongs to it. -/
theorem convert_events_eq_path (world : World)
    (recording : converter.configuration.observer = some .recording) :
    let result := ((converter.convert job).run world).1
    let after := ((converter.convert job).run world).2
    (∃ path : DocumentPath, after.events = world.events ++ path.events job.fileName ∧
      ∀ other : DocumentPath,
        after.events = world.events ++ other.events job.fileName → other = path) ∧
    ∀ path : DocumentPath,
      (after.events = world.events ++ path.events job.fileName ↔ path.Explains result) ∧
      (after.events = world.events ++ path.events job.fileName →
        ∃ calls, after.calls = world.calls ++ calls ∧
          path.Asks converter job world.files calls) := by
  intro result after
  rcases (conversion_convert converter job world).exists_path with
    ⟨path, calls, told, asked, explains, asks⟩
  rw [converter.recorded_eq_self recording] at told
  have unique : ∀ other : DocumentPath,
      after.events = world.events ++ other.events job.fileName → other = path := by
    intro other traced
    have same := told.symm.trans traced
    exact (events_injective job.fileName (List.append_cancel_left same)).symm
  refine ⟨⟨path, told, unique⟩, ?_⟩
  intro other
  refine ⟨⟨?_, ?_⟩, ?_⟩
  · intro traced
    rw [unique other traced]
    exact explains
  · intro explained
    rw [explained.unique explains]
    exact told
  · intro traced
    rw [unique other traced]
    exact ⟨calls, asked, asks⟩

/-- A converter whose engine leaves every document empty and whose storage is busy. -/
def busy : Converter where
  engine := ⟨fun _ request files => (.success (.file (request.destination.getD [])), files)⟩
  storage := ⟨fun _ key _ files => (.error (.rejected key 503 "busy".toList), files)⟩
  configuration := { Configuration.standard "/tmp".toList with observer := some .recording }
  stamps := Scratch.countingStamps

theorem convert_events_busy :
    let job : DocumentJob := ⟨['u'], ['d'], .pdf, ['#'], false, none⟩
    let world : World := ⟨⟨[], [(["tmp".toList], .directory)]⟩, [], []⟩
    let error : ConvertError := .storage ['d'] job.storageKey
      (.rejected job.storageKey 503 "busy".toList)
    ((busy.convert job).run world).1 = .error error ∧
      ((busy.convert job).run world).2.events =
        (DocumentPath.notStored error.message).events ['d'] := by
  intro job world error
  have ended : ((busy.convert job).run world).1 = .error error := by
    rfl
  have explained : (DocumentPath.notStored error.message).Explains
      ((busy.convert job).run world).1 := by
    rw [ended]
    exact .notStored _ _ _
  exact ⟨ended, ((convert_events_eq_path busy job world rfl).2 _).1.mpr explained⟩

end Converter

end Typeset
