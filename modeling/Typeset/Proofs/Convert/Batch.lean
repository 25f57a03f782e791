import Typeset.Proofs.Convert.StateMachine

/-!
# Batches

The documents of a batch are uploaded in order, and the first one that fails ends the batch.

`UploadsAll` says of a list of documents that each of them has been uploaded, in the world that the
one before it has left, and `FailsAt` that all documents before a position have been uploaded and
that the one there has failed.  A batch always does one of the two with all of its documents, and
there is only one position that it can fail at.  The world that it leaves is that of the last
document it has converted, so that nothing comes of the documents behind a failure.
-/

namespace Typeset

/-- An event about one document, not about the whole batch. -/
def Event.OfDocument : Event → Prop
  | .batchStart _ => False
  | .state _ _ => True
  | .complete _ _ => True
  | .error _ _ => True
  | .batchComplete _ _ => False

theorem DocumentPath.ofDocument_of_mem (path : DocumentPath) (fileName : Text) :
    ∀ event ∈ path.events fileName, event.OfDocument := by
  cases path with
  | uploaded url => simp [events, Event.OfDocument]
  | notStored message => simp [events, Event.OfDocument]
  | notGenerated message => simp [events, Event.OfDocument]
  | withoutScratch message => simp [events, Event.OfDocument]

namespace Converter

variable (converter : Converter)

/-- The conversion of a document in a world uploads it under its key, where the storage has given
the address. -/
structure Uploads (job : DocumentJob) (world : World) (artifact : UploadedArtifact)
    (after : World) : Prop where
  ran : (converter.convert job).run world = (.ok artifact, after)
  fileName : artifact.fileName = job.fileName
  format : artifact.format = job.format
  key : artifact.key = job.storageKey
  stored : ∃ history scratch generated left,
    after.calls = history ++
        [.upload job.storageKey scratch (generated.read scratch).toOption] ∧
      converter.storage.upload history job.storageKey scratch generated =
        (.ok artifact.url, left)

/-- All documents are uploaded, each in the world that the one before it has left. -/
inductive UploadsAll : List DocumentJob → World → List UploadedArtifact → World → Prop where
  | nil (world : World) : UploadsAll [] world [] world
  | cons {job : DocumentJob} {jobs : List DocumentJob} {world middle after : World}
      {artifact : UploadedArtifact} {uploads : List UploadedArtifact}
      (first : converter.Uploads job world artifact middle)
      (rest : UploadsAll jobs middle uploads after) :
      UploadsAll (job :: jobs) world (artifact :: uploads) after

/-- All documents before a position are uploaded, and the conversion of the document there fails. -/
def FailsAt (jobs : List DocumentJob) (world : World) (position : Nat)
    (uploads : List UploadedArtifact) (error : ConvertError) (after : World) : Prop :=
  ∃ job middle, jobs[position]? = some job ∧
    converter.UploadsAll (jobs.take position) world uploads middle ∧
    (converter.convert job).run middle = (.error error, after)

/-- What is around the documents of a batch.  Nothing changes after the last document that has been
converted, which has left `last`, but that the end is reported. -/
structure Encloses (total uploaded : Nat) (world last after : World) : Prop where
  after_eq : after = { last with
    events := last.events ++ converter.recorded [.batchComplete total uploaded] }
  reported : ∃ documents : List Event, (∀ event ∈ documents, event.OfDocument) ∧
    after.events = world.events ++
      converter.recorded (.batchStart total :: documents ++ [.batchComplete total uploaded])

variable {converter} {job : DocumentJob} {jobs : List DocumentJob}

theorem uploads_of_run {world after : World} {artifact : UploadedArtifact}
    (ran : (converter.convert job).run world = (.ok artifact, after)) :
    converter.Uploads job world artifact after := by
  have conversion := conversion_convert converter job world
  rw [ran] at conversion
  cases conversion with
  | uploaded scratch reserved generated left artifact url made accepted kept =>
      exact {
        ran := ran
        fileName := rfl
        format := rfl
        key := rfl
        stored := ⟨world.calls ++ [.generate (converter.request job scratch)], scratch, generated,
          left, by simp, kept⟩ }

theorem UploadsAll.length_eq {world after : World} {uploads : List UploadedArtifact}
    (all : converter.UploadsAll jobs world uploads after) : uploads.length = jobs.length := by
  induction all with
  | nil world => rfl
  | cons first rest ih => simp [ih]

/-- After documents that are uploaded, the loop goes on with the others. -/
theorem UploadsAll.run_append {world middle : World} {uploads : List UploadedArtifact}
    (all : converter.UploadsAll jobs world uploads middle) (others : List DocumentJob) :
    (converter.convertAll (jobs ++ others)).run world =
      ((uploads ++ ((converter.convertAll others).run middle).1.1,
          ((converter.convertAll others).run middle).1.2),
        ((converter.convertAll others).run middle).2) := by
  induction all with
  | nil world => rfl
  | cons first rest ih =>
      rw [List.cons_append, convertAll, Run.run_bind_of_run first.ran, Run.run_bind_of_run ih]
      rfl

theorem UploadsAll.run_eq {world after : World} {uploads : List UploadedArtifact}
    (all : converter.UploadsAll jobs world uploads after) :
    (converter.convertAll jobs).run world = ((uploads, none), after) := by
  have ran := all.run_append []
  rw [List.append_nil] at ran
  rw [ran]
  exact congrArg (fun uploads => ((uploads, none), after)) (List.append_nil uploads)

theorem FailsAt.run_eq {world after : World} {position : Nat} {uploads : List UploadedArtifact}
    {error : ConvertError}
    (fails : converter.FailsAt jobs world position uploads error after) :
    (converter.convertAll jobs).run world = ((uploads, some error), after) := by
  rcases fails with ⟨job, middle, found, before, failed⟩
  rcases List.getElem?_eq_some_iff.mp found with ⟨within, rfl⟩
  have last : (converter.convertAll (jobs[position] :: jobs.drop (position + 1))).run middle =
      (([], some error), after) := by
    rw [convertAll, Run.run_bind_of_run failed]
    rfl
  have ran := before.run_append (jobs[position] :: jobs.drop (position + 1))
  rw [last, ← List.drop_eq_getElem_cons within, List.take_append_drop] at ran
  rw [ran]
  exact congrArg (fun uploads => ((uploads, some error), after)) (List.append_nil uploads)

theorem FailsAt.length_eq {world after : World} {position : Nat}
    {uploads : List UploadedArtifact} {error : ConvertError}
    (fails : converter.FailsAt jobs world position uploads error after) :
    uploads.length = position := by
  rcases fails with ⟨job, middle, found, before, failed⟩
  rcases List.getElem?_eq_some_iff.mp found with ⟨within, _⟩
  rw [before.length_eq, List.length_take]
  omega

theorem failsAt_zero {world after : World} {error : ConvertError}
    (failed : (converter.convert job).run world = (.error error, after)) :
    converter.FailsAt (job :: jobs) world 0 [] error after :=
  ⟨job, world, rfl, .nil world, failed⟩

theorem FailsAt.cons {world middle after : World} {position : Nat} {artifact : UploadedArtifact}
    {uploads : List UploadedArtifact} {error : ConvertError}
    (fails : converter.FailsAt jobs middle position uploads error after)
    (first : converter.Uploads job world artifact middle) :
    converter.FailsAt (job :: jobs) world (position + 1) (artifact :: uploads) error after := by
  rcases fails with ⟨failing, reached, found, before, failed⟩
  exact ⟨failing, reached, found, .cons first before, failed⟩

theorem FailsAt.first_or_later {world after : World} {position : Nat}
    {uploads : List UploadedArtifact} {error : ConvertError}
    (fails : converter.FailsAt (job :: jobs) world position uploads error after) :
    (position = 0 ∧ (converter.convert job).run world = (.error error, after)) ∨
      ∃ previous artifact middle rest, position = previous + 1 ∧
        (converter.convert job).run world = (.ok artifact, middle) ∧
        converter.FailsAt jobs middle previous rest error after := by
  rcases fails with ⟨failing, reached, found, before, failed⟩
  cases position with
  | zero =>
      cases before
      obtain rfl : job = failing := by simpa using found
      exact Or.inl ⟨rfl, failed⟩
  | succ previous =>
      rw [List.take_succ_cons] at before
      cases before with
      | cons first rest =>
          exact Or.inr ⟨previous, _, _, _, rfl, first.ran, failing, reached, found, rest, failed⟩

/-- A batch fails at one position only, because its documents always start in the same worlds. -/
theorem FailsAt.position_eq {world firstAfter secondAfter : World} {first second : Nat}
    {firstUploads secondUploads : List UploadedArtifact} {firstError secondError : ConvertError}
    (firstFails : converter.FailsAt jobs world first firstUploads firstError firstAfter)
    (secondFails : converter.FailsAt jobs world second secondUploads secondError secondAfter) :
    first = second := by
  induction jobs generalizing world first second firstUploads secondUploads with
  | nil =>
      rcases firstFails with ⟨job, middle, found, _⟩
      simp at found
  | cons job jobs ih =>
      rcases firstFails.first_or_later with
        ⟨rfl, firstRan⟩ | ⟨first, artifact, middle, rest, rfl, firstRan, firstLater⟩
      · rcases secondFails.first_or_later with
          ⟨rfl, _⟩ | ⟨second, artifact, middle, rest, rfl, secondRan, _⟩
        · rfl
        · cases firstRan.symm.trans secondRan
      · rcases secondFails.first_or_later with
          ⟨rfl, secondRan⟩ | ⟨second, other, reached, others, rfl, secondRan, secondLater⟩
        · cases firstRan.symm.trans secondRan
        · rw [firstRan, Prod.mk.injEq] at secondRan
          obtain ⟨-, rfl⟩ := secondRan
          rw [ih firstLater secondLater]

variable (converter)

/-- The loop over the documents uploads all of them, or all before the one that fails. -/
theorem convertAll_uploadsAll_or_failsAt (jobs : List DocumentJob) (world : World) :
    (∃ uploads after, (converter.convertAll jobs).run world = ((uploads, none), after) ∧
      converter.UploadsAll jobs world uploads after) ∨
    ∃ position uploads error after,
      (converter.convertAll jobs).run world = ((uploads, some error), after) ∧
        converter.FailsAt jobs world position uploads error after := by
  induction jobs generalizing world with
  | nil => exact Or.inl ⟨[], world, rfl, .nil world⟩
  | cons job jobs ih =>
      rcases ran : (converter.convert job).run world with ⟨result, middle⟩
      cases result with
      | error error =>
          refine Or.inr ⟨0, [], error, middle, ?_, failsAt_zero ran⟩
          rw [convertAll, Run.run_bind_of_run ran]
          rfl
      | ok artifact =>
          have first := uploads_of_run ran
          rcases ih middle with
            ⟨uploads, after, later, all⟩ | ⟨position, uploads, error, after, later, fails⟩
          · refine Or.inl ⟨artifact :: uploads, after, ?_, .cons first all⟩
            rw [convertAll, Run.run_bind_of_run ran, Run.run_bind_of_run later]
            rfl
          · refine Or.inr ⟨position + 1, artifact :: uploads, error, after, ?_, fails.cons first⟩
            rw [convertAll, Run.run_bind_of_run ran, Run.run_bind_of_run later]
            rfl

theorem run_convert_events (job : DocumentJob) (world : World) :
    ∃ documents : List Event, (∀ event ∈ documents, event.OfDocument) ∧
      ((converter.convert job).run world).2.events =
        world.events ++ converter.recorded documents := by
  rcases (conversion_convert converter job world).exists_path with ⟨path, _, told, _⟩
  exact ⟨path.events job.fileName, path.ofDocument_of_mem job.fileName, told⟩

theorem run_convertAll_events (jobs : List DocumentJob) (world : World) :
    ∃ documents : List Event, (∀ event ∈ documents, event.OfDocument) ∧
      ((converter.convertAll jobs).run world).2.events =
        world.events ++ converter.recorded documents := by
  induction jobs generalizing world with
  | nil =>
      refine ⟨[], by simp, ?_⟩
      rw [recorded_nil, List.append_nil]
      rfl
  | cons job jobs ih =>
      rcases converter.run_convert_events job world with ⟨first, firstOnly, firstTold⟩
      rcases ran : (converter.convert job).run world with ⟨result, middle⟩
      rw [ran] at firstTold
      rw [convertAll, Run.run_bind_of_run ran]
      cases result with
      | error error => exact ⟨first, firstOnly, firstTold⟩
      | ok artifact =>
          rcases ih middle with ⟨rest, restOnly, restTold⟩
          refine ⟨first ++ rest, ?_, ?_⟩
          · intro event member
            rcases List.mem_append.mp member with inFirst | inRest
            · exact firstOnly event inFirst
            · exact restOnly event inRest
          · rw [recorded_append, ← List.append_assoc, ← firstTold]
            exact restTold

theorem encloses_of_run {jobs : List DocumentJob} {world last : World}
    {uploads : List UploadedArtifact} {error : Option ConvertError}
    (ran : (converter.convertAll jobs).run
      { world with events := world.events ++ converter.recorded [.batchStart jobs.length] } =
        ((uploads, error), last)) :
    converter.Encloses jobs.length uploads.length world last
      ((converter.convertBatch jobs).run world).2 := by
  rw [converter.run_convertBatch_of_run ran]
  rcases converter.run_convertAll_events jobs { world with
    events := world.events ++ converter.recorded [.batchStart jobs.length] } with
    ⟨documents, only, told⟩
  rw [ran] at told
  have lastTold : last.events = world.events ++ converter.recorded [.batchStart jobs.length] ++
      converter.recorded documents := told
  refine ⟨rfl, documents, only, ?_⟩
  simp only [lastTold, List.append_assoc, ← recorded_append]
  rfl

/-- A batch uploads all of its documents in order, or stops at the first that fails. -/
theorem convertBatch_in_order (jobs : List DocumentJob) (world : World) :
    let begun : World := { world with
      events := world.events ++ converter.recorded [.batchStart jobs.length] }
    let after := ((converter.convertBatch jobs).run world).2
    (∀ report, ((converter.convertBatch jobs).run world).1 = .ok report →
      ∃ last, converter.UploadsAll jobs begun report.uploads last ∧
        converter.Encloses jobs.length report.uploads.length world last after) ∧
    ∀ error, ((converter.convertBatch jobs).run world).1 = .error error →
      ∃ position uploads last, converter.FailsAt jobs begun position uploads error last ∧
        (∀ other others otherError otherLast,
          converter.FailsAt jobs begun other others otherError otherLast → other = position) ∧
        converter.Encloses jobs.length position world last after := by
  intro begun after
  rcases converter.convertAll_uploadsAll_or_failsAt jobs begun with
    ⟨uploads, last, ran, all⟩ | ⟨position, uploads, error, last, ran, fails⟩
  · have ended : ((converter.convertBatch jobs).run world).1 = .ok ⟨uploads⟩ := by
      rw [converter.run_convertBatch_of_run ran, batchResult]
    refine ⟨?_, ?_⟩
    · intro report returned
      cases ended.symm.trans returned
      exact ⟨last, all, converter.encloses_of_run ran⟩
    · intro error returned
      cases ended.symm.trans returned
  · have ended : ((converter.convertBatch jobs).run world).1 = .error error := by
      rw [converter.run_convertBatch_of_run ran, batchResult]
    refine ⟨?_, ?_⟩
    · intro report returned
      cases ended.symm.trans returned
    · intro returnedError returned
      cases ended.symm.trans returned
      refine ⟨position, uploads, last, fails, ?_, ?_⟩
      · intro other others otherError otherLast otherFails
        exact otherFails.position_eq fails
      · rw [← fails.length_eq]
        exact converter.encloses_of_run ran

end Converter

end Typeset
