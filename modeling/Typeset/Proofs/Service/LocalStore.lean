import Typeset.Libraries
import Typeset.Proofs.Convert.ScratchFiles
import Typeset.Proofs.Service.Answers
import Typeset.Proofs.Steps
import Typeset.Proofs.Storage.Local

/-!
# What requests leave in a directory

A request whose storage is a directory leaves there exactly the artifacts of the documents that it
has uploaded, each where its key leads.  If several documents lead to one place, the last one stays.

All operations on the way are `WritesBelow` the root: the scratch file, which is somewhere else,
contributes nothing, and an upload contributes its artifact or, if it fails, nothing.  What a run
contributes is therefore the list of its uploads, in order.
-/

namespace Typeset

/-- Where jobs have been stored, with what they have left there. -/
def LocalStorage.placed (storage : LocalStorage) (files : Files)
    (stored : List (DocumentJob × Bytes)) : List (Location × Bytes) :=
  stored.map fun (job, content) =>
    (files.place (storage.destination job.storageKey), content)

theorem LocalStorage.placed_congr (storage : LocalStorage) {before after : Files}
    (same : after.workingDirectory = before.workingDirectory)
    (stored : List (DocumentJob × Bytes)) :
    storage.placed after stored = storage.placed before stored := by
  simp only [placed, Files.place_congr same]

/-- The regular files below the root are those that have been stored, and each holds what has been
stored there last. -/
def LocalStorage.HoldsExactly (storage : LocalStorage) (files : Files)
    (stored : List (DocumentJob × Bytes)) : Prop :=
  ∀ names, names ≠ [] → files.content? (files.place storage.root ++ names) =
    Files.lastWritten (storage.placed files stored) (files.place storage.root ++ names)

namespace Converter

/-- What the scratch file of a document holds when the engine has finished with it. -/
def artifact? (converter : Converter) (job : DocumentJob) (world : World) : Option Bytes :=
  match converter.reserve job world.files with
  | .error _ => none
  | .ok (scratch, reserved) =>
      let (_, generated) :=
        converter.engine.generate world.calls (converter.request job scratch) reserved
      (generated.read scratch).toOption

/-- All documents are uploaded, each in the world that the one before it has left; with each goes
what its scratch file has held. -/
inductive StoresAll (converter : Converter) :
    List DocumentJob → World → List (DocumentJob × Bytes) → World → Prop where
  | nil (world : World) : StoresAll converter [] world [] world
  | cons {job : DocumentJob} {jobs : List DocumentJob} {world middle after : World}
      {uploaded : UploadedArtifact} {content : Bytes} {stored : List (DocumentJob × Bytes)}
      (first : converter.Uploads job world uploaded middle)
      (held : converter.artifact? job world = some content)
      (rest : StoresAll converter jobs middle stored after) :
      StoresAll converter (job :: jobs) world ((job, content) :: stored) after

/-- What a request for some jobs has stored when it is answered with a status: all of them, those
before the first that fails, or none if the directories of the engine cannot be made. -/
inductive Serves (converter : Converter) (jobs : List DocumentJob) (world : World) :
    Nat → List (DocumentJob × Bytes) → Prop where
  | unprepared (source : OsError) (left : Files)
      (refused : converter.configuration.environment.prepare world.files =
        (.error source, left)) :
      Serves converter jobs world 500 []
  | complete {prepared : Files} {stored : List (DocumentJob × Bytes)} {last : World}
      (ready : converter.Prepares world prepared)
      (all : converter.StoresAll jobs (converter.begun jobs world prepared) stored last) :
      Serves converter jobs world 200 stored
  | stopped {prepared : Files} {position : Nat} {uploads : List UploadedArtifact}
      {error : ConvertError} {stored : List (DocumentJob × Bytes)} {middle last : World}
      (ready : converter.Prepares world prepared)
      (fails : converter.FailsAt jobs (converter.begun jobs world prepared) position uploads error
        last)
      (before : converter.StoresAll (jobs.take position) (converter.begun jobs world prepared)
        stored middle) :
      Serves converter jobs world 500 stored

/-- Documents are stored in a directory apart from the scratch files, by an engine that keeps to
them. -/
structure StoresIn [DomainNames] (converter : Converter) (storage : LocalStorage) (files : Files) :
    Prop where
  engine : converter.engine.TouchesOnlyDestination
  directory : converter.storage = .ofDirectory storage
  unaddressed : storage.baseUrl = none
  apart : ¬files.place storage.root <+:
    files.place (files.absolute converter.configuration.scratchDirectory)

variable {converter : Converter} {storage : LocalStorage} {job : DocumentJob} {files : Files}

theorem StoresIn.congr [DomainNames] {after : Files} (stores : converter.StoresIn storage files)
    (same : after.workingDirectory = files.workingDirectory) :
    converter.StoresIn storage after where
  engine := stores.engine
  directory := stores.directory
  unaddressed := stores.unaddressed
  apart := by
    rw [Files.place_congr same, Files.absolute_congr same, Files.place_congr same]
    exact stores.apart

/-- No scratch file is below the root. -/
theorem StoresIn.outside [DomainNames] {scratch : Path} {reserved : Files} {names : Location}
    (stores : converter.StoresIn storage files)
    (made : converter.reserve job files = .ok (scratch, reserved)) (below : names ≠ []) :
    files.place storage.root ++ names ≠ files.place scratch := by
  rcases Scratch.exists_place_of_create made with ⟨name, place⟩
  intro inside
  apply stores.apart
  rw [place] at inside
  rcases List.eq_nil_or_concat' names with rfl | ⟨before, last, rfl⟩
  · exact absurd rfl below
  · rw [← List.append_assoc] at inside
    exact ⟨before, (List.append_inj' inside rfl).1⟩

/-- A scratch file that is held contributes nothing below the root. -/
theorem StoresIn.writesBelow_of_held [DomainNames] {scratch : Path} {reserved now : Files}
    {place : Location} (stores : converter.StoresIn storage files)
    (made : converter.reserve job files = .ok (scratch, reserved))
    (held : Scratch.Held files now scratch place)
    (same : now.workingDirectory = files.workingDirectory) :
    Files.WritesBelow (files.place storage.root) [] files now := by
  refine .of_content_eq same fun names below => Files.content?_congr (held.elsewhere _ ?_)
  rw [Files.eq_place_of_locate held.located, Files.place_of_isAbsolute held.absolute]
  exact stores.outside made below

/-- To release a scratch file contributes nothing below the root. -/
theorem StoresIn.writesBelow_released [DomainNames] {scratch : Path} {reserved : Files}
    (stores : converter.StoresIn storage files)
    (made : converter.reserve job files = .ok (scratch, reserved))
    (absolute : Path.isAbsolute scratch = true) (left : Files) :
    Files.WritesBelow (files.place storage.root) [] left (Scratch.released scratch left) := by
  refine .of_content_eq (Scratch.workingDirectory_released scratch left) fun names below =>
    Files.content?_congr (Scratch.entry?_released_of_ne ?_)
  intro reached
  apply stores.outside made below
  rw [Files.eq_place_of_locate reached, Files.place_of_isAbsolute absolute]

/-- A document that is uploaded contributes what its scratch file has held, and any other document
nothing. -/
theorem StoresIn.writesBelow_of_conversion [DomainNames] {world after : World}
    {result : Except ConvertError UploadedArtifact}
    (stores : converter.StoresIn storage world.files)
    (conversion : Conversion converter job world result after) :
    match result with
    | .ok _ => ∃ content, converter.artifact? job world = some content ∧
        Files.WritesBelow (world.files.place storage.root)
          (storage.placed world.files [(job, content)]) world.files after.files
    | .error _ =>
        Files.WritesBelow (world.files.place storage.root) [] world.files after.files := by
  cases conversion with
  | withoutScratch source refused => exact .refl _ _
  | notGenerated scratch reserved rejected retried rawError transcript second made failed
      repeated =>
      rcases exists_held_of_generate stores.engine made failed with ⟨place, held, same⟩
      have again := held.generate stores.engine.toKeepsToDestination
        (eq_scratch_of_retry_destination scratch) repeated
      have kept := stores.writesBelow_of_held made again
        ((stores.engine.workingDirectory _ _ _ _ _ repeated).trans same)
      exact kept.trans (stores.writesBelow_released made held.absolute retried)
  | notStored scratch reserved generated left artifact source made accepted refused =>
      rcases exists_held_of_generate stores.engine made accepted with ⟨place, held, same⟩
      rw [stores.directory] at refused
      have adds := LocalStorage.addsDirectories_of_upload_eq_error stores.unaddressed refused
      have kept := (stores.writesBelow_of_held made held same).trans (adds.writesBelow _)
      exact kept.trans (stores.writesBelow_released made held.absolute left)
  | uploaded scratch reserved generated left artifact url made accepted stored =>
      rcases exists_held_of_generate stores.engine made accepted with ⟨place, held, same⟩
      rw [stores.directory] at stored
      have outside : ∀ names, names ≠ [] →
          world.files.place storage.root ++ names ≠ generated.place scratch := by
        intro names below
        rw [Files.place_of_isAbsolute held.absolute]
        exact stores.outside made below
      rcases LocalStorage.exists_writesBelow_of_upload_eq_ok held.absolute held.located outside
        stored with ⟨content, read, writes⟩
      rw [Files.place_congr same] at writes
      have kept := (stores.writesBelow_of_held made held same).trans writes
      refine ⟨content, ?_, kept.trans (stores.writesBelow_released made held.absolute left)⟩
      simp only [artifact?, made, accepted, read]
      rfl

/-- Documents that are uploaded one after another contribute what their scratch files have held, in
order. -/
theorem StoresIn.exists_storesAll [DomainNames] {jobs : List DocumentJob} {world after : World}
    {uploads : List UploadedArtifact} (stores : converter.StoresIn storage world.files)
    (all : converter.UploadsAll jobs world uploads after) :
    ∃ stored, converter.StoresAll jobs world stored after ∧
      Files.WritesBelow (world.files.place storage.root) (storage.placed world.files stored)
        world.files after.files := by
  induction all with
  | nil world => exact ⟨[], .nil world, .refl _ _⟩
  | @cons job jobs world middle after uploaded uploads first rest ih =>
      have conversion := conversion_convert converter job world
      rw [first.ran] at conversion
      rcases stores.writesBelow_of_conversion conversion with ⟨content, held, writes⟩
      rcases ih (stores.congr writes.workingDirectory) with ⟨stored, later, others⟩
      refine ⟨(job, content) :: stored, .cons first held later, ?_⟩
      rw [storage.placed_congr writes.workingDirectory,
        Files.place_congr writes.workingDirectory] at others
      exact writes.trans others

/-- The document that ends a batch by its failure contributes nothing. -/
theorem StoresIn.exists_storesAll_of_failsAt [DomainNames] {jobs : List DocumentJob}
    {world after : World} {position : Nat} {uploads : List UploadedArtifact} {error : ConvertError}
    (stores : converter.StoresIn storage world.files)
    (fails : converter.FailsAt jobs world position uploads error after) :
    ∃ stored middle, converter.StoresAll (jobs.take position) world stored middle ∧
      Files.WritesBelow (world.files.place storage.root) (storage.placed world.files stored)
        world.files after.files := by
  rcases fails with ⟨job, middle, found, before, failed⟩
  rcases stores.exists_storesAll before with ⟨stored, all, writes⟩
  have conversion := conversion_convert converter job middle
  rw [failed] at conversion
  have last := (stores.congr writes.workingDirectory).writesBelow_of_conversion conversion
  dsimp only at last
  rw [Files.place_congr writes.workingDirectory] at last
  have both := writes.trans last
  rw [List.append_nil] at both
  exact ⟨stored, middle, all, both⟩

/-- What a request leaves below the root is what it has stored there. -/
theorem StoresIn.exists_serves [DomainNames] {world : World}
    (stores : converter.StoresIn storage world.files) (jobs : List DocumentJob) :
    let ran := (converter.handleJobs jobs).run world
    ∃ stored, converter.Serves jobs world ran.1.status stored ∧
      Files.WritesBelow (world.files.place storage.root) (storage.placed world.files stored)
        world.files ran.2.files := by
  intro ran
  have adds := converter.configuration.environment.addsDirectories_prepare world.files
  rcases made : converter.configuration.environment.prepare world.files with ⟨result, prepared⟩
  rw [made] at adds
  cases result with
  | error source =>
      have answered : ran = _ := run_handleJobs_of_unprepared made
      rw [answered]
      exact ⟨[], .unprepared source prepared made, adds.writesBelow _⟩
  | ok done =>
      have begun : converter.StoresIn storage (converter.begun jobs world prepared).files :=
        stores.congr adds.workingDirectory
      have onward {stored : List (DocumentJob × Bytes)} {after : Files}
          (writes : Files.WritesBelow (prepared.place storage.root)
            (storage.placed prepared stored) prepared after) :
          Files.WritesBelow (world.files.place storage.root) (storage.placed world.files stored)
            world.files after := by
        rw [storage.placed_congr adds.workingDirectory,
          Files.place_congr adds.workingDirectory] at writes
        exact (adds.writesBelow _).trans writes
      rcases converter.convertAll_uploadsAll_or_failsAt jobs (converter.begun jobs world prepared)
        with ⟨uploads, last, run, all⟩ | ⟨position, uploads, error, last, run, fails⟩
      · have answered : ran = _ := run_handleJobs_of_run made run
        rcases begun.exists_storesAll all with ⟨stored, each, writes⟩
        rw [answered]
        exact ⟨stored, .complete made each, onward writes⟩
      · have answered : ran = _ := run_handleJobs_of_run made run
        rcases begun.exists_storesAll_of_failsAt fails with ⟨stored, middle, each, writes⟩
        rw [answered]
        exact ⟨stored, .stopped made fails each, onward writes⟩

/-- What a request leaves: the regular files below the root are those that it has stored. -/
def LeavesStored (converter : Converter) (storage : LocalStorage) (jobs : List DocumentJob)
    (world : World) (response : Response) (after : World) : Prop :=
  ∃ stored, converter.Serves jobs world response.status stored ∧
    storage.HoldsExactly after.files stored

theorem StoresIn.leavesStored [DomainNames] {world : World}
    (stores : converter.StoresIn storage world.files) (empty : storage.HoldsExactly world.files [])
    (jobs : List DocumentJob) :
    converter.LeavesStored storage jobs world ((converter.handleJobs jobs).run world).1
      ((converter.handleJobs jobs).run world).2 := by
  rcases stores.exists_serves jobs with ⟨stored, serves, writes⟩
  refine ⟨stored, serves, fun names below => ?_⟩
  have nothing : world.files.content? (world.files.place storage.root ++ names) = none :=
    empty names below
  rw [storage.placed_congr writes.workingDirectory, Files.place_congr writes.workingDirectory,
    writes.content names below, nothing, Option.or_none]

/-- Every accepted request leaves below the root, where nothing has been before, exactly what it has
stored.  Every accepted job is stored below the root, at a place that no other job is stored at. -/
theorem handle_leavesStored [DomainNames] [Pattern.Sizes] {world : World}
    (stores : converter.StoresIn storage world.files)
    (empty : storage.HoldsExactly world.files []) :
    let figures := converter.configuration.profile.implicitFigures
    (∀ payload jobs, SingleRequest.jobsOfPayload payload figures = .ok jobs →
        converter.LeavesStored storage jobs world ((converter.handleSingle payload).run world).1
          ((converter.handleSingle payload).run world).2) ∧
      (∀ payload jobs, BatchItem.jobsOfPayload payload figures = .ok jobs →
        converter.LeavesStored storage jobs world ((converter.handleBatch payload).run world).1
          ((converter.handleBatch payload).run world).2) ∧
      (∀ job : DocumentJob, job.IsAccepted → job.storedBelow ≠ [] ∧ ∀ files : Files,
        files.place (storage.destination job.storageKey) =
          files.place storage.root ++ job.storedBelow) ∧
      ∀ first second : DocumentJob, first.IsAccepted → second.IsAccepted → ∀ files : Files,
        files.place (storage.destination first.storageKey) =
            files.place (storage.destination second.storageKey) ↔
          first.owner = second.owner ∧ first.fileName = second.fileName ∧
            first.format = second.format := by
  intro figures
  have places {job : DocumentJob} (accepted : job.IsAccepted) (files : Files) :=
    DocumentJob.place_destination storage files accepted.isName.1 accepted.isName.2
  refine ⟨?_, ?_, fun job accepted => ⟨job.storedBelow_ne_nil, places accepted⟩, ?_⟩
  · intro payload jobs validated
    rw [handleSingle, validated]
    exact stores.leavesStored empty jobs
  · intro payload jobs validated
    rw [handleBatch, validated]
    exact stores.leavesStored empty jobs
  · intro first second firstAccepted secondAccepted files
    rw [places firstAccepted, places secondAccepted, List.append_cancel_left_eq,
      DocumentJob.storedBelow_inj]

/-- An element of a batch as JSON. -/
def copyingItem (owner markdown : String) : Text :=
  "\x7b\"userId\": \"".toList ++ owner.toList ++
    "\", \"fileName\": \"d\", \"typeOfFile\": \"PDF\", \"markdown\": \"".toList ++
    markdown.toList ++ "\"\x7d".toList

/-- Of two documents with one key the second one stays, next to that of an owner that is a dot. -/
theorem handle_leavesStored_copying :
    let jobs : List DocumentJob :=
      [⟨['u'], ['d'], .pdf, ['1'], false, none⟩, ⟨['u'], ['d'], .pdf, ['2'], false, none⟩,
        ⟨['.'], ['d'], .pdf, ['3'], false, none⟩]
    let payload := '[' :: copyingItem "u" "1" ++ ',' :: copyingItem "u" "2" ++
      ',' :: copyingItem "." "3" ++ [']']
    let world : World := ⟨⟨[], [(["tmp".toList], .directory)]⟩, [], []⟩
    let ran := (copying.handleBatch payload).run world
    copying.LeavesStored (.ofRoot "/out".toList) jobs world ran.1 ran.2 ∧ ran.1.status = 200 ∧
      ran.2.files.content? ["out".toList, "u".toList, "d.pdf".toList] = some [50] ∧
      ran.2.files.content? ["out".toList, "d.pdf".toList] = some [51] := by
  intro jobs payload world ran
  have validated : BatchItem.jobsOfPayload payload
      copying.configuration.profile.implicitFigures = .ok jobs :=
    eq_ok_of_toOption (by decide +kernel)
  have stores : copying.StoresIn (.ofRoot "/out".toList) world.files :=
    ⟨Engine.copying_touchesOnlyDestination, rfl, rfl, by decide⟩
  have empty : (LocalStorage.ofRoot "/out".toList).HoldsExactly world.files [] := by
    intro names below
    have place : world.files.place (LocalStorage.ofRoot "/out".toList).root = ["out".toList] := by
      decide
    rw [place]
    rfl
  exact ⟨(handle_leavesStored stores empty).2.1 payload jobs validated, by decide +kernel⟩

end Converter

end Typeset
