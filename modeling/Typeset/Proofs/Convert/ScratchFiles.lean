import Typeset.Convert.Backend
import Typeset.Libraries
import Typeset.Proofs.Convert.Conversion
import Typeset.Proofs.Storage.Local

/-!
# No scratch file survives

A conversion leaves every place as it was, on whichever of the four ways it goes, as long as the
engine touches nothing but the destination of a request and the upload spares the place.  The
scratch file is `Held` from its reservation on, whatever the engine does with it, and the release
restores what was there before.  A storage in a directory spares every place that is neither below
its root nor on the way there.

A release that fails is ignored: the result is the one from before the release, and a batch goes on
accordingly.
-/

namespace Typeset

/-- An engine that touches nothing but the destination of a request, where it may leave a file or
nothing. -/
structure Engine.KeepsToDestination (engine : Engine) : Prop where
  elsewhere : ∀ calls request before outcome after location,
    engine.generate calls request before = (outcome, after) →
    (∀ path, request.destination = some path → before.locate path ≠ .ok location) →
      after.entry? location = before.entry? location
  regular : ∀ calls request before outcome after path location,
    engine.generate calls request before = (outcome, after) →
    request.destination = some path → before.locate path = .ok location →
    before.entry? location ≠ some .directory → after.entry? location ≠ some .directory

/-- An engine that touches nothing but the destination of a request, and that does not change the
directory it is started in. -/
structure Engine.TouchesOnlyDestination (engine : Engine) : Prop extends
    engine.KeepsToDestination where
  workingDirectory : ∀ calls request before outcome after,
    engine.generate calls request before = (outcome, after) →
      after.workingDirectory = before.workingDirectory

/-- An upload that a storage is asked for, with what has been asked before. -/
structure UploadRequest where
  calls : List Call
  key : Text
  artifact : Path
  files : Files

namespace UploadRequest

/-- The files that a storage leaves. -/
def left (upload : UploadRequest) (storage : Storage) : Files :=
  (storage.upload upload.calls upload.key upload.artifact upload.files).2

/-- A storage spares a place if it leaves what is there.  At the place of the artifact it may leave
any file or nothing, as long as the path of the artifact still leads there. -/
structure Spares (upload : UploadRequest) (storage : Storage) (location : Location) : Prop where
  other : upload.files.locate upload.artifact ≠ .ok location →
    Files.entry? (upload.left storage) location = upload.files.entry? location
  artifact : upload.files.locate upload.artifact = .ok location →
    (upload.left storage).locate upload.artifact = .ok location ∧
      Files.entry? (upload.left storage) location ≠ some .directory

end UploadRequest

namespace Scratch

/-- Whatever an engine does with a scratch file, the file stays held. -/
theorem Held.generate {engine : Engine} {before now after : Files} {scratch : Path}
    {place : Location} {calls : List Call} {request : ConversionRequest}
    {outcome : ConversionOutcome} (held : Held before now scratch place)
    (keeps : engine.KeepsToDestination)
    (own : ∀ path, request.destination = some path → path = scratch)
    (generated : engine.generate calls request now = (outcome, after)) :
    Held before after scratch place := by
  have elsewhere : ∀ other, other ≠ place → after.entry? other = now.entry? other := by
    intro other distinct
    refine keeps.elsewhere calls request now outcome after other generated ?_
    intro path destination reached
    rw [own path destination, held.located, Except.ok.injEq] at reached
    exact distinct reached.symm
  have directories : now.KeepsDirectories after := by
    intro location found
    have distinct : location ≠ place := by
      rintro rfl
      exact held.regular found
    rw [elsewhere location distinct, found]
  have regular : after.entry? place ≠ some .directory := by
    cases destination : request.destination with
    | none =>
        rw [keeps.elsewhere calls request now outcome after place generated (by simp [destination])]
        exact held.regular
    | some path =>
        have located := held.located
        rw [← own path destination] at located
        exact keeps.regular calls request now outcome after path place generated destination
          located held.regular
  exact {
    absolute := held.absolute
    named := held.named
    free := held.free
    located := directories.locate_eq held.absolute held.located
    regular := regular
    elsewhere := fun other distinct =>
      (elsewhere other distinct).trans (held.elsewhere other distinct) }

/-- An upload of the scratch file that spares a place does not keep the release from restoring
it. -/
theorem Held.entry?_released_of_spares {storage : Storage} {before : Files}
    {place location : Location} {upload : UploadRequest}
    (held : Held before upload.files upload.artifact place)
    (spared : upload.Spares storage location) :
    Files.entry? (released upload.artifact (upload.left storage)) location =
      before.entry? location := by
  apply held.entry?_released
  · intro distinct
    apply spared.other
    rw [held.located, ne_eq, Except.ok.injEq]
    exact Ne.symm distinct
  · rintro rfl
    exact spared.artifact held.located

end Scratch

/-- A place holds after a run what it held before. -/
def Run.Restores {Result : Type} (run : Run Result) (world : World) (location : Location) : Prop :=
  Files.entry? (run.run world).2.files location = world.files.entry? location

namespace Converter

variable {converter : Converter} {job : DocumentJob} {jobs : List DocumentJob} {world : World}
  {location : Location}

theorem eq_scratch_of_request_destination (scratch path : Path)
    (destination : (converter.request job scratch).destination = some path) : path = scratch :=
  (Option.some.inj destination).symm

theorem eq_scratch_of_retry_destination (scratch path : Path)
    (destination : (converter.retry job scratch).destination = some path) : path = scratch := by
  cases destination

/-- The upload that the conversion of a document asks for, if it comes that far. -/
def upload? (converter : Converter) (job : DocumentJob) (world : World) : Option UploadRequest :=
  match converter.reserve job world.files with
  | .error _ => none
  | .ok (scratch, reserved) =>
      match converter.engine.generate world.calls (converter.request job scratch) reserved with
      | (.failure _ _, _) => none
      | (.success _, generated) =>
          some ⟨world.calls ++ [.generate (converter.request job scratch)], job.storageKey, scratch,
            generated⟩

/-- The uploads that documents ask for one after another, up to the first that fails. -/
def uploadsOf (converter : Converter) : List DocumentJob → World → List UploadRequest
  | [], _ => []
  | job :: jobs, world =>
      (converter.upload? job world).toList ++
        match (converter.convert job).run world with
        | (.error _, _) => []
        | (.ok _, middle) => converter.uploadsOf jobs middle

theorem upload?_of_generate {scratch : Path} {reserved generated : Files} {artifact : Artifact}
    (made : converter.reserve job world.files = .ok (scratch, reserved))
    (accepted : converter.engine.generate world.calls (converter.request job scratch) reserved =
      (.success artifact, generated)) :
    converter.upload? job world =
      some ⟨world.calls ++ [.generate (converter.request job scratch)], job.storageKey, scratch,
        generated⟩ := by
  simp only [upload?, made, accepted]

/-- On each of the four ways a place that the upload spares is left as it was. -/
theorem Conversion.entry?_eq {after : World} {result : Except ConvertError UploadedArtifact}
    (conversion : Conversion converter job world result after)
    (engine : converter.engine.KeepsToDestination)
    (spared : ∀ upload ∈ converter.upload? job world, upload.Spares converter.storage location) :
    after.files.entry? location = world.files.entry? location := by
  have restored {scratch : Path} {reserved generated stored : Files} {artifact : Artifact}
      {answer : Except StorageError Text}
      (made : converter.reserve job world.files = .ok (scratch, reserved))
      (accepted : converter.engine.generate world.calls (converter.request job scratch) reserved =
        (.success artifact, generated))
      (answered : converter.storage.upload
        (world.calls ++ [.generate (converter.request job scratch)])
        job.storageKey scratch generated = (answer, stored)) :
      Files.entry? (Scratch.released scratch stored) location = world.files.entry? location := by
    rcases Scratch.create_held made with ⟨place, held⟩
    have ready := held.generate engine (eq_scratch_of_request_destination scratch) accepted
    have asked := spared _ (upload?_of_generate made accepted)
    have released := Scratch.Held.entry?_released_of_spares ready asked
    rwa [UploadRequest.left, answered] at released
  cases conversion with
  | withoutScratch source refused => rfl
  | notGenerated scratch reserved rejected retried rawError transcript second made failed
      repeated =>
      rcases Scratch.create_held made with ⟨place, held⟩
      have afterFirst := held.generate engine (eq_scratch_of_request_destination scratch) failed
      have afterSecond :=
        afterFirst.generate engine (eq_scratch_of_retry_destination scratch) repeated
      exact afterSecond.entry?_released (fun _ => rfl)
        (fun _ => ⟨afterSecond.located, afterSecond.regular⟩)
  | notStored scratch reserved generated left artifact source made accepted refused =>
      exact restored made accepted refused
  | uploaded scratch reserved generated left artifact url made accepted kept =>
      exact restored made accepted kept

theorem entry?_convertAll (engine : converter.engine.KeepsToDestination)
    (spared : ∀ upload ∈ converter.uploadsOf jobs world,
      upload.Spares converter.storage location) :
    Run.Restores (converter.convertAll jobs) world location := by
  induction jobs generalizing world with
  | nil => rfl
  | cons job jobs ih =>
      rw [uploadsOf] at spared
      have first := (conversion_convert converter job world).entry?_eq engine fun upload asked =>
        spared upload (List.mem_append_left _ (Option.mem_toList.mpr asked))
      rcases ran : (converter.convert job).run world with ⟨result, middle⟩
      rw [ran] at first spared
      rw [Run.Restores, convertAll, Run.run_bind_of_run ran, ← first]
      cases result with
      | error error => rfl
      | ok artifact => exact ih fun upload later => spared upload (List.mem_append_right _ later)

theorem entry?_convertBatch (engine : converter.engine.KeepsToDestination)
    (spared : ∀ upload ∈ converter.uploadsOf jobs { world with
      events := world.events ++ converter.recorded [.batchStart jobs.length] },
      upload.Spares converter.storage location) :
    Run.Restores (converter.convertBatch jobs) world location := by
  have kept := entry?_convertAll engine spared
  rw [Run.Restores] at kept ⊢
  rcases ran : (converter.convertAll jobs).run { world with
    events := world.events ++ converter.recorded [.batchStart jobs.length] } with
    ⟨⟨uploads, error⟩, last⟩
  rw [ran] at kept
  rw [converter.run_convertBatch_of_run ran]
  exact kept

/-- The scratch file of a document is held from its reservation on. -/
theorem exists_held_of_generate {scratch : Path} {files reserved generated : Files}
    {calls : List Call} {outcome : ConversionOutcome}
    (engine : converter.engine.TouchesOnlyDestination)
    (made : converter.reserve job files = .ok (scratch, reserved))
    (answered : converter.engine.generate calls (converter.request job scratch) reserved =
      (outcome, generated)) :
    ∃ place, Scratch.Held files generated scratch place ∧
      generated.workingDirectory = files.workingDirectory := by
  rcases Scratch.create_held made with ⟨place, held⟩
  refine ⟨place, held.generate engine.toKeepsToDestination
    (eq_scratch_of_request_destination scratch) answered, ?_⟩
  rw [engine.workingDirectory _ _ _ _ _ answered, Scratch.workingDirectory_of_create made]

end Converter

/-- A place that is neither below the root of a storage nor on the way there. -/
def LocalStorage.IsApart (storage : LocalStorage) (files : Files) (location : Location) : Prop :=
  ¬files.place storage.root <+: location ∧ ¬location <+: files.place storage.root

instance (storage : LocalStorage) (files : Files) (location : Location) :
    Decidable (storage.IsApart files location) :=
  inferInstanceAs (Decidable (_ ∧ _))

namespace LocalStorage

variable {storage : LocalStorage} {files : Files} {location : Location}

theorem IsApart.append (apart : storage.IsApart files location) (names : Location) :
    storage.IsApart files (location ++ names) := by
  have start := List.prefix_append location names
  refine ⟨fun below => ?_, fun onTheWay => apart.2 (start.trans onTheWay)⟩
  exact (List.prefix_or_prefix_of_prefix below start).elim apart.1 apart.2

/-- A storage in a directory spares every place apart from its root, if the key is that of an
accepted job and the root does not lead back. -/
theorem spares_of_isApart [DomainNames] {job : DocumentJob} {before : Files} {place : Location}
    {upload : UploadRequest} (root : ∀ name ∈ Path.segments storage.root, name ≠ ['.', '.'])
    (owned : IsName job.owner) (named : IsName job.fileName) (key : upload.key = job.storageKey)
    (held : Scratch.Held before upload.files upload.artifact place)
    (apart : storage.IsApart upload.files location) :
    upload.Spares (.ofDirectory storage) location := by
  have forward := job.forward_destination storage owned named root
  have away : ¬location <+: upload.files.place (storage.destination job.storageKey) := by
    rw [job.place_destination storage upload.files owned named]
    intro onTheWay
    exact (List.prefix_or_prefix_of_prefix onTheWay (List.prefix_append _ _)).elim apart.2 apart.1
  rw [← key] at forward away
  have uploaded : storage.Upload upload.key upload.artifact upload.files _
      (upload.left (.ofDirectory storage)) := upload_of_eq rfl
  have same := uploaded.entry?_eq forward away
  refine ⟨fun _ => same, fun located => ?_⟩
  obtain rfl : place = location := Except.ok.inj (held.located.symm.trans located)
  refine ⟨uploaded.keepsDirectories.locate_eq held.absolute located, ?_⟩
  rw [same]
  exact held.regular

end LocalStorage

namespace Converter

/-- Documents are stored in a directory whose path does not lead back, by an engine that keeps to
their scratch files. -/
structure StoresBelow [DomainNames] (converter : Converter) (storage : LocalStorage) : Prop where
  engine : converter.engine.TouchesOnlyDestination
  directory : converter.storage = .ofDirectory storage
  root : ∀ name ∈ Path.segments storage.root, name ≠ ['.', '.']

variable {converter : Converter} {storage : LocalStorage} {job : DocumentJob}
  {jobs : List DocumentJob} {world : World} {location : Location}

theorem StoresBelow.workingDirectory_of_conversion [DomainNames] {after : World}
    {result : Except ConvertError UploadedArtifact} (stores : converter.StoresBelow storage)
    (conversion : Conversion converter job world result after) :
    after.files.workingDirectory = world.files.workingDirectory := by
  have kept {scratch : Path} {reserved generated stored : Files} {artifact : Artifact}
      {answer : Except StorageError Text}
      (made : converter.reserve job world.files = .ok (scratch, reserved))
      (accepted : converter.engine.generate world.calls (converter.request job scratch) reserved =
        (.success artifact, generated))
      (answered : converter.storage.upload
        (world.calls ++ [.generate (converter.request job scratch)])
        job.storageKey scratch generated = (answer, stored)) :
      (Scratch.released scratch stored).workingDirectory = world.files.workingDirectory := by
    rcases exists_held_of_generate stores.engine made accepted with ⟨place, _, same⟩
    rw [stores.directory] at answered
    rw [Scratch.workingDirectory_released, ← same]
    exact (LocalStorage.upload_of_eq answered).workingDirectory
  cases conversion with
  | withoutScratch source refused => rfl
  | notGenerated scratch reserved rejected retried rawError transcript second made failed
      repeated =>
      rcases exists_held_of_generate stores.engine made failed with ⟨place, _, same⟩
      rw [Scratch.workingDirectory_released, ← same]
      exact stores.engine.workingDirectory _ _ _ _ _ repeated
  | notStored scratch reserved generated left artifact source made accepted refused =>
      exact kept made accepted refused
  | uploaded scratch reserved generated left artifact url made accepted stored =>
      exact kept made accepted stored

theorem StoresBelow.spares_of_upload? [DomainNames] {upload : UploadRequest}
    (stores : converter.StoresBelow storage) (owned : IsName job.owner)
    (named : IsName job.fileName) (apart : storage.IsApart world.files location)
    (asked : converter.upload? job world = some upload) :
    upload.Spares converter.storage location := by
  unfold upload? at asked
  split at asked
  · cases asked
  · rename_i made
    split at asked
    · cases asked
    · rename_i accepted
      cases asked
      rcases exists_held_of_generate stores.engine made accepted with ⟨place, held, same⟩
      rw [stores.directory]
      refine LocalStorage.spares_of_isApart stores.root owned named rfl held ?_
      rwa [LocalStorage.IsApart, Files.place_congr same]

/-- All uploads of a run spare a place apart from the root of the storage. -/
theorem StoresBelow.spares_of_mem [DomainNames] (stores : converter.StoresBelow storage)
    (named : ∀ job ∈ jobs, IsName job.owner ∧ IsName job.fileName)
    (apart : storage.IsApart world.files location) :
    ∀ upload ∈ converter.uploadsOf jobs world, upload.Spares converter.storage location := by
  induction jobs generalizing world with
  | nil => simp [uploadsOf]
  | cons job jobs ih =>
      rw [List.forall_mem_cons] at named
      intro upload member
      rw [uploadsOf, List.mem_append, Option.mem_toList] at member
      rcases member with asked | later
      · exact stores.spares_of_upload? named.1.1 named.1.2 apart asked
      · have same := stores.workingDirectory_of_conversion (conversion_convert converter job world)
        rcases ran : (converter.convert job).run world with ⟨result, middle⟩
        rw [ran] at later same
        cases result with
        | error error => cases later
        | ok artifact =>
            refine ih named.2 ?_ upload later
            rwa [LocalStorage.IsApart, Files.place_congr same]

variable (converter)

/-- What the loop over the documents does when the first of them has come to its result. -/
def goOn (jobs : List DocumentJob) (after : World) :
    Except ConvertError UploadedArtifact →
      (List UploadedArtifact × Option ConvertError) × World
  | .error error => (([], some error), after)
  | .ok artifact =>
      ((artifact :: ((converter.convertAll jobs).run after).1.1,
          ((converter.convertAll jobs).run after).1.2),
        ((converter.convertAll jobs).run after).2)

theorem run_convertAll_cons {jobs : List DocumentJob} {world after : World}
    {result : Except ConvertError UploadedArtifact}
    (ran : (converter.convert job).run world = (result, after)) :
    (converter.convertAll (job :: jobs)).run world = converter.goOn jobs after result := by
  rw [convertAll, Run.run_bind_of_run ran]
  cases result with
  | error error => rfl
  | ok artifact => rfl

/-- A place that the uploads of a run spare holds after the run what it held before.  A storage in a
directory spares all that is apart from its root, and so the scratch directory if that is.  If a
scratch file cannot be released, then the files stay as they are, the result is the one from before
the release, and a batch goes on accordingly. -/
theorem entries_restored [DomainNames] (engine : converter.engine.KeepsToDestination) :
    (∀ job world location,
      (∀ upload ∈ converter.upload? job world, upload.Spares converter.storage location) →
        Run.Restores (converter.convert job) world location) ∧
    (∀ jobs world location,
      let begun : World := { world with
        events := world.events ++ converter.recorded [.batchStart jobs.length] }
      (∀ upload ∈ converter.uploadsOf jobs begun, upload.Spares converter.storage location) →
        Run.Restores (converter.convertBatch jobs) world location) ∧
    (∀ storage, converter.StoresBelow storage →
      ∀ jobs world directory, (∀ job ∈ jobs, IsName job.owner ∧ IsName job.fileName) →
        storage.IsApart world.files directory → ∀ names,
          Run.Restores (converter.convertBatch jobs) world (directory ++ names) ∧
            ∀ job ∈ jobs, Run.Restores (converter.convert job) world (directory ++ names)) ∧
    ∀ job world scratch reserved result used refusal,
      converter.reserve job world.files = .ok (scratch, reserved) →
      (converter.generateAndUpload job scratch).run
        { files := reserved
          calls := world.calls
          events := world.events ++
            converter.recorded [.state job.fileName .generatingToFile] } = (result, used) →
      Scratch.release scratch used.files = .error refusal →
      let after : World := { used with
        events := used.events ++ converter.recorded (resultEvents job result) }
      (converter.convert job).run world = (result, after) ∧
        ∀ jobs, (converter.convertAll (job :: jobs)).run world =
          converter.goOn jobs after result := by
  refine ⟨?_, ?_, ?_, ?_⟩
  · intro job world location spared
    exact (conversion_convert converter job world).entry?_eq engine spared
  · intro jobs world location begun spared
    exact entry?_convertBatch engine spared
  · intro storage stores jobs world directory named apart names
    refine ⟨entry?_convertBatch engine (stores.spares_of_mem named (apart.append names)), ?_⟩
    intro job member
    refine (conversion_convert converter job world).entry?_eq engine fun upload asked => ?_
    exact stores.spares_of_upload? (named job member).1 (named job member).2 (apart.append names)
      asked
  · intro job world scratch reserved result used refusal made ran refused after
    have converted := run_convert_of_reserve converter job made ran
    rw [Scratch.released_of_error refused] at converted
    exact ⟨converted, fun jobs => converter.run_convertAll_cons converted⟩

end Converter

/-- An engine that deletes the file that it is to write. -/
def Engine.deleting : Engine where
  generate _ request files :=
    (.success (.transcript []),
      match request.destination with
      | none => files
      | some path => Scratch.released path files)

theorem Engine.deleting_keepsToDestination : deleting.KeepsToDestination where
  elsewhere calls request before outcome after location generated away := by
    cases destination : request.destination with
    | none =>
        simp only [deleting, destination, Prod.mk.injEq] at generated
        rw [generated.2]
    | some path =>
        simp only [deleting, destination, Prod.mk.injEq] at generated
        rw [← generated.2]
        exact Scratch.entry?_released_of_ne (away path destination)
  regular calls request before outcome after path location generated destination located
      regular := by
    simp only [deleting, destination, Prod.mk.injEq] at generated
    rw [← generated.2]
    rcases Scratch.released_eq_self_or_erase path before with same | ⟨place, reached, erased⟩
    · rwa [same]
    · obtain rfl : location = place := Except.ok.inj (located.symm.trans reached)
      rw [erased, Files.entry?_erase_self before (Files.ne_nil_of_ne_directory regular)]
      simp

/-- An engine that copies the source to the destination. -/
def Engine.copying : Engine where
  generate _ request files :=
    match request.destination with
    | none => (.success (.transcript request.source), files)
    | some path =>
        match files.write path request.source.toUtf8 with
        | .ok written => (.success (.file path), written)
        | .error error => (.failure error.message none, files)

theorem Engine.copying_eq {calls : List Call} {request : ConversionRequest} {before after : Files}
    {outcome : ConversionOutcome}
    (generated : copying.generate calls request before = (outcome, after)) :
    after = before ∨ ∃ path place, request.destination = some path ∧
      before.locate path = .ok place ∧ before.entry? place ≠ some .directory ∧
      after = before.put place (.file request.source.toUtf8) := by
  unfold copying at generated
  dsimp only at generated
  split at generated
  · cases generated
    exact .inl rfl
  · rename_i path destination
    split at generated
    · rename_i written made
      cases generated
      rcases Files.write_eq_ok made with ⟨place, located, regular, same⟩
      exact .inr ⟨path, place, destination, located, regular, same⟩
    · cases generated
      exact .inl rfl

theorem Engine.copying_touchesOnlyDestination : copying.TouchesOnlyDestination where
  elsewhere calls request before outcome after location generated away := by
    rcases copying_eq generated with rfl | ⟨path, place, destination, located, regular, rfl⟩
    · rfl
    · refine Files.entry?_put_of_ne before _ ?_
      rintro rfl
      exact away path destination located
  regular calls request before outcome after path location generated destination located
      regular := by
    rcases copying_eq generated with rfl | ⟨other, place, same, reached, free, rfl⟩
    · exact regular
    · obtain rfl : other = path := Option.some.inj (same.symm.trans destination)
      obtain rfl : place = location := Except.ok.inj (reached.symm.trans located)
      rw [Files.entry?_put_self _ _ (Files.ne_nil_of_ne_directory regular)]
      simp
  workingDirectory calls request before outcome after generated := by
    rcases copying_eq generated with rfl | ⟨path, place, destination, located, regular, rfl⟩
    · rfl
    · rfl

namespace Converter

/-- A converter that stores copies of the sources. -/
def copying [DomainNames] : Converter where
  engine := .copying
  storage := .ofDirectory (.ofRoot "/out".toList)
  configuration := .standard "/tmp".toList
  stamps := Scratch.countingStamps

/-- A converter whose engine deletes every scratch file. -/
def careless [DomainNames] : Converter :=
  { copying with engine := .deleting }

/-- What is stored in `/out` is no concern of the scratch directory.  An engine that deletes the
file that it is to write leaves nothing to upload and nothing to release, and the document fails for
the former. -/
theorem entries_restored_copying :
    let job : DocumentJob := ⟨['u'], ['d'], .pdf, ['#'], false, none⟩
    let keep : Location := ["tmp".toList, "keep".toList]
    let world : World := ⟨⟨[], [(["tmp".toList], .directory), (keep, .file [107])]⟩, [], []⟩
    let after := ((copying.convertBatch [job, job]).run world).2
    (∀ names, after.files.entry? ("tmp".toList :: names) =
        world.files.entry? ("tmp".toList :: names)) ∧
      after.files.entry? ["out".toList, "u".toList, "d.pdf".toList] = some (.file [35]) ∧
      ((careless.convert job).run world).1 = .error (.storage ['d'] job.storageKey
        (.io "/tmp/u-d-0-0.pdf".toList .notFound)) := by
  intro job keep world after
  have engine := Engine.copying_touchesOnlyDestination
  have stores : copying.StoresBelow (.ofRoot "/out".toList) := ⟨engine, rfl, by decide⟩
  have named : ∀ other ∈ [job, job], IsName other.owner ∧ IsName other.fileName := by
    have owner : IsName ['u'] :=
      ⟨⟨by decide, by rintro _ ⟨⟩; rfl, by rintro _ ⟨⟩; rfl⟩, by decide, by decide, by decide⟩
    have name : IsName ['d'] :=
      ⟨⟨by decide, by rintro _ ⟨⟩; rfl, by rintro _ ⟨⟩; rfl⟩, by decide, by decide, by decide⟩
    simp [job, owner, name]
  have restored := (copying.entries_restored engine.toKeepsToDestination).2.2.1 _ stores
    [job, job] world ["tmp".toList] named (by decide)
  refine ⟨fun names => (restored names).1, by decide +kernel, ?_⟩
  let scratch : Location := ["tmp".toList, "u-d-0-0.pdf".toList]
  have made : careless.reserve job world.files =
      .ok ("/tmp/u-d-0-0.pdf".toList, world.files.put scratch (.file [])) := by
    rfl
  let used := ((careless.generateAndUpload job "/tmp/u-d-0-0.pdf".toList).run
    ⟨world.files.put scratch (.file []), [], []⟩).2
  have refused : Scratch.release "/tmp/u-d-0-0.pdf".toList used.files =
      .error ⟨.notFound, "/tmp/u-d-0-0.pdf".toList⟩ := by
    rfl
  have ignored := (careless.entries_restored Engine.deleting_keepsToDestination).2.2.2 job world _ _
    _ used _ made rfl refused
  exact congrArg Prod.fst ignored.1

/-- A converter that stores the documents of the owner `tmp` in its scratch directory. -/
def selfStoring [DomainNames] : Converter where
  engine := ⟨fun _ _ files => (.success (.transcript []), files)⟩
  storage := .ofDirectory (.ofRoot "/".toList)
  configuration := .standard "/tmp".toList
  stamps := Scratch.countingStamps

/-- What is stored in the scratch directory stays there. -/
theorem entry?_ne_of_selfStoring :
    let job : DocumentJob := ⟨"tmp".toList, ['d'], .pdf, ['#'], false, none⟩
    let world : World := ⟨⟨[], [(["tmp".toList], .directory)]⟩, [], []⟩
    let after := ((selfStoring.convertBatch [job]).run world).2
    selfStoring.engine.KeepsToDestination ∧
      world.files.locate selfStoring.configuration.scratchDirectory = .ok ["tmp".toList] ∧
      after.files.entry? ["tmp".toList, "d.pdf".toList] ≠
        world.files.entry? ["tmp".toList, "d.pdf".toList] := by
  intro job world after
  have engine : selfStoring.engine.KeepsToDestination := by
    refine ⟨?_, ?_⟩
    · rintro calls request before outcome left location ⟨⟩ away
      rfl
    · rintro calls request before outcome left path location ⟨⟩ destination located regular
      exact regular
  refine ⟨engine, by rfl, ?_⟩
  decide +kernel

end Converter

end Typeset
