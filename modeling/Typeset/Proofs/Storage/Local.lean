import Typeset.Proofs.Files.Parents
import Typeset.Proofs.Storage.KeyAddress
import Typeset.Proofs.Storage.Keys
import Typeset.Storage.Local

/-!
# Uploads to a directory

An upload makes directories, and then puts a copy of the artifact where the key leads from the root
of the storage, or no file at all.  The key of an accepted job leads below the root, each to a place
of its own.
-/

namespace Typeset

namespace Files

/-- What is read is the content of a regular file at the place of the path. -/
theorem content?_place_of_read {files : Files} {path : Path} {content : Bytes}
    (read : files.read path = .ok content) : files.content? (files.place path) = some content := by
  rcases find_eq_file (read_eq_ok_iff.mp read) with ⟨location, located, found, _⟩
  rw [← eq_place_of_locate located]
  exact content?_eq_some_iff.mpr found

/-- A file is emptied by a copy exactly if the copy goes to its own place. -/
theorem copied_eq {files : Files} {source destination : Path} {content : Bytes} {place : Location}
    (read : files.read source = .ok content) (reached : files.locate destination = .ok place) :
    files.copied source destination content =
      if files.place source = files.place destination then [] else content := by
  rcases find_eq_file (read_eq_ok_iff.mp read) with ⟨location, located, _, _⟩
  rw [← eq_place_of_locate located, ← eq_place_of_locate reached]
  simp only [copied, located, reached, Except.toOption, Option.some.injEq]

/-- A file that can be read where only directories have been added could be read before. -/
theorem AddsDirectories.read_eq_ok {before after : Files} {path : Path} {location : Location}
    {content : Bytes} (adds : before.AddsDirectories after)
    (absolute : Path.isAbsolute path = true) (located : before.locate path = .ok location)
    (read : after.read path = .ok content) : before.read path = .ok content := by
  rcases find_eq_file (read_eq_ok_iff.mp read) with ⟨reached, same, found, named⟩
  obtain rfl : location = reached := by
    have followed := adds.keepsDirectories.locate_eq absolute located
    exact Except.ok.inj (followed.symm.trans same)
  refine read_eq_ok_iff.mpr (find_of_file located named ?_)
  rw [← content?_eq_some_iff, ← adds.content?_eq, content?_eq_some_iff]
  exact found

end Files

namespace LocalStorage

variable {storage : LocalStorage} {key url : Text} {artifact : Path} {files after : Files}
  {result : Except StorageError Text}

/-- What is done before a copy is made is to make directories on the way to where the key leads. -/
theorem makes_prepare (storage : LocalStorage) (key : Text) (files : Files) :
    files.Makes (storage.destination key) (storage.prepare key files).2 := by
  unfold prepare
  split
  · exact .nothing
  · rename_i parent found
    have makes := (files.makes_makeDirectories parent).above found
    split
    · rename_i ready
      rwa [ready] at makes
    · rename_i refused
      rwa [refused] at makes

/-- What an upload leaves under a key of what its artifact holds: all of it, unless the artifact is
what is kept there. -/
def kept (storage : LocalStorage) (key : Text) (artifact : Path) (files : Files)
    (content : Bytes) : Bytes :=
  if files.place artifact = files.place (storage.destination key) then [] else content

theorem kept_of_ne {content : Bytes}
    (apart : files.place artifact ≠ files.place (storage.destination key)) :
    storage.kept key artifact files content = content :=
  if_neg apart

/-- How an upload ends: either it fails when only directories have been made, or the copy is made
and the address is told, if there is one. -/
inductive Upload [DomainNames] (storage : LocalStorage) (key : Text) (artifact : Path)
    (files : Files) : Except StorageError Text → Files → Prop where
  | refused {path : Path} {error : OsError} {after : Files}
      (makes : files.Makes (storage.destination key) after) :
      Upload storage key artifact files (.error (.io path error)) after
  | copied {made : Files} {content : Bytes} {place : Location} {result : Except StorageError Text}
      (makes : files.Makes (storage.destination key) made)
      (read : made.read artifact = .ok content)
      (reached : made.locate (storage.destination key) = .ok place)
      (named : Files.namesDirectory (storage.destination key) = false)
      (regular : made.entry? place ≠ some .directory) (told : storage.url key = result) :
      Upload storage key artifact files result
        (made.put place (.file (storage.kept key artifact files content)))

theorem exists_io_of_prepare {error : StorageError}
    (refused : storage.prepare key files = (.error error, after)) :
    ∃ path os, error = .io path os := by
  unfold prepare at refused
  split at refused
  · cases refused
  · split at refused
    · cases refused
    · cases refused
      exact ⟨_, _, rfl⟩

theorem upload_of_eq [DomainNames]
    (uploaded : storage.upload key artifact files = (result, after)) :
    storage.Upload key artifact files result after := by
  have makes := storage.makes_prepare key files
  unfold upload at uploaded
  split at uploaded
  · rename_i failed
    rw [failed] at makes
    cases uploaded
    rcases exists_io_of_prepare failed with ⟨path, os, rfl⟩
    exact .refused makes
  · rename_i ready
    rw [ready] at makes
    split at uploaded
    · cases uploaded
      exact .refused makes
    · rename_i copied
      cases uploaded
      rcases Files.copy_eq_ok copied with ⟨content, read, written⟩
      have named := Files.namesDirectory_of_write written
      rcases Files.write_eq_ok written with ⟨place, reached, regular, rfl⟩
      rw [Files.copied_eq read reached, makes.place_eq, makes.place_eq]
      exact .copied makes read reached named regular rfl

theorem exists_invalidUrl_of_url [DomainNames] {error : StorageError}
    (untold : storage.url key = .error error) :
    ∃ base reason, error = .invalidUrl base key reason := by
  unfold url at untold
  split at untold
  · rename_i base _
    exact ⟨base, StorageKey.address_eq_error untold⟩
  · cases untold

/-- Whether an upload that has ended like this has made its copy. -/
def isCopied : Except StorageError Text → Bool
  | .error (.io _ _) => false
  | _ => true

theorem isCopied_url [DomainNames] (storage : LocalStorage) (key : Text) :
    isCopied (storage.url key) = true := by
  cases told : storage.url key with
  | ok address => rfl
  | error error =>
      rcases exists_invalidUrl_of_url told with ⟨base, reason, rfl⟩
      rfl

theorem Upload.workingDirectory [DomainNames]
    (upload : storage.Upload key artifact files result after) :
    after.workingDirectory = files.workingDirectory := by
  cases upload with
  | refused makes => exact makes.addsDirectories.workingDirectory
  | copied makes read reached named regular told => exact makes.addsDirectories.workingDirectory

theorem Upload.keepsDirectories [DomainNames]
    (upload : storage.Upload key artifact files result after) : files.KeepsDirectories after := by
  cases upload with
  | refused makes => exact makes.addsDirectories.keepsDirectories
  | copied makes read reached named regular told =>
      exact makes.addsDirectories.keepsDirectories.trans (Files.keepsDirectories_put _ regular)

/-- An upload changes nothing but the place that the key leads to, and the way there. -/
theorem Upload.entry?_eq [DomainNames] (upload : storage.Upload key artifact files result after)
    (forward : ∀ name ∈ Path.segments (storage.destination key), name ≠ ['.', '.'])
    {location : Location} (away : ¬location <+: files.place (storage.destination key)) :
    after.entry? location = files.entry? location := by
  cases upload with
  | refused makes => exact makes.entry?_eq forward away
  | @copied made content place _ makes read reached named regular told =>
      have apart : location ≠ place := by
        rintro rfl
        rw [Files.eq_place_of_locate reached, makes.place_eq] at away
        exact away List.prefix_rfl
      rw [Files.entry?_put_of_ne _ _ apart]
      exact makes.entry?_eq forward away

/-- An upload whose copy is not made has made directories and nothing else. -/
theorem Upload.addsDirectories [DomainNames]
    (upload : storage.Upload key artifact files result after) (refused : isCopied result = false) :
    files.AddsDirectories after := by
  cases upload with
  | refused makes => exact makes.addsDirectories
  | copied makes read reached named regular told =>
      rw [← told, isCopied_url] at refused
      cases refused

/-- After a copy has been made, the path of the key leads to its place. -/
theorem Upload.locate_destination [DomainNames]
    (upload : storage.Upload key artifact files result after) (copied : isCopied result = true) :
    after.locate (storage.destination key) = .ok (files.place (storage.destination key)) ∧
      Files.namesDirectory (storage.destination key) = false := by
  cases upload with
  | refused makes => cases copied
  | @copied made content place _ makes read reached named regular told =>
      have keeps := Files.keepsDirectories_put
        (.file (storage.kept key artifact files content)) regular
      rw [← makes.place_eq, ← Files.eq_place_of_locate reached]
      exact ⟨keeps.locate_eq_of_workingDirectory rfl reached, named⟩

/-- A copy that is made is one of what the artifact has held, and changes one file. -/
theorem Upload.exists_content [DomainNames]
    (upload : storage.Upload key artifact files result after) (copied : isCopied result = true) :
    ∃ content, files.content? (files.place artifact) = some content ∧
      ∀ location, after.content? location =
        if location = files.place (storage.destination key) then
          some (storage.kept key artifact files content)
        else files.content? location := by
  cases upload with
  | refused makes => cases copied
  | @copied made content place _ makes read reached named regular told =>
      have isPlace := Files.eq_place_of_locate reached
      rw [makes.place_eq] at isPlace
      refine ⟨content, ?_, ?_⟩
      · rw [← makes.addsDirectories.content?_eq, ← makes.place_eq]
        exact Files.content?_place_of_read read
      · intro location
        rw [Files.content?_put (Files.ne_nil_of_ne_directory regular), makes.addsDirectories.content?_eq, isPlace]

/-- A copy that is made is found under the key. -/
theorem Upload.exists_read [DomainNames] (upload : storage.Upload key artifact files result after)
    (copied : isCopied result = true) :
    ∃ content, files.content? (files.place artifact) = some content ∧
      after.read (storage.destination key) =
        .ok (storage.kept key artifact files content) := by
  rcases upload.exists_content copied with ⟨content, held, contents⟩
  rcases upload.locate_destination copied with ⟨located, named⟩
  refine ⟨content, held, ?_⟩
  apply (Files.read_eq_ok_iff_content? located named).mpr
  simp [contents]

/-- An upload that fails before the address is told has only made directories. -/
theorem addsDirectories_of_upload_eq_error [DomainNames] {error : StorageError}
    (unaddressed : storage.baseUrl = none)
    (refused : storage.upload key artifact files = (.error error, after)) :
    files.AddsDirectories after := by
  cases upload_of_eq refused with
  | refused makes => exact makes.addsDirectories
  | copied makes read reached named regular told => simp [url, unaddressed] at told

/-- An upload of an artifact from outside of a root writes its content where the key leads from the
root of the storage. -/
theorem exists_writesBelow_of_upload_eq_ok [DomainNames] {root location : Location}
    (absolute : Path.isAbsolute artifact = true) (located : files.locate artifact = .ok location)
    (outside : ∀ names, names ≠ [] → root ++ names ≠ files.place artifact)
    (stored : storage.upload key artifact files = (.ok url, after)) :
    ∃ content, files.read artifact = .ok content ∧
      Files.WritesBelow root [(files.place (storage.destination key), content)] files after := by
  cases upload_of_eq stored with
  | @copied made content place _ makes read reached named regular told =>
      have isPlace := Files.eq_place_of_locate reached
      rw [makes.place_eq] at isPlace
      subst isPlace
      have writes := (makes.addsDirectories.writesBelow root).trans
        (.put _ (Files.ne_nil_of_ne_directory regular) (storage.kept key artifact files content)
          root)
      refine ⟨content, makes.addsDirectories.read_eq_ok absolute located read, ?_⟩
      by_cases itself : files.place artifact = files.place (storage.destination key)
      · rw [itself] at outside
        exact writes.of_outside outside
      · rw [kept_of_ne itself] at writes ⊢
        exact writes

end LocalStorage

namespace DocumentJob

variable {job first second : DocumentJob}

/-- The names on the way from the root of a storage to the artifact of a job. -/
def storedBelow (job : DocumentJob) : Location :=
  if job.owner = ['.'] then [job.storedName] else [job.owner, job.storedName]

theorem storedBelow_ne_nil (job : DocumentJob) : job.storedBelow ≠ [] := by
  unfold storedBelow
  split <;> simp

/-- Jobs with other names or another format are stored elsewhere. -/
theorem storedBelow_inj : first.storedBelow = second.storedBelow ↔
    first.owner = second.owner ∧ first.fileName = second.fileName ∧
      first.format = second.format := by
  rw [← storedName_inj]
  unfold storedBelow
  split <;> split <;> simp_all [eq_comm]

/-- The key of an accepted job does not lead back from the root. -/
theorem forward_destination (storage : LocalStorage) (owned : IsName job.owner)
    (named : IsName job.fileName) (root : ∀ name ∈ Path.segments storage.root, name ≠ ['.', '.']) :
    ∀ name ∈ Path.segments (storage.destination job.storageKey), name ≠ ['.', '.'] := by
  intro name member
  rw [LocalStorage.destination, Path.segments_join _ (isAbsolute_storageKey owned),
    pathSegments_storageKey owned named] at member
  rcases List.mem_append.mp member with inRoot | inKey
  · exact root name inRoot
  · simp only [List.mem_cons, List.not_mem_nil, or_false] at inKey
    rcases inKey with rfl | rfl
    · exact owned.ne_dots
    · exact job.storedName_ne_dots.2

/-- The key of an accepted job leads below the root. -/
theorem place_destination (storage : LocalStorage) (files : Files) (owned : IsName job.owner)
    (named : IsName job.fileName) :
    files.place (storage.destination job.storageKey) =
      files.place storage.root ++ job.storedBelow := by
  rcases job.storedName_ne_dots with ⟨one, two⟩
  rw [LocalStorage.destination, Files.place_join _ _ (isAbsolute_storageKey owned),
    pathSegments_storageKey owned named]
  simp only [List.foldl_cons, List.foldl_nil, Files.advance, one, two, owned.ne_dots, if_false,
    storedBelow]
  split
  · rfl
  · rw [List.append_assoc]
    rfl

end DocumentJob

end Typeset
