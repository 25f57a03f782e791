import Typeset.Libraries
import Typeset.Proofs.Storage.Local

/-!
# A directory as a map

A key of plain names leads to a place below the root, and another key to another place, even where
one of them goes on from the other.  So an upload whose copy is made changes what is found under its
own key and nothing else, and one whose copy is not made changes nothing.

Between uploads others may do what they like outside of the root, where the artifacts come and go,
as long as they keep the directories that are there.
-/

namespace Typeset

theorem Files.foldl_advance_of_plain {names : List Text}
    (plain : ∀ name ∈ names, name ≠ ['.'] ∧ name ≠ ['.', '.']) (here : Location) :
    names.foldl advance here = here ++ names := by
  induction names generalizing here with
  | nil => simp
  | cons name names ih =>
      rw [List.forall_mem_cons] at plain
      simp [advance, plain.1, ih plain.2]

namespace StorageKey

variable {key other : Text}

/-- A key each of whose segments is a name, and not one of dots. -/
def IsPlain (key : Text) : Prop :=
  ∀ name ∈ segments key, name ≠ [] ∧ name ≠ ['.'] ∧ name ≠ ['.', '.']

instance (key : Text) : Decidable (IsPlain key) :=
  inferInstanceAs (Decidable (∀ name ∈ segments key, _))

theorem IsPlain.pathSegments (plain : IsPlain key) : Path.segments key = segments key := by
  apply List.filter_eq_self.mpr
  intro name member
  simpa using (plain name member).1

theorem IsPlain.isAbsolute (plain : IsPlain key) : Path.isAbsolute key = false := by
  cases key with
  | nil => rfl
  | cons char rest =>
      have distinct : char ≠ '/' := by
        rintro rfl
        have parts : segments ('/' :: rest) = [] :: segments rest := Text.splitAt_cons_self '/' rest
        have empty : [] ∈ segments ('/' :: rest) := by simp [parts]
        exact (plain [] empty).1 rfl
      simp [Path.isAbsolute, distinct]

end StorageKey

namespace LocalStorage

open StorageKey (IsPlain segments)

variable {storage : LocalStorage} {key : Text} {artifact : Path} {files before middle after : Files}
  {result : Except StorageError Text}

/-- Where the artifact with a plain key is kept. -/
def placeOf (storage : LocalStorage) (files : Files) (key : Text) : Location :=
  files.place storage.root ++ segments key

theorem place_destination_of_plain (files : Files) (plain : IsPlain key) :
    files.place (storage.destination key) = storage.placeOf files key := by
  rw [destination, Files.place_join files storage.root plain.isAbsolute, plain.pathSegments]
  apply Files.foldl_advance_of_plain
  intro name member
  exact (plain name member).2

theorem placeOf_inj {other : Text} :
    storage.placeOf files key = storage.placeOf files other ↔ key = other := by
  rw [placeOf, placeOf, List.append_right_inj, StorageKey.segments_inj]

/-- An artifact that is neither the root nor below it. -/
def IsOutside (storage : LocalStorage) (artifact : Path) (files : Files) : Prop :=
  ¬files.place storage.root <+: files.place artifact

instance : Decidable (storage.IsOutside artifact files) :=
  inferInstanceAs (Decidable ¬_)

theorem IsOutside.kept_eq (outside : storage.IsOutside artifact files) (plain : IsPlain key)
    (content : Bytes) : storage.kept key artifact files content = content := by
  apply kept_of_ne
  intro itself
  apply outside
  rw [itself, place_destination_of_plain files plain]
  exact List.prefix_append _ _

/-- What one upload does: a copy that is made is found under the key, and is all that has changed in
the regular files; if it is not made, none of them has changed.  The artifact stays. -/
structure Effect (storage : LocalStorage) (key : Text) (artifact : Path) (files : Files)
    (result : Except StorageError Text) (after : Files) : Prop where
  copied : isCopied result = true → ∃ content,
    files.content? (files.place artifact) = some content ∧
      after.read (storage.destination key) = .ok content
  refused : isCopied result = false → files.AddsDirectories after
  elsewhere : ∀ location, location ≠ storage.placeOf files key →
    after.content? location = files.content? location
  artifact : ∀ content, files.read artifact = .ok content → after.read artifact = .ok content

theorem Upload.content?_of_ne [DomainNames]
    (upload : storage.Upload key artifact files result after) (plain : IsPlain key)
    {location : Location} (other : location ≠ storage.placeOf files key) :
    after.content? location = files.content? location := by
  cases copied : isCopied result with
  | false => exact (upload.addsDirectories copied).content?_eq location
  | true =>
      rcases upload.exists_content copied with ⟨content, _, contents⟩
      rw [contents, place_destination_of_plain files plain, if_neg other]

theorem Upload.effect [DomainNames] (upload : storage.Upload key artifact files result after)
    (plain : IsPlain key) (outside : storage.IsOutside artifact files) :
    storage.Effect key artifact files result after where
  copied copied := by
    rcases upload.exists_read copied with ⟨content, held, read⟩
    rw [outside.kept_eq plain] at read
    exact ⟨content, held, read⟩
  refused := upload.addsDirectories
  elsewhere location other := upload.content?_of_ne plain other
  artifact content read := by
    rcases Files.find_eq_file (Files.read_eq_ok_iff.mp read) with ⟨source, located, found, named⟩
    have followed :=
      upload.keepsDirectories.locate_eq_of_workingDirectory upload.workingDirectory located
    have other : source ≠ storage.placeOf files key := by
      rintro rfl
      apply outside
      rw [← Files.eq_place_of_locate located]
      exact List.prefix_append _ _
    rw [Files.read_eq_ok_iff_content? followed named, upload.content?_of_ne plain other]
    exact Files.content?_eq_some_iff.mpr found

/-- An upload that has been tried: what its artifact has held, and how it has ended. -/
structure Tried where
  key : Text
  held : Option Bytes
  result : Except StorageError Text

/-- Whether the copy has been made, under a certain key. -/
def Tried.isCopyTo (key : Text) (tried : Tried) : Bool :=
  tried.key == key && isCopied tried.result

/-- What the last upload has left under a key whose copy has been made. -/
def lastCopied (uploads : List Tried) (key : Text) : Option Bytes :=
  (uploads.reverse.find? (Tried.isCopyTo key)).bind Tried.held

/-- Uploads of artifacts from outside of the root under plain keys, and between them changes that
others make. -/
inductive Uploads [DomainNames] (storage : LocalStorage) : Files → List Tried → Files → Prop where
  | nil (files : Files) : Uploads storage files [] files
  | meanwhile {before middle after : Files} {uploads : List Tried}
      (keeps : before.KeepsDirectories middle)
      (apart : Files.WritesBelow (before.place storage.root) [] before middle)
      (rest : Uploads storage middle uploads after) : Uploads storage before uploads after
  | upload {key : Text} {artifact : Path} {before middle after : Files} {uploads : List Tried}
      {result : Except StorageError Text} (plain : IsPlain key)
      (outside : storage.IsOutside artifact before)
      (uploaded : storage.upload key artifact before = (result, middle))
      (rest : Uploads storage middle uploads after) :
      Uploads storage before (⟨key, before.content? (before.place artifact), result⟩ :: uploads)
        after

/-- Uploads of artifacts under keys, and no changes between them. -/
def tryAll [DomainNames] (storage : LocalStorage) : List (Text × Path) → Files → List Tried × Files
  | [], files => ([], files)
  | (key, artifact) :: others, files =>
      let (result, middle) := storage.upload key artifact files
      let (uploads, after) := storage.tryAll others middle
      (⟨key, files.content? (files.place artifact), result⟩ :: uploads, after)

variable {uploads : List Tried}

theorem find?_reverse_cons (tried : Tried) (uploads : List Tried) (key : Text) :
    (tried :: uploads).reverse.find? (Tried.isCopyTo key) =
      (uploads.reverse.find? (Tried.isCopyTo key)).or
        (if tried.isCopyTo key then some tried else none) := by
  rw [List.reverse_cons, List.find?_append]
  cases copies : tried.isCopyTo key <;> simp [copies]

theorem placeOf_congr (same : after.workingDirectory = before.workingDirectory) (key : Text) :
    storage.placeOf after key = storage.placeOf before key := by
  rw [placeOf, placeOf, Files.place_congr same]

theorem isOutside_congr (same : after.workingDirectory = before.workingDirectory)
    (artifact : Path) : storage.IsOutside artifact after ↔ storage.IsOutside artifact before := by
  rw [IsOutside, IsOutside, Files.place_congr same, Files.place_congr same]

theorem uploads_tryAll [DomainNames] {wanted : List (Text × Path)}
    (plain : ∀ upload ∈ wanted, IsPlain upload.1)
    (outside : ∀ upload ∈ wanted, storage.IsOutside upload.2 files) :
    storage.Uploads files (storage.tryAll wanted files).1 (storage.tryAll wanted files).2 := by
  induction wanted generalizing files with
  | nil => exact .nil files
  | cons upload others ih =>
      rcases upload with ⟨key, artifact⟩
      rw [List.forall_mem_cons] at plain outside
      rcases uploaded : storage.upload key artifact files with ⟨result, middle⟩
      have same := (upload_of_eq uploaded).workingDirectory
      simp only [tryAll, uploaded]
      apply Uploads.upload plain.1 outside.1 uploaded
      apply ih plain.2
      intro other member
      exact (isOutside_congr same other.2).mpr (outside.2 other member)

/-- All directories are kept from one upload to the next. -/
theorem Uploads.keeps [DomainNames] (ran : storage.Uploads before uploads after) :
    before.KeepsDirectories after ∧ after.workingDirectory = before.workingDirectory := by
  induction ran with
  | nil files => exact ⟨fun _ found => found, rfl⟩
  | meanwhile keeps apart rest ih =>
      exact ⟨keeps.trans ih.1, ih.2.trans apart.workingDirectory⟩
  | upload plain outside uploaded rest ih =>
      have first := upload_of_eq uploaded
      exact ⟨first.keepsDirectories.trans ih.1, ih.2.trans first.workingDirectory⟩

/-- One upload leaves under a key what it has copied there, or what has been there. -/
theorem Upload.content?_placeOf [DomainNames] {other : Text}
    (upload : storage.Upload key artifact files result after) (plain : IsPlain key)
    (outside : storage.IsOutside artifact files) :
    after.content? (storage.placeOf files other) =
      if Tried.isCopyTo other ⟨key, files.content? (files.place artifact), result⟩ then
        files.content? (files.place artifact)
      else files.content? (storage.placeOf files other) := by
  cases copied : isCopied result with
  | false => simp [Tried.isCopyTo, copied, (upload.addsDirectories copied).content?_eq]
  | true =>
      rcases upload.exists_content copied with ⟨content, held, contents⟩
      rw [contents, place_destination_of_plain files plain, outside.kept_eq plain]
      simp only [placeOf_inj, held, Tried.isCopyTo, copied, Bool.and_true, beq_iff_eq,
        eq_comm (a := other)]

/-- At the place of a key is what the last upload to it has left there.  The run is taken apart at
its first step: what the first upload has copied counts only if no later one has gone to the key. -/
theorem Uploads.content?_placeOf [DomainNames] (ran : storage.Uploads before uploads after)
    (key : Text) :
    after.content? (storage.placeOf before key) =
      match uploads.reverse.find? (Tried.isCopyTo key) with
      | some tried => tried.held
      | none => before.content? (storage.placeOf before key) := by
  induction ran with
  | nil files => rfl
  | meanwhile keeps apart rest ih =>
      have named : segments key ≠ [] := Text.splitAt_ne_nil '/' key
      rw [placeOf_congr apart.workingDirectory] at ih
      rw [ih, placeOf, apart.content _ named]
      rfl
  | @upload tried artifact before middle after uploads result plain outside uploaded rest ih =>
      have first := upload_of_eq uploaded
      rw [placeOf_congr first.workingDirectory, first.content?_placeOf plain outside] at ih
      rw [ih, find?_reverse_cons]
      cases uploads.reverse.find? (Tried.isCopyTo key) with
      | some later => rfl
      | none =>
          simp only [Option.none_or]
          split <;> rfl

/-- The path of a key leads to its place from the first copy on. -/
theorem Uploads.locate_destination [DomainNames] (ran : storage.Uploads before uploads after)
    {tried : Tried} (member : tried ∈ uploads) (copied : isCopied tried.result = true) :
    after.locate (storage.destination tried.key) = .ok (storage.placeOf before tried.key) ∧
      Files.namesDirectory (storage.destination tried.key) = false := by
  induction ran with
  | nil files => cases member
  | meanwhile keeps apart rest ih =>
      rw [← placeOf_congr apart.workingDirectory]
      exact ih member
  | upload plain outside uploaded rest ih =>
      have first := upload_of_eq uploaded
      rcases List.mem_cons.mp member with rfl | later
      · rcases first.locate_destination copied with ⟨located, named⟩
        rw [place_destination_of_plain _ plain] at located
        exact ⟨rest.keeps.1.locate_eq_of_workingDirectory rest.keeps.2 located, named⟩
      · rw [← placeOf_congr first.workingDirectory]
        exact ih later

/-- Under a key is found what the last upload to it has left there, if nothing has been below the
root before the first upload.  The path leads to the place that holds it because a copy has been
made. -/
theorem Uploads.read_destination [DomainNames] (ran : storage.Uploads before uploads after)
    (empty : ∀ names, names ≠ [] → before.content? (before.place storage.root ++ names) = none)
    (plain : IsPlain key) :
    (after.read (storage.destination key)).toOption = lastCopied uploads key := by
  have nothing : before.content? (storage.placeOf before key) = none :=
    empty _ (Text.splitAt_ne_nil '/' key)
  have contents := ran.content?_placeOf key
  rw [nothing] at contents
  unfold lastCopied
  cases last : uploads.reverse.find? (Tried.isCopyTo key) with
  | some tried =>
      have copies := List.find?_some last
      have member := List.mem_reverse.mp (List.mem_of_find?_eq_some last)
      simp only [Tried.isCopyTo, Bool.and_eq_true, beq_iff_eq] at copies
      rcases copies with ⟨rfl, copied⟩
      rcases ran.locate_destination member copied with ⟨located, named⟩
      rw [last] at contents
      have left : after.content? (storage.placeOf before tried.key) = tried.held := contents
      rw [Option.bind_some, ← left]
      ext content
      rw [← Files.read_eq_ok_iff_content? located named]
      cases after.read (storage.destination tried.key) <;> simp [Except.toOption]
  | none =>
      rw [last] at contents
      cases read : after.read (storage.destination key) with
      | error error => rfl
      | ok content =>
          have found := Files.content?_place_of_read read
          rw [place_destination_of_plain after plain, placeOf_congr ran.keeps.2, contents] at found
          cases found

/-- A directory whose uploads go one after another is a map: each upload has its effect on one key,
or on none, and at every point a key has what the last copy to it has left. -/
theorem uploads_behave_as_map [DomainNames] (storage : LocalStorage) :
    (∀ key artifact files result after, IsPlain key → storage.IsOutside artifact files →
      storage.upload key artifact files = (result, after) →
        storage.Effect key artifact files result after) ∧
      (∀ wanted files, (∀ upload ∈ wanted, IsPlain upload.1) →
        (∀ upload ∈ wanted, storage.IsOutside upload.2 files) →
          storage.Uploads files (storage.tryAll wanted files).1 (storage.tryAll wanted files).2) ∧
      ∀ before uploads after,
        (∀ names, names ≠ [] → before.content? (before.place storage.root ++ names) = none) →
        storage.Uploads before uploads after → ∀ key, IsPlain key →
          (after.read (storage.destination key)).toOption = lastCopied uploads key := by
  refine ⟨?_, fun wanted files => uploads_tryAll, ?_⟩
  · intro key artifact files result after plain outside uploaded
    exact (upload_of_eq uploaded).effect plain outside
  · intro before uploads after empty ran key plain
    exact ran.read_destination empty plain

/-- Of keys that go on from one another only the first one to be stored can be.  The others fail,
for what is a file is no directory, and it keeps what it has. -/
theorem uploads_behave_as_map_overlapping :
    let storage := ofRoot "/out".toList
    let files : Files := ⟨[], [(["a".toList], .file [1]), (["b".toList], .file [2])]⟩
    let wanted := [("u/x", "/a"), ("u", "/b"), ("u/x/y", "/b"), ("u/x", "/none"), ("u/z", "/b")].map
      fun upload => (upload.1.toList, upload.2.toList)
    let ran := storage.tryAll wanted files
    ran.1.map (isCopied ·.result) = [true, false, false, false, true] ∧
      (ran.2.read "/out/u/x".toList).toOption = some [1] ∧
      (ran.2.read "/out/u/z".toList).toOption = some [2] := by
  intro storage files wanted ran
  have uploads : storage.Uploads files ran.1 ran.2 :=
    (uploads_behave_as_map storage).2.1 wanted files (by decide +kernel) (by decide +kernel)
  have law := (uploads_behave_as_map storage).2.2 files ran.1 ran.2 (fun names _ => rfl) uploads
  exact ⟨by decide +kernel, (law "u/x".toList (by decide)).trans (by decide +kernel),
    (law "u/z".toList (by decide)).trans (by decide +kernel)⟩

end LocalStorage

end Typeset
