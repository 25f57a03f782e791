import Typeset.Storage.Key

/-!
# Storage in a directory

Artifacts are copied below a root directory; the key is the path from there.
-/

namespace Typeset

/-- A directory that holds artifacts, and the address that the directory is known under. -/
structure LocalStorage where
  root : Path
  baseUrl : Option Text
  deriving DecidableEq, Repr

namespace LocalStorage

/-- A directory that is known as itself. -/
def ofRoot (root : Path) : LocalStorage :=
  ⟨root, none⟩

/-- The directory under an address. -/
def withBaseUrl (storage : LocalStorage) (baseUrl : Text) : LocalStorage :=
  { storage with baseUrl := some (StorageKey.trimBase baseUrl) }

/-- Where the artifact with a key is kept. -/
def destination (storage : LocalStorage) (key : Text) : Path :=
  Path.join storage.root key

/-- The address of a key. -/
def url [DomainNames] (storage : LocalStorage) (key : Text) : Except StorageError Text :=
  match storage.baseUrl with
  | some base => StorageKey.address base none key
  | none => .ok ("file://".toList ++ storage.destination key)

/-- Makes the directory that an artifact is kept in. -/
def prepare (storage : LocalStorage) (key : Text) (files : Files) :
    Except StorageError Unit × Files :=
  match Path.parent? (storage.destination key) with
  | none => (.ok (), files)
  | some parent =>
      match files.makeDirectories parent with
      | (.ok (), files) => (.ok (), files)
      | (.error error, files) => (.error (.io parent error), files)

/-- Copies an artifact to its place and tells its address. -/
def upload [DomainNames] (storage : LocalStorage) (key : Text) (artifact : Path) (files : Files) :
    Except StorageError Text × Files :=
  match storage.prepare key files with
  | (.error error, files) => (.error error, files)
  | (.ok (), files) =>
      match files.copy artifact (storage.destination key) with
      | .error error => (.error (.io artifact error), files)
      | .ok files => (storage.url key, files)

end LocalStorage

end Typeset
