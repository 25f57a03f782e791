import Typeset.Libraries
import Typeset.Proofs.Storage.Local
import Typeset.Proofs.Storage.Requests

/-!
# Failed uploads

An upload can fail at many points, and all of them but one come before the artifact is stored.  The
one is that the address to tell cannot be built.  Whether it can be is a matter of its base and not
of the key: a storage tells the address of every artifact that it stores, or of none.
-/

namespace Typeset

namespace StorageKey

variable {base : Text}

/-- An address that keys can be appended to. -/
def IsBase [DomainNames] (base : Text) : Prop :=
  ∃ url, Url.parse base = .ok url ∧ url.isHierarchical = true

theorem isBase_iff [DomainNames] (base : Text) (bucket : Option Text) (key : Text) :
    IsBase base ↔ ∃ text, address base bucket key = .ok text := by
  unfold IsBase address
  cases parsed : Url.parse base with
  | error reason => simp
  | ok url => cases hierarchical : url.isHierarchical <;> simp [hierarchical]

end StorageKey

namespace LocalStorage

variable {storage : LocalStorage} {key : Text} {artifact : Path} {files after : Files}
  {error : StorageError}

/-- Whether the addresses of artifacts can be told. -/
def TellsAddresses [DomainNames] (storage : LocalStorage) : Prop :=
  ∀ base ∈ storage.baseUrl, StorageKey.IsBase base

theorem tellsAddresses_iff [DomainNames] (storage : LocalStorage) (key : Text) :
    storage.TellsAddresses ↔ ∃ address, storage.url key = .ok address := by
  unfold TellsAddresses url
  cases storage.baseUrl with
  | none => simp
  | some base => simpa using StorageKey.isBase_iff base none key

theorem url_eq_ok [DomainNames] {address : Text}
    (uploaded : storage.upload key artifact files = (.ok address, after)) :
    storage.url key = .ok address := by
  cases upload_of_eq uploaded with
  | copied makes read reached named regular told => exact told

/-- An upload that fails has made directories and nothing else, or it has stored the artifact and
cannot tell the address. -/
theorem addsDirectories_or_stores_of_error [DomainNames]
    (failed : storage.upload key artifact files = (.error error, after)) :
    ((∃ path os, error = .io path os) ∧ files.AddsDirectories after) ∨
      (storage.url key = .error error ∧
        ∃ content, files.content? (files.place artifact) = some content ∧
          after.read (storage.destination key) =
            .ok (storage.kept key artifact files content)) := by
  cases upload_of_eq failed with
  | refused makes => exact .inl ⟨⟨_, _, rfl⟩, makes.addsDirectories⟩
  | copied makes read reached named regular told =>
      have copied := isCopied_url storage key
      rw [told] at copied
      exact .inr ⟨told, (upload_of_eq failed).exists_read copied⟩

end LocalStorage

namespace HttpStorage

variable {storage : HttpStorage} {network : Network} {key : Text} {artifact : Path} {files : Files}
  {result : Except StorageError Text} {sent : Option (PutRequest × Reply)}

/-- Whether the addresses of artifacts can be told. -/
def TellsAddresses [DomainNames] (storage : HttpStorage) : Prop :=
  StorageKey.IsBase (storage.publicBaseUrl.getD storage.defaultPublicBase)

theorem tellsAddresses_iff [DomainNames] (storage : HttpStorage) (key : Text) :
    storage.TellsAddresses ↔ ∃ address, storage.publicUrl key = .ok address :=
  StorageKey.isBase_iff _ none key

/-- An upload fails without a success, or has had a success and ends with the public address, if
that can be built. -/
theorem fails_or_succeeds_of_send [DomainNames]
    (ended : storage.send network key artifact files = (result, sent)) :
    ((∃ error, result = .error error) ∧ ∀ exchange ∈ sent, exchange.2.isSuccess = false) ∨
      (storage.publicUrl key = result ∧ ∃ exchange ∈ sent, exchange.2.isSuccess = true) := by
  rw [send_eq] at ended
  cases asked : storage.attempt key artifact files with
  | error refusal =>
      rw [asked] at ended
      cases ended
      exact .inl ⟨⟨_, rfl⟩, by simp⟩
  | ok request =>
      cases answered : network request with
      | none =>
          simp only [asked, conclude, answered] at ended
          cases ended
          exact .inl ⟨⟨_, rfl⟩, by simp⟩
      | some reply =>
          simp only [asked, conclude, answered, ← isSuccess_iff] at ended
          cases accepted : reply.isSuccess with
          | false =>
              simp only [accepted, Bool.false_eq_true, if_false] at ended
              cases ended
              exact .inl ⟨⟨_, rfl⟩, by simpa using accepted⟩
          | true =>
              simp only [accepted, if_true] at ended
              cases ended
              exact .inr ⟨rfl, (request, reply), rfl, accepted⟩

end HttpStorage

/-- A failed upload has stored nothing, unless all has gone well and only the address cannot be
told.  A storage that cannot tell addresses fails all uploads, those that store the artifact with
them. -/
theorem failed_upload_stores_nothing_unless_untold [DomainNames] (directory : LocalStorage)
    (service : HttpStorage) (key : Text) (artifact : Path) (files : Files) :
    (∀ error after, directory.upload key artifact files = (.error error, after) →
      ((∃ path os, error = .io path os) ∧ files.AddsDirectories after) ∨
        (¬directory.TellsAddresses ∧ (∃ base reason, error = .invalidUrl base key reason) ∧
          ∃ content, files.content? (files.place artifact) = some content ∧
            after.read (directory.destination key) =
              .ok (directory.kept key artifact files content))) ∧
      (∀ network error sent, service.send network key artifact files = (.error error, sent) →
        (∀ exchange ∈ sent, exchange.2.isSuccess = false) ∨
          (¬service.TellsAddresses ∧ (∃ base reason, error = .invalidUrl base key reason) ∧
            ∃ exchange ∈ sent, exchange.2.isSuccess = true)) ∧
      (∀ address after, directory.upload key artifact files = (.ok address, after) →
        directory.TellsAddresses) ∧
      ∀ network address sent, service.send network key artifact files = (.ok address, sent) →
        service.TellsAddresses := by
  refine ⟨?_, ?_, ?_, ?_⟩
  · intro error after failed
    apply (LocalStorage.addsDirectories_or_stores_of_error failed).imp_right
    rintro ⟨untold, stored⟩
    refine ⟨?_, LocalStorage.exists_invalidUrl_of_url untold, stored⟩
    simp [directory.tellsAddresses_iff key, untold]
  · intro network error sent failed
    apply (HttpStorage.fails_or_succeeds_of_send failed).imp And.right
    rintro ⟨untold, accepted⟩
    refine ⟨?_, ⟨_, StorageKey.address_eq_error untold⟩, accepted⟩
    simp [service.tellsAddresses_iff key, untold]
  · intro address after uploaded
    exact (directory.tellsAddresses_iff key).mpr ⟨address, LocalStorage.url_eq_ok uploaded⟩
  · intro network address sent uploaded
    rcases HttpStorage.fails_or_succeeds_of_send uploaded with ⟨⟨error, failed⟩, _⟩ | ⟨told, _⟩
    · cases failed
    · exact (service.tellsAddresses_iff key).mpr ⟨address, told⟩

/-- An artifact that is stored under a key, and an upload that fails all the same. -/
theorem failed_upload_has_stored :
    let directory := (LocalStorage.ofRoot "/out".toList).withBaseUrl "not a url".toList
    let service := (HttpStorage.ofEndpoint "http://[::1]:9000".toList "psets".toList
      "eu-west-2".toList).withPublicBaseUrl "not a url".toList
    let files : Files := ⟨[], [(["x.pdf".toList], .file [104, 105])]⟩
    let key := "u1/a.pdf".toList
    let error := StorageError.invalidUrl "not a url".toList key
      "relative URL without a base".toList
    let uploaded := directory.upload key "/x.pdf".toList files
    let sent := service.send (fun _ => some ⟨200, []⟩) key "/x.pdf".toList files
    uploaded.1 = .error error ∧ files.read "/out/u1/a.pdf".toList = .error .notFound ∧
      uploaded.2.read "/out/u1/a.pdf".toList = .ok [104, 105] ∧
      sent.1 = .error error ∧ sent.2.map (fun exchange => (exchange.1.body, exchange.2.status)) =
        some ([104, 105], 200) := by
  decide +kernel

end Typeset
