import Typeset.Libraries
import Typeset.Proofs.Files.Entries
import Typeset.Proofs.Steps
import Typeset.Proofs.Storage.KeyAddress
import Typeset.Storage.Http

/-!
# Requests of uploads

An upload to a web service opens the artifact, builds the address that the request goes to, and
builds the request.  Up to there the network is not asked, and what can go wrong does not depend on
it.  A request that has been built is the only one that the network is asked, and its reply decides
the result.
-/

namespace Typeset

namespace Base64

variable {char : Char}

theorem exists_digit_of_mem_quantum {first second third : UInt8}
    (member : char ∈ quantum first second third) : ∃ value < 64, char = digit value := by
  have firstByte := first.toNat_lt
  have secondByte := second.toNat_lt
  have thirdByte := third.toNat_lt
  simp only [quantum, List.mem_cons, List.not_mem_nil, or_false] at member
  rcases member with rfl | rfl | rfl | rfl <;> exact ⟨_, by omega, rfl⟩

/-- What is encoded consists of digits and of marks at the end. -/
theorem mem_encode {bytes : Bytes} (member : char ∈ encode bytes) :
    char = '=' ∨ ∃ value < 64, char = digit value := by
  induction bytes using encode.induct with
  | case1 first second third rest ih =>
      rw [encode, List.mem_append] at member
      exact member.elim (.inr ∘ exists_digit_of_mem_quantum) ih
  | case2 first second =>
      rw [encode, List.mem_append, List.mem_singleton] at member
      exact member.elim (.inr ∘ exists_digit_of_mem_quantum ∘ List.mem_of_mem_take) .inl
  | case3 first =>
      rw [encode, List.mem_append] at member
      refine member.elim (.inr ∘ exists_digit_of_mem_quantum ∘ List.mem_of_mem_take) ?_
      intro mark
      exact .inl (by simpa using mark)
  | case4 => cases member

end Base64

namespace HttpStorage

variable {storage : HttpStorage} {key address : Text} {artifact : Path} {content : Bytes}
  {files : Files} {url : Url} {network : Network} {request : PutRequest}

/-- A URL of the web that leads to a host, and a token, if there is one, that a header can hold. -/
structure CanSend (storage : HttpStorage) (url : Url) : Prop where
  host : url.hasHost = true
  web : isWebAddress url = true
  token : ∀ token ∈ storage.token, isHeaderValue token = true

/-- A request that takes an artifact to a URL.  The user and the password that the URL gives are
told in a header, and do not stand in the URL. -/
structure Puts (storage : HttpStorage) (artifact : Path) (content : Bytes) (target : Url)
    (request : PutRequest) : Prop where
  url : request.url = target.withoutLogin
  body : request.body = content
  contentLength : request.contentLength = content.length
  contentType : request.contentType = Path.contentType artifact
  userAuthorization : request.userAuthorization = HttpStorage.userAuthorization target
  authorization : request.authorization = storage.token.map ("Bearer ".toList ++ ·)

theorem all_authorization_iff :
    storage.authorization.all isHeaderValue = true ↔
      ∀ token ∈ storage.token, isHeaderValue token = true := by
  have bearer : isHeaderValue "Bearer ".toList = true := by decide
  unfold isHeaderValue at *
  cases written : storage.token with
  | none => simp [authorization, written]
  | some token =>
      simp only [authorization, written, Option.map_some, Option.all_some, List.all_append, bearer,
        Bool.true_and, Option.mem_some_iff, forall_eq']

/-- A header can hold every user and every password, so they keep no request from being sent. -/
theorem isHeaderValue_of_userAuthorization {credentials : Text}
    (given : userAuthorization url = some credentials) : isHeaderValue credentials = true := by
  rcases Option.map_eq_some_iff.mp given with ⟨⟨user, password⟩, _, rfl⟩
  have basic : isHeaderValue "Basic ".toList = true := by decide
  have digits : ∀ value < 64, isHeaderValue [Base64.digit value] = true := by decide
  refine List.all_eq_true.mpr fun char member => ?_
  rcases List.mem_append.mp member with inBasic | encoded
  · exact List.all_eq_true.mp basic char inBasic
  · rcases Base64.mem_encode encoded with rfl | ⟨value, small, rfl⟩
    · rfl
    · simpa [isHeaderValue] using digits value small

theorem isWebAddress_withoutLogin (url : Url) :
    isWebAddress url.withoutLogin = isWebAddress url := by
  unfold Url.withoutLogin
  split <;> rfl

/-- What can be sent makes a request. -/
theorem exists_puts [DomainNames] (parsed : Url.parse address = .ok url)
    (sendable : storage.CanSend url) :
    ∃ request, storage.request address artifact content = .ok request ∧
      storage.Puts artifact content url request := by
  have token := all_authorization_iff.mpr sendable.token
  unfold HttpStorage.request
  simp only [parsed, sendable.host, token, isWebAddress_withoutLogin, sendable.web, Bool.not_true,
    Bool.false_eq_true, if_false]
  exact ⟨_, rfl, rfl, rfl, rfl, rfl, rfl, rfl⟩

/-- What cannot be sent makes none. -/
theorem exists_requestFailure [DomainNames]
    (refused : ∀ url, Url.parse address = .ok url → ¬storage.CanSend url) :
    ∃ failure, storage.request address artifact content = .error failure := by
  unfold HttpStorage.request
  cases parsed : Url.parse address with
  | error reason => exact ⟨_, rfl⟩
  | ok url =>
      simp only
      split
      · exact ⟨_, rfl⟩
      · split
        · exact ⟨_, rfl⟩
        · split
          · exact ⟨_, rfl⟩
          · rename_i host token web
            simp only [Bool.not_eq_true', Bool.not_eq_false, isWebAddress_withoutLogin]
              at host token web
            exact absurd ⟨host, web, all_authorization_iff.mp token⟩ (refused url parsed)

theorem exists_puts_of_request [DomainNames]
    (made : storage.request address artifact content = .ok request) :
    ∃ url, storage.Puts artifact content url request := by
  by_cases sendable : ∃ url, Url.parse address = .ok url ∧ storage.CanSend url
  · rcases sendable with ⟨url, parsed, sendable⟩
    rcases exists_puts parsed sendable with ⟨other, same, puts⟩
    obtain rfl : other = request := Except.ok.inj (same.symm.trans made)
    exact ⟨url, puts⟩
  · have refused : ∀ url, Url.parse address = .ok url → ¬storage.CanSend url := by
      intro url parsed canSend
      exact sendable ⟨url, parsed, canSend⟩
    rcases exists_requestFailure refused with ⟨failure, failed⟩
    cases failed.symm.trans made

/-- What an upload asks the network, or why it does not ask. -/
def attempt [DomainNames] (storage : HttpStorage) (key : Text) (artifact : Path) (files : Files) :
    Except StorageError PutRequest := do
  let content ← (files.read artifact).mapError (.io artifact)
  let address ← storage.objectUrl key
  (storage.request address artifact content).mapError (.http key)

theorem attempt_of_read_error [DomainNames] {error : OsError}
    (missing : files.read artifact = .error error) :
    storage.attempt key artifact files = .error (.io artifact error) := by
  rw [attempt, missing]
  rfl

theorem attempt_of_objectUrl_error [DomainNames] {error : StorageError}
    (read : files.read artifact = .ok content) (refused : storage.objectUrl key = .error error) :
    storage.attempt key artifact files = .error error := by
  rw [attempt, read, refused]
  rfl

theorem attempt_of_objectUrl [DomainNames] (read : files.read artifact = .ok content)
    (built : storage.objectUrl key = .ok address) :
    storage.attempt key artifact files =
      (storage.request address artifact content).mapError (.http key) := by
  rw [attempt, read, built]
  rfl

/-- A request that is asked takes the artifact to a URL. -/
theorem exists_puts_of_attempt [DomainNames]
    (asked : storage.attempt key artifact files = .ok request) :
    ∃ content url, storage.Puts artifact content url request := by
  rcases bind_eq_ok_iff.mp asked with ⟨content, _, next⟩
  rcases bind_eq_ok_iff.mp next with ⟨address, _, last⟩
  rcases exists_puts_of_request (mapError_eq_ok_iff.mp last) with ⟨url, puts⟩
  exact ⟨content, url, puts⟩

/-- How an upload ends that asks the network a request, or nothing. -/
def conclude [DomainNames] (storage : HttpStorage) (network : Network) (key : Text) :
    Except StorageError PutRequest → Except StorageError Text × Option (PutRequest × Reply)
  | .error error => (.error error, none)
  | .ok request =>
      match network request with
      | none => (.error (.http key (.unreachable request.url.toText)), none)
      | some reply =>
          (if 200 ≤ reply.status ∧ reply.status ≤ 299 then storage.publicUrl key
            else .error (.rejected key reply.status reply.body), some (request, reply))

theorem isSuccess_iff {reply : Reply} :
    reply.isSuccess = true ↔ 200 ≤ reply.status ∧ reply.status ≤ 299 := by
  simp only [Reply.isSuccess, Bool.and_eq_true, decide_eq_true_eq]
  omega

theorem send_eq [DomainNames] (storage : HttpStorage) (network : Network) (key : Text)
    (artifact : Path) (files : Files) :
    storage.send network key artifact files =
      storage.conclude network key (storage.attempt key artifact files) := by
  unfold send
  cases read : files.read artifact with
  | error error => rw [attempt_of_read_error read, conclude]
  | ok content =>
      cases built : storage.objectUrl key with
      | error error => rw [attempt_of_objectUrl_error read built, conclude]
      | ok address =>
          rw [attempt_of_objectUrl read built]
          dsimp only
          cases storage.request address artifact content with
          | error failure => rfl
          | ok request =>
              have asked : (Except.ok request).mapError (StorageError.http key) = .ok request :=
                mapError_eq_ok_iff.mpr rfl
              rw [asked]
              simp only [conclude]
              cases network request with
              | none => rfl
              | some reply => simp only [ofReply, isSuccess_iff]

/-- What the network has been asked takes the artifact to a URL. -/
theorem exists_puts_of_send [DomainNames] {reply : Reply}
    (sent : (storage.send network key artifact files).2 = some (request, reply)) :
    ∃ content url, storage.Puts artifact content url request := by
  rw [send_eq] at sent
  cases asked : storage.attempt key artifact files with
  | error error => simp [asked, conclude] at sent
  | ok other =>
      cases answered : network other with
      | none => simp [asked, conclude, answered] at sent
      | some answer =>
          simp only [asked, conclude, answered] at sent
          cases sent
          exact exists_puts_of_attempt asked

/-- What an upload asks is settled before the network is.  An artifact that cannot be opened comes
first, then an address that cannot be built, then one that nothing can be sent to. -/
theorem send_asks_once [DomainNames] (storage : HttpStorage) (key : Text) (artifact : Path)
    (files : Files) :
    ∃ attempt : Except StorageError PutRequest,
      (∀ network, storage.send network key artifact files =
        storage.conclude network key attempt) ∧
      (∀ error, files.find artifact = .error error → attempt = .error (.io artifact error)) ∧
      ∀ content, files.find artifact = .ok (.file content) →
        (∀ error, storage.objectUrl key = .error error →
          attempt = .error error ∧ ∃ reason, error = .invalidUrl storage.endpoint key reason) ∧
        ∀ address, storage.objectUrl key = .ok address →
          (∀ url, Url.parse address = .ok url → storage.CanSend url →
            ∃ request, attempt = .ok request ∧ storage.Puts artifact content url request) ∧
          ((∀ url, Url.parse address = .ok url → ¬storage.CanSend url) →
            ∃ failure, attempt = .error (.http key failure)) := by
  refine ⟨storage.attempt key artifact files, ?_, ?_, ?_⟩
  · intro network
    exact storage.send_eq network key artifact files
  · intro error missing
    apply attempt_of_read_error
    rw [Files.read, missing]
    rfl
  · intro content found
    have read := Files.read_eq_ok_iff.mpr found
    refine ⟨?_, ?_⟩
    · intro error refused
      exact ⟨attempt_of_objectUrl_error read refused, StorageKey.address_eq_error refused⟩
    · intro address built
      rw [attempt_of_objectUrl read built]
      refine ⟨?_, ?_⟩
      · intro url parsed sendable
        rcases exists_puts parsed sendable with ⟨request, made, puts⟩
        exact ⟨request, mapError_eq_ok_iff.mpr made, puts⟩
      · intro refused
        rcases exists_requestFailure refused with ⟨failure, failed⟩
        exact ⟨failure, by rw [failed]; rfl⟩

/-- A reply of 204 is enough, and one of 404 is not. -/
theorem send_asks_once_answered :
    let storage := ((ofEndpoint "http://[::1]:9000/".toList "psets".toList
      "eu-west-2".toList).withToken "secret".toList).withPublicBaseUrl "https://[::1]".toList
    let files : Files := ⟨[], [(["x.pdf".toList], .file [104, 105])]⟩
    let key := "u 1/a.pdf".toList
    let artifact := "/x.pdf".toList
    let url : Url := ⟨"http".toList, some ⟨[], [], "[::1]".toList, some 9000⟩,
      "/psets/u%201/a.pdf".toList, none, none⟩
    ∃ request, storage.Puts artifact [104, 105] url request ∧
      storage.send (fun _ => some ⟨204, []⟩) key artifact files =
        (.ok "https://[::1]/u%201/a.pdf".toList, some (request, ⟨204, []⟩)) ∧
      storage.send (fun _ => some ⟨404, "gone".toList⟩) key artifact files =
        (.error (.rejected key 404 "gone".toList), some (request, ⟨404, "gone".toList⟩)) := by
  intro storage files key artifact url
  have sendable : storage.CanSend url := ⟨by decide, by decide, by decide +kernel⟩
  have told : storage.publicUrl key = .ok "https://[::1]/u%201/a.pdf".toList := by decide +kernel
  rcases storage.send_asks_once key artifact files with ⟨attempt, sends, _, opened⟩
  have addressed := (opened [104, 105] (by decide +kernel)).2 url.toText (by decide +kernel)
  rcases addressed.1 url (by decide +kernel) sendable with ⟨request, rfl, puts⟩
  refine ⟨request, puts, ?_, ?_⟩
  · rw [sends, ← told]
    rfl
  · rw [sends]
    rfl

end HttpStorage

end Typeset
