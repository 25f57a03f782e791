import Typeset.Storage.Key
import Typeset.Text.Base64

/-!
# Storage behind a web service

Artifacts are sent to an object storage with one request each.  The address that the request goes
to and the address that is told to callers can differ.
-/

namespace Typeset

/-- An object storage behind a web service. -/
structure HttpStorage where
  endpoint : Text
  bucket : Text
  region : Text
  publicBaseUrl : Option Text
  token : Option Text
  deriving DecidableEq, Repr

/-- The request that stores an artifact.  The user of the URL and the token are told in headers of
the same name, the user first. -/
structure PutRequest where
  url : Url
  contentType : Text
  contentLength : Nat
  userAuthorization : Option Text
  authorization : Option Text
  body : Bytes
  deriving DecidableEq, Repr

/-- What a web service answers. -/
structure Reply where
  status : Nat
  body : Text
  deriving DecidableEq, Repr

/-- Whether the answer says that all went well. -/
def Reply.isSuccess (reply : Reply) : Bool :=
  200 ≤ reply.status && reply.status < 300

/-- How the network answers requests; nothing if it does not reach the service. -/
abbrev Network := PutRequest → Option Reply

namespace HttpStorage

/-- The storage at an endpoint, without a token. -/
def ofEndpoint (endpoint bucket region : Text) : HttpStorage :=
  ⟨StorageKey.trimBase endpoint, bucket, region, none, none⟩

/-- The storage with another base for the addresses that callers are told. -/
def withPublicBaseUrl (storage : HttpStorage) (url : Text) : HttpStorage :=
  { storage with publicBaseUrl := some (StorageKey.trimBase url) }

/-- The storage with a token that goes with every request. -/
def withToken (storage : HttpStorage) (token : Text) : HttpStorage :=
  { storage with token := some token }

/-- The address that the request for a key goes to. -/
def objectUrl [DomainNames] (storage : HttpStorage) (key : Text) : Except StorageError Text :=
  StorageKey.address storage.endpoint (some storage.bucket) key

/-- The base of public addresses, unless another one is given. -/
def defaultPublicBase (storage : HttpStorage) : Text :=
  "https://".toList ++ storage.bucket ++ ".s3.".toList ++ storage.region ++
    ".amazonaws.com".toList

/-- The address that callers are told. -/
def publicUrl [DomainNames] (storage : HttpStorage) (key : Text) : Except StorageError Text :=
  StorageKey.address (storage.publicBaseUrl.getD storage.defaultPublicBase) none key

/-- The credentials that the user and the password of a URL make. -/
def userAuthorization (url : Url) : Option Text :=
  url.login?.map fun (user, password) =>
    "Basic ".toList ++ Base64.encode (Text.toUtf8 (user ++ ':' :: password.getD []))

/-- The credentials that the token makes. -/
def authorization (storage : HttpStorage) : Option Text :=
  storage.token.map ("Bearer ".toList ++ ·)

/-- Whether a text can be sent as the value of a header. -/
def isHeaderValue (text : Text) : Bool :=
  text.all fun char => char == '\t' || (' ' ≤ char && char != '\x7f')

/-- Whether requests can be sent to a URL. -/
def isWebAddress (url : Url) : Bool :=
  url.scheme == "http".toList || url.scheme == "https".toList

/-- The request for an address, or why it cannot be sent. -/
def request [DomainNames] (storage : HttpStorage) (address : Text) (artifact : Path)
    (content : Bytes) : Except RequestFailure PutRequest := do
  match Url.parse address with
  | .error _ => .error (.invalidScheme address)
  | .ok url =>
      if !url.hasHost then .error (.invalidScheme url.toText)
      else if !storage.authorization.all isHeaderValue then .error .invalidHeader
      else
        let userAuthorization := userAuthorization url
        let url := url.withoutLogin
        if !isWebAddress url then .error (.invalidScheme url.toText)
        else
          .ok
            { url
              contentType := Path.contentType artifact
              contentLength := content.length
              userAuthorization
              authorization := storage.authorization
              body := content }

/-- The result of an upload that was answered. -/
def ofReply [DomainNames] (storage : HttpStorage) (key : Text) (reply : Reply) :
    Except StorageError Text :=
  if reply.isSuccess then storage.publicUrl key
  else .error (.rejected key reply.status reply.body)

/-- Sends an artifact: the result, and the request with its answer if it reached the service. -/
def send [DomainNames] (storage : HttpStorage) (network : Network) (key : Text) (artifact : Path)
    (files : Files) : Except StorageError Text × Option (PutRequest × Reply) :=
  match files.read artifact with
  | .error error => (.error (.io artifact error), none)
  | .ok content =>
      match storage.objectUrl key with
      | .error error => (.error error, none)
      | .ok address =>
          match storage.request address artifact content with
          | .error failure => (.error (.http key failure), none)
          | .ok request =>
              match network request with
              | none => (.error (.http key (.unreachable request.url.toText)), none)
              | some reply => (storage.ofReply key reply, some (request, reply))

/-- Sends an artifact and tells its public address. -/
def upload [DomainNames] (storage : HttpStorage) (network : Network) (key : Text) (artifact : Path)
    (files : Files) : Except StorageError Text :=
  (storage.send network key artifact files).1

end HttpStorage

end Typeset
