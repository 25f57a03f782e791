import Typeset.Url.Host
import Typeset.Url.Path

/-!
# URLs

A URL is read from a text the way browsers read addresses: blanks around it and line breaks inside
it do not count, the scheme and the host of a web address are brought to lower case, a port that
the scheme has anyway is dropped, and dot segments of the path are resolved.
-/

namespace Typeset

/-- Where a URL leads: a host, perhaps with a user and a port. -/
structure Authority where
  user : Text
  password : Text
  host : Text
  port : Option Nat
  deriving DecidableEq, Repr

/-- A URL.  The path is kept as it is written. -/
structure Url where
  scheme : Text
  authority : Option Authority
  path : Text
  query : Option Text
  fragment : Option Text
  deriving DecidableEq, Repr

namespace Authority

/-- The authority as it is written. -/
def toText (authority : Authority) : Text :=
  let password := if authority.password.isEmpty then [] else ':' :: authority.password
  let user := authority.user ++ password
  (if user.isEmpty then [] else user ++ ['@']) ++ authority.host ++
    match authority.port with
    | some port => ':' :: Text.ofNat port
    | none => []

/-- The user and the password in the text before an at sign. -/
def credentials (text : Text) : Text × Text :=
  (Percent.encode Percent.user (text.takeWhile (· != ':')),
    Percent.encode Percent.user ((text.dropWhile (· != ':')).drop 1))

/-- The host that comes next, up to a port or to the end of the authority, and the rest. -/
def spanHost (isInside : Bool) : Text → Text × Text
  | [] => ([], [])
  | char :: rest =>
      if char = ':' && !isInside then ([], char :: rest)
      else
        let isInside := if char = '[' then true else if char = ']' then false else isInside
        let (host, rest) := spanHost isInside rest
        (char :: host, rest)

/-- The port that a scheme has unless another one is given. -/
def defaultPort? (scheme : Text) : Option Nat :=
  if scheme = "http".toList || scheme = "ws".toList then some 80
  else if scheme = "https".toList || scheme = "wss".toList then some 443
  else if scheme = "ftp".toList then some 21
  else none

/-- The port that digits write; none if there are no digits or if the scheme has it anyway. -/
def readPort (scheme digits : Text) : Except UrlError (Option Nat) :=
  match digits with
  | [] => .ok none
  | digits =>
      match Text.toNat? digits with
      | none => .error .invalidPort
      | some port =>
          if 65535 < port then .error .invalidPort
          else .ok (if defaultPort? scheme = some port then none else some port)

/-- Whether a character ends an authority. -/
def isEnd (kind : SchemeKind) (char : Char) : Bool :=
  kind.separates char || char == '?' || char == '#'

/-- Reads an authority, and leaves what follows it. -/
def read [DomainNames] (scheme : Text) (kind : SchemeKind) (text : Text) :
    Except UrlError (Authority × Text) := do
  let written := text.takeWhile (!isEnd kind ·)
  let rest := text.dropWhile (!isEnd kind ·)
  let credentialsText := (written.reverse.dropWhile (· != '@')).drop 1 |>.reverse
  let hasAt := written.contains '@'
  let address := (written.reverse.takeWhile (· != '@')).reverse
  if hasAt && credentialsText.isEmpty && address.isEmpty && !rest.isEmpty then throw .emptyHost
  let (user, password) := credentials credentialsText
  let (host, port) := spanHost false address
  if kind = .web && host.isEmpty then throw .emptyHost
  let host ← if kind = .web then Host.web host else Host.plain host
  if host.isEmpty && !port.isEmpty then throw .emptyHost
  let digits := port.drop 1
  let (digits, rest) :=
    if kind = .web then (digits, rest)
    else (digits.takeWhile (· != '\\'), digits.dropWhile (· != '\\') ++ rest)
  let port ← readPort scheme digits
  if host.isEmpty && !(user ++ password).isEmpty then throw .emptyHost
  return (⟨user, password, host, port⟩, rest)

end Authority

namespace Url

/-- The URL as it is written. -/
def toText (url : Url) : Text :=
  url.scheme ++ ':' ::
    (match url.authority with
      | some authority => '/' :: '/' :: authority.toText
      | none => if ['/', '/'].isPrefixOf url.path then ['/', '.'] else []) ++
    url.path ++
    (match url.query with
      | some query => '?' :: query
      | none => []) ++
    (match url.fragment with
      | some fragment => '#' :: fragment
      | none => [])

/-- What is asked of the host: the path and the query. -/
def target (url : Url) : Text :=
  url.path ++
    match url.query with
    | some query => '?' :: query
    | none => []

/-- Whether the path of the URL consists of segments. -/
def isHierarchical (url : Url) : Bool :=
  url.authority.isSome || url.path.head? == some '/'

/-- Whether the URL leads to a host. -/
def hasHost (url : Url) : Bool :=
  url.authority.any fun authority => !authority.host.isEmpty

/-- The user and the password that a URL gives, if it gives any.  A user that is no text hides the
password too. -/
def login? (url : Url) : Option (Text × Option Text) := do
  let authority ← url.authority
  let user ← Utf8.decode? (Percent.decode authority.user)
  let password :=
    if authority.password.isEmpty then none else Utf8.decode? (Percent.decode authority.password)
  if user.isEmpty && password.isNone then none else some (user, password)

/-- The URL without the user and the password that it gives. -/
def withoutLogin (url : Url) : Url :=
  match url.login? with
  | none => url
  | some _ =>
      { url with
        authority := url.authority.map fun authority =>
          { authority with user := [], password := [] } }

/-- The query and the fragment that follow a path. -/
def readTail (kind : SchemeKind) (text : Text) : Option Text × Option Text :=
  let query := text.takeWhile (· != '#')
  let fragment := text.dropWhile (· != '#')
  ((query.head?).map fun _ => Percent.encode kind.queryReserved (query.drop 1),
    (fragment.head?).map fun _ => Percent.encode Percent.fragment (fragment.drop 1))

/-- A URL with the path, the query and the fragment that a text writes after its authority. -/
def withPath (scheme : Text) (kind : SchemeKind) (authority : Option Authority)
    (path text : Text) : Url :=
  let (path, rest) := UrlPath.readFrom kind path [] text
  let (query, fragment) := readTail kind rest
  ⟨scheme, authority, path, query, fragment⟩

/-- The text after a separator that comes next. -/
def afterSeparator (kind : SchemeKind) (text : Text) : Text :=
  match text with
  | char :: rest => if kind.separates char then rest else text
  | [] => []

/-- Reads what follows the two slashes before an authority. -/
def afterSlashes [DomainNames] (scheme : Text) (kind : SchemeKind) (text : Text) :
    Except UrlError Url := do
  let (authority, rest) ← Authority.read scheme kind text
  if kind = .web then
    return withPath scheme kind (some authority) ['/'] (afterSeparator kind rest)
  else
    match rest.head? with
    | none => return withPath scheme kind (some authority) [] rest
    | some char =>
        if char = '?' || char = '#' then
          let (query, fragment) := readTail kind rest
          return ⟨scheme, some authority, [], query, fragment⟩
        else
          return withPath scheme kind (some authority) (if char = '/' then [] else ['/']) rest

/-- Reads what follows the scheme of a file.  The host of this machine is left out, and so is
every host before a drive letter. -/
def readFile [DomainNames] (scheme text : Text) : Except UrlError Url := do
  let noHost : Authority := ⟨[], [], [], none⟩
  match text with
  | first :: second :: rest =>
      if SchemeKind.file.separates first && SchemeKind.file.separates second then
        let host := rest.takeWhile (!Authority.isEnd .file ·)
        let after := rest.dropWhile (!Authority.isEnd .file ·)
        if UrlPath.isDrive host then return withPath scheme .file (some noHost) ['/'] rest
        else if host.isEmpty then return withPath scheme .file (some noHost) ['/'] after
        else
          let host ← Host.web host
          let host := if host = "localhost".toList then [] else host
          let url := withPath scheme .file (some { noHost with host }) ['/']
            (afterSeparator .file after)
          let first := (url.path.drop 1).takeWhile (· != '/')
          if UrlPath.isNormalDrive first then return { url with authority := some noHost }
          else return url
      else return withPath scheme .file (some noHost) ['/'] text
  | text => return withPath scheme .file (some noHost) ['/'] text

/-- Reads what follows the scheme of a URL that is neither a file nor a web address. -/
def readOther [DomainNames] (scheme text : Text) : Except UrlError Url :=
  match text with
  | '/' :: '/' :: rest => afterSlashes scheme .other rest
  | '/' :: rest => .ok (withPath scheme .other none ['/'] rest)
  | text =>
      let isEnd (char : Char) : Bool := char == '?' || char == '#'
      let (query, fragment) := readTail .other (text.dropWhile (!isEnd ·))
      .ok ⟨scheme, none, Percent.encode [] (text.takeWhile (!isEnd ·)), query, fragment⟩

/-- Whether a character can be part of a scheme. -/
def isSchemeChar (char : Char) : Bool :=
  char.isAlphanum || char == '+' || char == '-' || char == '.'

/-- The scheme that a text begins with, in lower case, and what follows its colon. -/
def splitScheme? (text : Text) : Option (Text × Text) :=
  let scheme := text.takeWhile isSchemeChar
  match text.dropWhile isSchemeChar with
  | ':' :: rest => if scheme.head?.any Char.isAlpha then some (Text.lowered scheme, rest) else none
  | _ => none

/-- The text that counts: without blanks and control characters around it, and without tabs and
line breaks. -/
def significant (text : Text) : Text :=
  let isBlank (char : Char) : Bool := char ≤ ' '
  ((text.dropWhile isBlank).reverse.dropWhile isBlank).reverse.filter (!UrlPath.isIgnored ·)

/-- Reads a URL. -/
def parse [DomainNames] (text : Text) : Except UrlError Url :=
  match splitScheme? (significant text) with
  | none => .error .withoutBase
  | some (scheme, rest) =>
      match SchemeKind.ofScheme scheme with
      | .web => afterSlashes scheme .web (rest.dropWhile SchemeKind.web.separates)
      | .file => readFile scheme rest
      | .other => readOther scheme rest

/-- The URL with more segments at the end of its path, where an empty last segment does not
count. -/
def extend (url : Url) (segments : List Text) : Url :=
  let kind := SchemeKind.ofScheme url.scheme
  { url with path := UrlPath.pushAll kind (UrlPath.dropEmptyLast url.path) segments }

end Url

end Typeset
