import Typeset.Proofs.Text.Trimming
import Typeset.Proofs.Url.Parts
import Typeset.Storage.Key

/-!
# Addresses of keys

The address of a key goes on where its base ends: after the segments of the base come one for the
bucket, if there is one, and one for each segment of the key, and all other parts are those of the
base.  Each added segment is encoded, percent signs and separators included, so decoding gives back
what has been added and the address tells the key.

All of this is about names that a URL keeps.  A segment of dots is left out, and tabs and line
breaks are left out wherever they stand.
-/

namespace Typeset

open UrlPath

/-- The path of a URL has no empty segment, except perhaps the last one. -/
def Url.IsFull (url : Url) : Prop :=
  ∀ segment ∈ (Text.splitAt '/' (url.path.drop 1)).dropLast, segment ≠ []

/-- A name that a URL keeps as a segment. -/
structure IsBucketName (bucket : Text) : Prop where
  ne_nil : bucket ≠ []
  unbroken : ∀ char ∈ bucket, isIgnored char = false
  one : bucket ≠ ['.']
  two : bucket ≠ ['.', '.']

theorem isBucketName_iff {name : Text} :
    IsBucketName name ↔
      name ≠ [] ∧ name.all (isIgnored · = false) ∧ name ≠ ['.'] ∧ name ≠ ['.', '.'] := by
  simp only [List.all_eq_true, decide_eq_true_eq]
  constructor
  · rintro ⟨left, unbroken, one, two⟩
    exact ⟨left, unbroken, one, two⟩
  · rintro ⟨left, unbroken, one, two⟩
    exact ⟨left, unbroken, one, two⟩

instance (name : Text) : Decidable (IsBucketName name) :=
  decidable_of_iff _ isBucketName_iff.symm

theorem IsBucketName.kept_eq {bucket : Text} (named : IsBucketName bucket) :
    kept bucket = bucket := by
  rw [kept, List.filter_eq_self]
  simpa using named.unbroken

namespace UrlPath

/-- The segments of a path. -/
def segmentsOf (path : Text) : List Text :=
  Text.splitAt '/' (path.drop 1)

/-- The segments of a path that others can be added to: a last one that is empty does not count. -/
def baseSegmentsOf (path : Text) : List Text :=
  if (segmentsOf path).getLast? = some [] then (segmentsOf path).dropLast else segmentsOf path

variable {segments : List Text}

theorem segmentsOf_rooted (more : segments ≠ []) (plain : ∀ segment ∈ segments, '/' ∉ segment) :
    segmentsOf (rooted segments) = segments := by
  rcases List.exists_cons_of_ne_nil more with ⟨first, rest, rfl⟩
  rw [List.forall_mem_cons] at plain
  exact splitAt_append_rooted plain.1 plain.2

theorem getLast?_rooted_ne (more : segments ≠ [])
    (proper : ∀ segment ∈ segments, segment ≠ [] ∧ '/' ∉ segment) :
    (rooted segments).getLast? ≠ some '/' := by
  rcases List.eq_nil_or_concat' segments with rfl | ⟨before, last, rfl⟩
  · exact absurd rfl more
  · rcases proper last (by simp) with ⟨left, plain⟩
    rcases List.eq_nil_or_concat' last with rfl | ⟨start, char, rfl⟩
    · exact absurd rfl left
    · have whole : rooted (before ++ [start ++ [char]]) =
          (rooted before ++ '/' :: start) ++ [char] := by simp
      rw [whole, List.getLast?_concat, Ne, Option.some.injEq]
      rintro rfl
      simp at plain

theorem trimBase_of_getLast?_ne {path : Text} (plain : path.getLast? ≠ some '/') :
    StorageKey.trimBase path = path := by
  rcases List.eq_nil_or_concat' path with rfl | ⟨start, char, rfl⟩
  · rfl
  · rw [List.getLast?_concat, Ne, Option.some.injEq] at plain
    simp [StorageKey.trimBase, Text.dropEndWhile, plain]

theorem trimBase_append_slash (path : Text) :
    StorageKey.trimBase (path ++ ['/']) = StorageKey.trimBase path := by
  simp [StorageKey.trimBase, Text.dropEndWhile]

theorem trimBase_rooted (proper : ∀ segment ∈ segments, segment ≠ [] ∧ '/' ∉ segment) :
    StorageKey.trimBase (rooted segments) = rooted segments := by
  cases segments with
  | nil => rfl
  | cons segment segments =>
      exact trimBase_of_getLast?_ne (getLast?_rooted_ne (List.cons_ne_nil _ _) proper)

theorem dropEmptyLast_rooted (more : segments ≠ [])
    (proper : ∀ segment ∈ segments, segment ≠ [] ∧ '/' ∉ segment) :
    dropEmptyLast (rooted segments) = rooted segments := by
  have ends : endsInSlash (rooted segments) = false := by
    simpa [endsInSlash] using getLast?_rooted_ne more proper
  simp [dropEmptyLast, ends]

theorem dropEmptyLast_rooted_append_slash (segments : List Text) :
    dropEmptyLast (rooted segments ++ ['/']) = ofSegments segments := by
  cases segments with
  | nil => rfl
  | cons segment segments =>
      rw [ofSegments_of_ne_nil (List.cons_ne_nil _ _), dropEmptyLast, if_pos]
      · exact List.dropLast_concat
      · rw [endsInSlash, List.getLast?_concat]
        simp only [rooted_cons, List.length_append, List.length_cons, beq_self_eq_true,
          Bool.and_true, decide_eq_true_eq]
        omega

end UrlPath

/-- A path without empty segments is one of segments, whether or not it ends in a separator. -/
theorem Url.IsWeb.baseSegmentsOf_path {url : Url} (web : url.IsWeb) (full : url.IsFull) :
    (∀ segment ∈ baseSegmentsOf url.path, segment ≠ [] ∧ '/' ∉ segment) ∧
      dropEmptyLast url.path = ofSegments (baseSegmentsOf url.path) ∧
      StorageKey.trimBase url.path = rooted (baseSegmentsOf url.path) := by
  rcases List.head?_eq_some_iff.mp web.path.head with ⟨rest, isPath⟩
  have parts : rooted (segmentsOf url.path) = url.path := by
    rw [segmentsOf, isPath, List.drop_one, List.tail_cons, rooted_splitAt]
  have plain : ∀ segment ∈ segmentsOf url.path, '/' ∉ segment := fun segment member =>
    Text.not_mem_of_mem_splitAt member
  have full : ∀ segment ∈ (segmentsOf url.path).dropLast, segment ≠ [] := full
  unfold baseSegmentsOf
  generalize segmentsOf url.path = segments at full parts plain
  rcases List.eq_nil_or_concat' segments with rfl | ⟨before, last, rfl⟩
  · rw [← parts] at isPath
    cases isPath
  · rw [List.dropLast_concat] at full
    have proper : ∀ segment ∈ before, segment ≠ [] ∧ '/' ∉ segment := fun segment member =>
      ⟨full segment member, plain segment (List.mem_append_left _ member)⟩
    rw [← parts, List.getLast?_concat, List.dropLast_concat]
    cases last with
    | nil =>
        have closed : rooted (before ++ [[]]) = rooted before ++ ['/'] := by simp
        rw [closed, if_pos rfl]
        exact ⟨proper, dropEmptyLast_rooted_append_slash before,
          (trimBase_append_slash _).trans (trimBase_rooted proper)⟩
    | cons char last =>
        have all : ∀ segment ∈ before ++ [char :: last], segment ≠ [] ∧ '/' ∉ segment := by
          intro segment member
          rcases List.mem_append.mp member with earlier | isLast
          · exact proper segment earlier
          · rw [List.mem_singleton.mp isLast]
            exact ⟨List.cons_ne_nil _ _, plain _ (by simp)⟩
        rw [if_neg (by simp)]
        refine ⟨all, ?_, trimBase_rooted all⟩
        rw [dropEmptyLast_rooted (by simp) all, ofSegments_of_ne_nil (by simp)]

theorem Url.IsWeb.baseSegmentsOf_ne {url : Url} (web : url.IsWeb) (full : url.IsFull) :
    baseSegmentsOf url.path ≠ [[]] := by
  intro single
  have proper := (web.baseSegmentsOf_path full).1 [] (by simp [single])
  exact proper.1 rfl

theorem Url.isWeb_of_scheme [DomainNames] {text : Text} {url : Url}
    (parsed : Url.parse text = .ok url)
    (web : url.scheme = "http".toList ∨ url.scheme = "https".toList) : url.IsWeb := by
  apply isWeb_of_parse parsed
  rcases web with scheme | scheme <;> rw [scheme] <;> decide

theorem UrlPath.unended_written (name : Text) :
    ∀ char ∈ written name, Url.endsPath char = false := by
  have question : '?' ∉ written name :=
    Percent.not_mem_encode (by decide) (by decide) (by decide)
  have hash : '#' ∉ written name :=
    Percent.not_mem_encode (by decide) (by decide) (by decide)
  intro char member
  simp [Url.endsPath, ne_of_mem_of_not_mem member question, ne_of_mem_of_not_mem member hash]

theorem UrlPath.unended_rooted {segments : List Text}
    (unended : ∀ segment ∈ segments, ∀ char ∈ segment, Url.endsPath char = false) :
    ∀ char ∈ rooted segments, Url.endsPath char = false := by
  intro char member
  rcases List.mem_flatMap.mp member with ⟨segment, present, here⟩
  rcases List.mem_cons.mp here with rfl | inside
  · rfl
  · exact unended segment present char inside

/-- A web address stays one when segments are added to its path. -/
theorem Url.IsWeb.withRooted {url : Url} (web : url.IsWeb) {segments added : List Text}
    (base : StorageKey.trimBase url.path = rooted segments) (more : added ≠ [])
    (unended : ∀ segment ∈ added, ∀ char ∈ segment, Url.endsPath char = false) :
    ({ url with path := rooted (segments ++ added) } : Url).IsWeb := by
  refine ⟨web.kind, web.authority, ?_, ?_⟩
  · rcases List.exists_cons_of_ne_nil more with ⟨first, rest, rfl⟩
    cases segments <;> rfl
  · intro char member
    rw [rooted_append, List.mem_append] at member
    rcases member with inBase | isAdded
    · rw [← base] at inBase
      exact web.path.unended char ((Text.dropEndWhile_prefix _ _).subset inBase)
    · exact unended_rooted unended char isAdded

theorem IsBucketName.written_ne_nil {name : Text} (named : IsBucketName name) :
    written name ≠ [] := by
  rw [Ne, written_eq_nil_iff, named.kept_eq]
  exact named.ne_nil

/-- A name that a URL keeps is read back from its segment. -/
theorem IsBucketName.decode_written {name : Text} (named : IsBucketName name) :
    Utf8.decode? (Percent.decode (written name)) = some name := by
  rw [Utf8.decode?_eq_some_iff, written, Percent.decode_encode (by decide), named.kept_eq]

/-- Each name that a URL keeps becomes one more segment. -/
theorem pushAll_ofSegments_of_named {segments names : List Text} (real : segments ≠ [[]])
    (named : ∀ name ∈ names, IsBucketName name) :
    pushAll .web (ofSegments segments) names = ofSegments (segments ++ names.map written) := by
  induction names generalizing segments with
  | nil => simp [pushAll]
  | cons name names ih =>
      rw [List.forall_mem_cons] at named
      rcases named with ⟨isName, others⟩
      have next : push .web (ofSegments segments) name =
          ofSegments (segments ++ [written name]) := by
        apply push_ofSegments_of_proper real
        · rw [isName.kept_eq]
          exact isName.one
        · rw [isName.kept_eq]
          exact isName.two
      have onward : segments ++ [written name] ≠ [[]] := by
        cases segments with
        | nil => simpa using isName.written_ne_nil
        | cons first rest => exact append_singleton_ne (List.cons_ne_nil first rest) _
      have rest := ih onward others
      rw [List.append_assoc] at rest
      rw [pushAll, List.foldl_cons, next]
      exact rest

/-- A web address without empty segments is extended by one segment for each name. -/
theorem Url.IsWeb.extend_eq {url : Url} (web : url.IsWeb) (full : url.IsFull) {names : List Text}
    (named : ∀ name ∈ names, IsBucketName name) (more : names ≠ []) :
    url.extend names =
      { url with path := rooted (baseSegmentsOf url.path ++ names.map written) } := by
  have base := (web.baseSegmentsOf_path full).2.1
  have real := web.baseSegmentsOf_ne full
  have extended : ofSegments (baseSegmentsOf url.path ++ names.map written) =
      rooted (baseSegmentsOf url.path ++ names.map written) :=
    ofSegments_of_ne_nil (by simp [more])
  simp only [Url.extend, web.kind, base, pushAll_ofSegments_of_named real named, extended]

namespace StorageKey

variable {base key : Text} {bucket : Option Text} {url : Url}

theorem segments_inj {first second : Text} : segments first = segments second ↔ first = second := by
  constructor
  · intro same
    rw [← Text.joined_splitAt '/' first, ← Text.joined_splitAt '/' second]
    exact congrArg (Text.joined ['/']) same
  · exact congrArg segments

theorem address_eq_ok [DomainNames] (parsed : Url.parse base = .ok url) (web : url.IsWeb)
    (bucket : Option Text) (key : Text) :
    address base bucket key = .ok (url.extend (bucket.toList ++ segments key)).toText := by
  rcases web.authority with ⟨authority, isAuthority, _⟩
  have hierarchical : url.isHierarchical = true := by simp [Url.isHierarchical, isAuthority]
  rw [address, parsed]
  simp only [hierarchical, if_true]

/-- Only a base that is no address of segments keeps a key from having an address. -/
theorem address_eq_error [DomainNames] {error : StorageError}
    (refused : address base bucket key = .error error) :
    ∃ reason, error = .invalidUrl base key reason := by
  unfold address at refused
  split at refused
  · cases refused
    exact ⟨_, rfl⟩
  · split at refused
    · cases refused
    · cases refused
      exact ⟨_, rfl⟩

/-- A written address that differs from a URL only in the segments that its path has more. -/
structure Extends (url : Url) (added : List Text) (address : Text) : Prop where
  scheme : (Url.partsOf address).scheme = url.scheme
  authority : some (Url.partsOf address).authority = url.authority.map Authority.toText
  path : (Url.partsOf address).path = rooted (baseSegmentsOf url.path ++ added)
  segments : segmentsOf (Url.partsOf address).path = baseSegmentsOf url.path ++ added
  query : (Url.partsOf address).query = url.query
  fragment : (Url.partsOf address).fragment = url.fragment

theorem extends_toText [DomainNames] (parsed : Url.parse base = .ok url) (web : url.IsWeb)
    (full : url.IsFull) {names : List Text} (named : ∀ name ∈ names, IsBucketName name)
    (more : names ≠ []) : Extends url (names.map written) (url.extend names).toText := by
  rcases web.authority with ⟨authority, isAuthority, _⟩
  rcases web.baseSegmentsOf_path full with ⟨proper, _, trimmed⟩
  have unended : ∀ segment ∈ names.map written, ∀ char ∈ segment, Url.endsPath char = false := by
    intro segment member
    rcases List.mem_map.mp member with ⟨name, _, rfl⟩
    exact unended_written name
  have plain : ∀ segment ∈ baseSegmentsOf url.path ++ names.map written, '/' ∉ segment := by
    intro segment member
    rcases List.mem_append.mp member with inBase | isAdded
    · exact (proper segment inBase).2
    · rcases List.mem_map.mp isAdded with ⟨name, _, rfl⟩
      exact slash_not_mem_written name
  have extended := web.withRooted trimmed (by simpa using more) unended
  have noHash : ∀ query ∈ url.query, '#' ∉ query :=
    Url.hash_not_mem_query_of_parse parsed web.kind
  have parts := extended.partsOf_toText isAuthority noHash
  rw [web.extend_eq full named more]
  constructor
  · rw [parts]
  · rw [parts, isAuthority]
    rfl
  · rw [parts]
  · rw [parts]
    exact segmentsOf_rooted (by simp [more]) plain
  · rw [parts]
  · rw [parts]

/-- The address of a key goes on where the base ends, by segments that decode to the bucket and to
the segments of the key.  So the address tells the key. -/
theorem address_tells_key [DomainNames] (parsed : Url.parse base = .ok url)
    (web : url.scheme = "http".toList ∨ url.scheme = "https".toList) (full : url.IsFull)
    (bucketNamed : ∀ name ∈ bucket, IsBucketName name)
    (keyNamed : ∀ name ∈ segments key, IsBucketName name) :
    (∃ address added, StorageKey.address base bucket key = .ok address ∧
        Extends url added address ∧
        added.map (fun segment => Utf8.decode? (Percent.decode segment)) =
          (bucket.toList ++ segments key).map some) ∧
      ∀ other, (∀ name ∈ segments other, IsBucketName name) →
        (StorageKey.address base bucket key = StorageKey.address base bucket other ↔
          key = other) := by
  have isWeb := Url.isWeb_of_scheme parsed web
  have more (key : Text) : bucket.toList ++ segments key ≠ [] := by
    simp [segments, Text.splitAt_ne_nil]
  have named {key : Text} (keyNamed : ∀ name ∈ segments key, IsBucketName name) :
      ∀ name ∈ bucket.toList ++ segments key, IsBucketName name := by
    intro name member
    rcases List.mem_append.mp member with inBucket | inKey
    · exact bucketNamed name (Option.mem_toList.mp inBucket)
    · exact keyNamed name inKey
  have told := extends_toText parsed isWeb full (named keyNamed) (more key)
  have decoded {names : List Text} (named : ∀ name ∈ names, IsBucketName name) :
      (names.map written).map (fun segment => Utf8.decode? (Percent.decode segment)) =
        names.map some := by
    rw [List.map_map]
    apply List.map_congr_left
    intro name member
    exact (named name member).decode_written
  constructor
  · exact ⟨_, _, address_eq_ok parsed isWeb bucket key, told, decoded (named keyNamed)⟩
  · intro other otherNamed
    have otherTold := extends_toText parsed isWeb full (named otherNamed) (more other)
    rw [address_eq_ok parsed isWeb, address_eq_ok parsed isWeb, Except.ok.injEq]
    constructor
    · intro same
      rw [same] at told
      have added := List.append_cancel_left (told.segments.symm.trans otherTold.segments)
      have names := congrArg (List.map fun segment => Utf8.decode? (Percent.decode segment)) added
      rw [decoded (named keyNamed), decoded (named otherNamed),
        (List.map_injective_iff.mpr (Option.some_injective Text)).eq_iff] at names
      exact segments_inj.mp (List.append_cancel_left names)
    · rintro rfl
      rfl

end StorageKey

namespace StorageKey

/-- The tables of international names, as far as one of the names needs them. -/
@[reducible]
def bookNames : DomainNames where
  toAscii? name :=
    if name = "bücher.example".toList then some "xn--bcher-kva.example".toList else none

/-- A base with an international name, a path that ends in a separator, a query and a fragment. -/
def store : Url :=
  ⟨"https".toList, some ⟨[], [], "xn--bcher-kva.example".toList, none⟩, "/store/".toList,
    some "v=1".toList, some "top".toList⟩

/-- Marks in a key are part of its segments, and an encoded mark is another key. -/
theorem address_tells_key_store :
    letI := bookNames
    let base := "https://bücher.example/store/?v=1#top".toList
    let bucket := some "psets".toList
    (∃ address added, StorageKey.address base bucket "u 1/100%?#.pdf".toList = .ok address ∧
        Extends store added address ∧
        added.map (fun segment => Utf8.decode? (Percent.decode segment)) =
          [some "psets".toList, some "u 1".toList, some "100%?#.pdf".toList]) ∧
      StorageKey.address base bucket "u 1/100%?#.pdf".toList ≠
        StorageKey.address base bucket "u 1/100%25?#.pdf".toList := by
  intro base bucket
  let names := bookNames
  have parsed : Url.parse base = .ok store := by rfl
  have full : store.IsFull := by
    unfold Url.IsFull
    decide
  have told := address_tells_key parsed (.inr rfl) full
    (show ∀ name ∈ bucket, IsBucketName name by decide)
    (show ∀ name ∈ segments "u 1/100%?#.pdf".toList, IsBucketName name by decide)
  refine ⟨told.1, mt (told.2 _ ?_).mp ?_⟩
  · decide
  · decide

end StorageKey

end Typeset
