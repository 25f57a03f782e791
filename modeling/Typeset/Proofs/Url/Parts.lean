import Typeset.Proofs.Text.Splitting
import Typeset.Proofs.Url.Address

/-!
# Written web addresses

A web address is written part after part, and each part ends at the first mark that it cannot hold.
So a written address gives back the parts that it has been made of, and two addresses that are
written alike have the same parts.
-/

namespace Typeset

namespace Url

/-- The query and the fragment as they are written. -/
def writtenTail (url : Url) : Text :=
  url.query.elim [] ('?' :: ·) ++ url.fragment.elim [] ('#' :: ·)

theorem toText_of_authority {url : Url} {authority : Authority}
    (isAuthority : url.authority = some authority) :
    url.toText = url.scheme ++ ':' :: '/' :: '/' :: (authority.toText ++
      (url.path ++ url.writtenTail)) := by
  cases query : url.query <;> cases fragment : url.fragment <;>
    simp [toText, writtenTail, isAuthority, query, fragment]

theorem endsPath_head?_writtenTail (url : Url) :
    ∀ char ∈ url.writtenTail.head?, endsPath char = true := by
  unfold writtenTail
  cases url.query <;> cases url.fragment <;> simp [endsPath]

/-- What comes after the scheme and the two slashes in a written address. -/
def afterScheme (address : Text) : Text :=
  (address.dropWhile (· != ':')).drop 3

/-- The scheme ends at the first colon. -/
theorem IsWeb.span_scheme {url : Url} (web : url.IsWeb) (rest : Text) :
    (url.scheme ++ ':' :: rest).takeWhile (· != ':') = url.scheme ∧
      (url.scheme ++ ':' :: rest).dropWhile (· != ':') = ':' :: rest := by
  apply Text.span_append
  · intro char member
    exact bne_iff_ne.mpr (ne_of_mem_of_not_mem member (colon_not_mem_of_web web.kind))
  · simp

theorem IsWeb.afterScheme_toText {url : Url} (web : url.IsWeb) {authority : Authority}
    (isAuthority : url.authority = some authority) :
    afterScheme url.toText = authority.toText ++ (url.path ++ url.writtenTail) := by
  rw [afterScheme, toText_of_authority isAuthority, (web.span_scheme _).2]
  rfl

/-- The authority ends where the path begins. -/
theorem IsWeb.span_authority {url : Url} (web : url.IsWeb) {authority : Authority}
    (isAuthority : url.authority = some authority) :
    (authority.toText ++ (url.path ++ url.writtenTail)).takeWhile (!isMark ·) =
        authority.toText ∧
      (authority.toText ++ (url.path ++ url.writtenTail)).dropWhile (!isMark ·) =
        url.path ++ url.writtenTail := by
  rcases web.authority with ⟨other, isOther, unmarked⟩
  obtain rfl : authority = other := Option.some.inj (isAuthority.symm.trans isOther)
  apply Text.span_append
  · simpa [IsUnmarked] using unmarked
  · simp [web.path.head, isMark]

/-- The path ends where the query or the fragment begins. -/
theorem IsWeb.span_path {url : Url} (web : url.IsWeb) :
    (url.path ++ url.writtenTail).takeWhile (!endsPath ·) = url.path ∧
      (url.path ++ url.writtenTail).dropWhile (!endsPath ·) = url.writtenTail := by
  apply Text.span_append
  · simpa using web.path.unended
  · simpa using url.endsPath_head?_writtenTail

/-- The path in a written URL with an authority. -/
def pathOf (address : Text) : Text :=
  (((address.dropWhile (· != ':')).drop 3).dropWhile (!isMark ·)).takeWhile (!endsPath ·)

/-- The path of a web address stands in the written address. -/
theorem IsWeb.pathOf_toText {url : Url} (web : url.IsWeb) : pathOf url.toText = url.path := by
  rcases web.authority with ⟨authority, isAuthority, _⟩
  change ((afterScheme url.toText).dropWhile (!isMark ·)).takeWhile (!endsPath ·) = url.path
  rw [web.afterScheme_toText isAuthority, (web.span_authority isAuthority).2, web.span_path.1]

/-- The parts of a written address that has an authority. -/
structure Parts where
  scheme : Text
  authority : Text
  path : Text
  query : Option Text
  fragment : Option Text
  deriving DecidableEq, Repr

/-- The parts that marks separate: a colon comes after the scheme and two slashes before the
authority, the path begins with a slash, the query with a question mark and the fragment with a
hash. -/
def partsOf (address : Text) : Parts :=
  let afterAuthority := (afterScheme address).dropWhile (!isMark ·)
  let afterPath := afterAuthority.dropWhile (!endsPath ·)
  { scheme := address.takeWhile (· != ':')
    authority := (afterScheme address).takeWhile (!isMark ·)
    path := pathOf address
    query := if afterPath.head? = some '?' then some ((afterPath.drop 1).takeWhile (· != '#'))
      else none
    fragment := if '#' ∈ afterPath then some ((afterPath.dropWhile (· != '#')).drop 1) else none }

theorem query_of_writtenTail {url : Url} (plain : ∀ query ∈ url.query, '#' ∉ query) :
    (if url.writtenTail.head? = some '?' then
      some ((url.writtenTail.drop 1).takeWhile (· != '#')) else none) = url.query := by
  unfold writtenTail
  cases written : url.query with
  | none => cases url.fragment <;> simp
  | some query =>
      have passed : ∀ char ∈ query, (char != '#') = true := by
        intro char member
        exact bne_iff_ne.mpr (ne_of_mem_of_not_mem member (plain query written))
      cases url.fragment with
      | none => simp [List.takeWhile_eq_self_iff.mpr passed]
      | some fragment => simp [List.takeWhile_append_of_pos passed]

theorem fragment_of_writtenTail {url : Url} (plain : ∀ query ∈ url.query, '#' ∉ query) :
    (if '#' ∈ url.writtenTail then
      some ((url.writtenTail.dropWhile (· != '#')).drop 1) else none) = url.fragment := by
  have passed : ∀ char ∈ url.query.elim [] ('?' :: ·), (char != '#') = true := by
    intro char member
    cases written : url.query with
    | none => simp [written] at member
    | some query =>
        simp only [written, Option.elim_some, List.mem_cons] at member
        rcases member with rfl | inside
        · rfl
        · exact bne_iff_ne.mpr (ne_of_mem_of_not_mem inside (plain query written))
  have absent : '#' ∉ url.query.elim [] ('?' :: ·) := by
    intro member
    simpa using passed '#' member
  unfold writtenTail
  simp only [List.dropWhile_append_of_pos passed, List.mem_append]
  cases url.fragment with
  | none => simp [absent]
  | some fragment => simp

/-- A web address whose query holds no hash is written with its parts. -/
theorem IsWeb.partsOf_toText {url : Url} (web : url.IsWeb) {authority : Authority}
    (isAuthority : url.authority = some authority) (plain : ∀ query ∈ url.query, '#' ∉ query) :
    partsOf url.toText =
      ⟨url.scheme, authority.toText, url.path, url.query, url.fragment⟩ := by
  have isScheme : url.toText.takeWhile (· != ':') = url.scheme := by
    rw [toText_of_authority isAuthority]
    exact (web.span_scheme _).1
  rcases web.span_authority isAuthority with ⟨authorityEnds, pathBegins⟩
  have tailBegins := web.span_path.2
  simp only [partsOf, isScheme, web.afterScheme_toText isAuthority, authorityEnds, pathBegins,
    web.pathOf_toText, tailBegins, query_of_writtenTail plain, fragment_of_writtenTail plain]

end Url

end Typeset
