import Mathlib.Data.List.TakeWhile
import Typeset.Proofs.Steps
import Typeset.Proofs.Url.Segments
import Typeset.Url.Basic

/-!
# Web addresses

Slashes, question marks and hashes tell where the parts of a written URL end.  The authority of a
web address that has been read holds none of them, its path no question mark and no hash, and its
query no hash.
-/

namespace Typeset

namespace Url

/-- Whether a character ends the authority of a written URL. -/
def isMark (char : Char) : Bool :=
  char == '/' || char == '?' || char == '#'

/-- Whether a character ends the path of a written URL. -/
def endsPath (char : Char) : Bool :=
  char == '?' || char == '#'

/-- A text without marks. -/
def IsUnmarked (text : Text) : Prop :=
  ∀ char ∈ text, isMark char = false

theorem isMark_eq_true_iff {char : Char} :
    isMark char = true ↔ char = '/' ∨ char = '?' ∨ char = '#' := by
  simp [isMark, or_assoc]

theorem isMark_of_isAlphanum {char : Char} (alphanumeric : char.isAlphanum = true) :
    isMark char = false := by
  rw [← Bool.not_eq_true, isMark_eq_true_iff]
  rintro (rfl | rfl | rfl) <;> cases alphanumeric

theorem isUnmarked_nil : IsUnmarked [] :=
  List.forall_mem_nil _

theorem isUnmarked_append {first second : Text} (isFirst : IsUnmarked first)
    (isSecond : IsUnmarked second) : IsUnmarked (first ++ second) :=
  fun char member => (List.mem_append.mp member).elim (isFirst char) (isSecond char)

theorem isUnmarked_cons {char : Char} {text : Text} (isChar : isMark char = false)
    (isText : IsUnmarked text) : IsUnmarked (char :: text) :=
  List.forall_mem_cons.mpr ⟨isChar, isText⟩

theorem isUnmarked_singleton {char : Char} (isChar : isMark char = false) : IsUnmarked [char] :=
  isUnmarked_cons isChar isUnmarked_nil

theorem isUnmarked_joined {separator : Text} {parts : List Text}
    (isSeparator : IsUnmarked separator) (areParts : ∀ part ∈ parts, IsUnmarked part) :
    IsUnmarked (Text.joined separator parts) := by
  induction parts with
  | nil => exact isUnmarked_nil
  | cons part parts ih =>
      rw [List.forall_mem_cons] at areParts
      cases parts with
      | nil => exact areParts.1
      | cons second parts =>
          rw [Text.joined_cons_of_ne_nil separator part (List.cons_ne_nil second parts)]
          exact isUnmarked_append (isUnmarked_append areParts.1 isSeparator) (ih areParts.2)

theorem isUnmarked_toDigits {base : Nat} (many : 1 < base) (few : base ≤ 16) (number : Nat) :
    IsUnmarked (Nat.toDigits base number) := by
  have digits : ∀ digit < 16, isMark (Nat.digitChar digit) = false := by decide
  induction number using Nat.strongRecOn with
  | ind number ih =>
      by_cases small : number < base
      · rw [Nat.toDigits_of_lt_base small]
        exact List.forall_mem_singleton.mpr (digits number (by omega))
      · have below : number % base < base := Nat.mod_lt _ (by omega)
        rw [Nat.toDigits_of_base_le many (by omega)]
        exact isUnmarked_append (ih _ (Nat.div_lt_self (by omega) many))
          (List.forall_mem_singleton.mpr (digits _ (by omega)))

theorem isUnmarked_encode (text : Text) : IsUnmarked (Percent.encode Percent.user text) := by
  intro char member
  rcases Percent.mem_encode member with rfl | alphanumeric | ⟨_, _, free⟩
  · rfl
  · exact isMark_of_isAlphanum alphanumeric
  · rw [← Bool.not_eq_true, isMark_eq_true_iff]
    rintro (rfl | rfl | rfl) <;> exact free (by decide)

theorem isUnmarked_ipv4Text (address : Nat) : IsUnmarked (Host.ipv4Text address) := by
  refine isUnmarked_joined (isUnmarked_singleton rfl) fun part member => ?_
  rcases List.mem_map.mp member with ⟨place, _, rfl⟩
  exact isUnmarked_toDigits (by decide) (by decide) _

theorem isUnmarked_ipv6Text (pieces : List Nat) : IsUnmarked (Host.ipv6Text pieces) := by
  have written (some : List Nat) :
      IsUnmarked (Text.joined [':'] (some.map (Nat.toDigits 16))) := by
    refine isUnmarked_joined (isUnmarked_singleton rfl) fun part member => ?_
    rcases List.mem_map.mp member with ⟨piece, _, rfl⟩
    exact isUnmarked_toDigits (by decide) (by decide) piece
  unfold Host.ipv6Text
  refine isUnmarked_append (isUnmarked_cons rfl ?_) (isUnmarked_singleton rfl)
  split
  · exact written _
  · exact isUnmarked_append
      (isUnmarked_append (written _) (isUnmarked_cons rfl (isUnmarked_singleton rfl))) (written _)

theorem isUnmarked_of_domain? [DomainNames] {name domain : Text}
    (written : Host.domain? name = some domain) : IsUnmarked domain := by
  have allowed := (Option.filter_eq_some_iff.mp written).2
  rw [Bool.not_eq_true', ← Bool.not_eq_true] at allowed
  intro char member
  rw [← Bool.not_eq_true, isMark_eq_true_iff]
  intro mark
  refine allowed (List.any_eq_true.mpr ⟨char, member, ?_⟩)
  rcases mark with rfl | rfl | rfl <;> decide

theorem isUnmarked_of_web [DomainNames] {text host : Text} (done : Host.web text = .ok host) :
    IsUnmarked host := by
  unfold Host.web at done
  split at done
  · unfold Host.bracketed at done
    split at done
    · cases done
    · split at done
      · cases done
        exact isUnmarked_ipv6Text _
      · cases done
  · split at done
    · cases done
    · rename_i domain written
      rcases Option.bind_eq_some_iff.mp written with ⟨name, _, isDomain⟩
      split at done
      · cases done
      · split at done
        · split at done
          · cases done
            exact isUnmarked_ipv4Text _
          · cases done
        · cases done
          exact isUnmarked_of_domain? isDomain

theorem isUnmarked_authority {authority : Authority} (user : IsUnmarked authority.user)
    (password : IsUnmarked authority.password) (host : IsUnmarked authority.host) :
    IsUnmarked authority.toText := by
  have ofPassword : IsUnmarked
      (if authority.password.isEmpty then [] else ':' :: authority.password) := by
    split
    · exact isUnmarked_nil
    · exact isUnmarked_cons rfl password
  unfold Authority.toText
  refine isUnmarked_append (isUnmarked_append ?_ host) ?_
  · generalize (if authority.password.isEmpty then [] else ':' :: authority.password) = text at *
    split
    · exact isUnmarked_nil
    · exact isUnmarked_append (isUnmarked_append user ofPassword) (isUnmarked_singleton rfl)
  · split
    · exact isUnmarked_cons rfl (isUnmarked_toDigits (by decide) (by decide) _)
    · exact isUnmarked_nil

theorem isUnmarked_of_read [DomainNames] {scheme text rest : Text} {authority : Authority}
    (done : Authority.read scheme .web text = .ok (authority, rest)) :
    IsUnmarked authority.toText := by
  unfold Authority.read at done
  simp only [if_true] at done
  rcases exists_ok_of_guard done with ⟨_, done⟩
  rcases exists_ok_of_guard done with ⟨_, done⟩
  rcases exists_ok_of_bind_eq_ok done with ⟨host, isHost, done⟩
  rcases exists_ok_of_guard done with ⟨_, done⟩
  rcases exists_ok_of_bind_eq_ok done with ⟨port, _, done⟩
  rcases exists_ok_of_guard done with ⟨_, done⟩
  cases done
  exact isUnmarked_authority (isUnmarked_encode _) (isUnmarked_encode _) (isUnmarked_of_web isHost)

/-- A path that starts with a separator and ends where the query begins. -/
structure IsPath (path : Text) : Prop where
  head : path.head? = some '/'
  unended : ∀ char ∈ path, endsPath char = false

theorem IsPath.of_prefix {path shorter : Text} (isPath : IsPath path) (start : shorter <+: path)
    (some : shorter ≠ []) : IsPath shorter where
  head := by
    rcases List.exists_cons_of_ne_nil some with ⟨first, rest, rfl⟩
    rcases start with ⟨more, rfl⟩
    exact isPath.head
  unended := fun char member => isPath.unended char (start.subset member)

theorem IsPath.append {path more : Text} (isPath : IsPath path)
    (unended : ∀ char ∈ more, endsPath char = false) : IsPath (path ++ more) where
  head := by
    rw [List.head?_append, isPath.head, Option.some_or]
  unended := fun char member =>
    (List.mem_append.mp member).elim (isPath.unended char) (unended char)

theorem IsPath.dropSlash {path : Text} (isPath : IsPath path) :
    IsPath (UrlPath.dropSlash path) := by
  unfold UrlPath.dropSlash
  dsimp only
  split
  · rename_i shorter
    refine isPath.of_prefix (List.dropLast_prefix path) ?_
    intro empty
    rw [empty] at shorter
    simp at shorter
  · exact isPath

theorem IsPath.dropLastSegment {path : Text} (isPath : IsPath path) :
    IsPath (UrlPath.dropLastSegment path) := by
  have separator : '/' ∈ path := List.mem_of_mem_head? isPath.head
  refine isPath.of_prefix ?_ ?_
  · rw [UrlPath.dropLastSegment, ← List.reverse_suffix, List.reverse_reverse]
    exact List.dropWhile_suffix _
  · rw [UrlPath.dropLastSegment, Ne, List.reverse_eq_nil_iff, List.dropWhile_eq_nil_iff]
    intro none
    simpa using none '/' (List.mem_reverse.mpr separator)

theorem IsPath.withSlash {path : Text} (isPath : IsPath path) :
    IsPath (UrlPath.withSlash path) := by
  unfold UrlPath.withSlash
  split
  · exact isPath
  · exact isPath.append (List.forall_mem_singleton.mpr rfl)

theorem IsPath.close {path segment : Text} (isPath : IsPath path)
    (unended : ∀ char ∈ segment, endsPath char = false) (isSeparated : Bool) :
    IsPath (UrlPath.close .web path segment isSeparated) := by
  unfold UrlPath.close
  split
  · have shorter : IsPath (UrlPath.shorten .web (UrlPath.dropSlash path)) :=
      isPath.dropSlash.dropLastSegment
    dsimp only
    split
    · exact shorter.withSlash
    · exact shorter
  · split
    · exact isPath.withSlash
    · refine (isPath.append unended).append ?_
      split
      · exact List.forall_mem_singleton.mpr rfl
      · exact List.forall_mem_nil _

theorem unended_encodeChar {char : Char} (goesOn : endsPath char = false) :
    ∀ part ∈ Percent.encodeChar Percent.path char, endsPath part = false := by
  intro part member
  have encoded : part ∈ Percent.encode Percent.path [char] := by
    simpa [Percent.encode] using member
  rcases Percent.mem_encode encoded with rfl | alphanumeric | ⟨same, _, _⟩
  · rfl
  · have free := isMark_of_isAlphanum alphanumeric
    simp only [isMark, Bool.or_eq_false_iff] at free
    simp [endsPath, free]
  · rwa [List.mem_singleton.mp same]

theorem isPath_readFrom (text : Text) {path segment : Text} (isPath : IsPath path)
    (unended : ∀ char ∈ segment, endsPath char = false) :
    IsPath (UrlPath.readFrom .web path segment text).1 := by
  induction text generalizing path segment with
  | nil => exact isPath.close unended false
  | cons char rest ih =>
      rw [UrlPath.readFrom]
      split
      · exact ih (isPath.close unended true) (by simp)
      · split
        · exact isPath.close unended false
        · rename_i goesOn
          refine ih isPath fun part member => ?_
          rcases List.mem_append.mp member with earlier | now
          · exact unended part earlier
          · refine unended_encodeChar ?_ part now
            simpa [endsPath] using goesOn

/-- A web address as reading leaves it. -/
structure IsWeb (url : Url) : Prop where
  kind : SchemeKind.ofScheme url.scheme = .web
  authority : ∃ authority, url.authority = some authority ∧ IsUnmarked authority.toText
  path : IsPath url.path

theorem scheme_of_readFile [DomainNames] {scheme text : Text} {url : Url}
    (done : readFile scheme text = .ok url) : url.scheme = scheme := by
  unfold readFile at done
  dsimp only at done
  split at done
  · split at done
    · split at done
      · cases done
        rfl
      · split at done
        · cases done
          rfl
        · rcases exists_ok_of_bind_eq_ok done with ⟨host, _, done⟩
          split at done <;> split at done <;> cases done <;> rfl
    · cases done
      rfl
  · cases done
    rfl

theorem scheme_of_afterSlashes [DomainNames] {scheme text : Text} {kind : SchemeKind} {url : Url}
    (done : afterSlashes scheme kind text = .ok url) : url.scheme = scheme := by
  unfold afterSlashes at done
  rcases exists_ok_of_bind_eq_ok done with ⟨⟨authority, rest⟩, _, done⟩
  dsimp only at done
  split at done
  · cases done
    rfl
  · split at done
    · cases done
      rfl
    · split at done <;> cases done <;> rfl

theorem scheme_of_readOther [DomainNames] {scheme text : Text} {url : Url}
    (done : readOther scheme text = .ok url) : url.scheme = scheme := by
  unfold readOther at done
  split at done
  · exact scheme_of_afterSlashes done
  · cases done
    rfl
  · cases done
    rfl

/-- What has been read as a web address has an authority, and a path that comes after it. -/
theorem exists_withPath_of_parse [DomainNames] {text : Text} {url : Url}
    (parsed : parse text = .ok url) (web : SchemeKind.ofScheme url.scheme = .web) :
    ∃ written authority rest after,
      Authority.read url.scheme .web written = .ok (authority, rest) ∧
      url = withPath url.scheme .web (some authority) ['/'] after := by
  unfold parse at parsed
  split at parsed
  · cases parsed
  · split at parsed
    · unfold afterSlashes at parsed
      rcases exists_ok_of_bind_eq_ok parsed with ⟨⟨authority, rest⟩, read, parsed⟩
      cases parsed
      exact ⟨_, authority, rest, _, read, rfl⟩
    · rename_i kind
      rw [scheme_of_readFile parsed, kind] at web
      cases web
    · rename_i kind
      rw [scheme_of_readOther parsed, kind] at web
      cases web

/-- What has been read as a web address is one. -/
theorem isWeb_of_parse [DomainNames] {text : Text} {url : Url} (parsed : parse text = .ok url)
    (web : SchemeKind.ofScheme url.scheme = .web) : url.IsWeb := by
  rcases exists_withPath_of_parse parsed web with ⟨written, authority, rest, after, read, made⟩
  refine ⟨web, ⟨authority, by rw [made]; rfl, isUnmarked_of_read read⟩, ?_⟩
  rw [made]
  exact isPath_readFrom _ ⟨rfl, List.forall_mem_singleton.mpr rfl⟩ (List.forall_mem_nil _)

/-- A query that has been read holds no hash, since the first hash begins the fragment. -/
theorem hash_not_mem_query_of_parse [DomainNames] {text : Text} {url : Url}
    (parsed : parse text = .ok url) (web : SchemeKind.ofScheme url.scheme = .web) :
    ∀ query ∈ url.query, '#' ∉ query := by
  rcases exists_withPath_of_parse parsed web with ⟨written, authority, rest, after, read, made⟩
  intro query isQuery
  rw [made] at isQuery
  rcases Option.map_eq_some_iff.mp isQuery with ⟨first, _, rfl⟩
  intro member
  rcases Percent.mem_encode member with isPercent | alphanumeric | ⟨inside, _, _⟩
  · revert isPercent
    decide
  · revert alphanumeric
    decide
  · have passed := List.all_eq_true.mp List.all_takeWhile '#' (List.mem_of_mem_drop inside)
    revert passed
    decide

theorem colon_not_mem_of_web {scheme : Text} (web : SchemeKind.ofScheme scheme = .web) :
    ':' ∉ scheme := by
  unfold SchemeKind.ofScheme at web
  split at web
  · rename_i known
    rcases List.any_eq_true.mp known with ⟨name, member, same⟩
    rw [beq_iff_eq] at same
    have names : ∀ name ∈ ["http", "https", "ws", "wss", "ftp"], ':' ∉ name.toList := by decide
    rw [← same]
    exact names name member
  · split at web <;> cases web

end Url

end Typeset
