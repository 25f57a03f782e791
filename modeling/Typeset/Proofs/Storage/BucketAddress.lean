import Typeset.Libraries
import Typeset.Proofs.Storage.KeyAddress
import Typeset.Proofs.Storage.Keys
import Typeset.Storage.Http

/-!
# Addresses in a bucket

Where the request for an accepted job goes.  The names of the job have been checked for separators
and for two dots in a row, but a URL leaves out tabs and line breaks wherever they stand, so an
address tells only what is kept of the names, and an owner of whom two dots are kept leads out of
the bucket.
-/

namespace Typeset

open UrlPath

/-- Whether a path goes on below another one, by segments that are all really there. -/
def UrlPath.IsBelow (path base : Text) : Prop :=
  ∃ segments, segments ≠ [] ∧
    (∀ segment ∈ segments, segment ≠ [] ∧ '/' ∉ segment ∧ isSingleDot segment = false ∧
      isDoubleDot segment = false) ∧
    path = base ++ rooted segments

theorem UrlPath.isIgnored_of_not_isBlank {char : Char} (visible : isBlank char = false) :
    isIgnored char = false := by
  rw [← Bool.not_eq_true, isIgnored]
  intro ignored
  simp only [Bool.or_eq_true, beq_iff_eq] at ignored
  rcases ignored with (rfl | rfl) | rfl <;> revert visible <;> decide

theorem UrlPath.kept_ne_nil {name : Text} (trimmed : name.IsTrimmed) : kept name ≠ [] := by
  rcases List.exists_cons_of_ne_nil trimmed.ne_nil with ⟨first, rest, rfl⟩
  have isKept : isIgnored first = false := isIgnored_of_not_isBlank (trimmed.head first rfl)
  simp [kept, isKept]

/-- Only one dot is a name of which one dot is kept, because the last character is kept as well. -/
theorem UrlPath.kept_eq_dot_iff {name : Text} (trimmed : name.IsTrimmed) :
    kept name = ['.'] ↔ name = ['.'] := by
  constructor
  · intro dot
    rcases List.exists_cons_of_ne_nil trimmed.ne_nil with ⟨first, rest, rfl⟩
    have isKept : isIgnored first = false := isIgnored_of_not_isBlank (trimmed.head first rfl)
    have split : kept (first :: rest) = first :: kept rest := by simp [kept, isKept]
    rw [split, List.cons.injEq] at dot
    rcases dot with ⟨rfl, none⟩
    rcases List.eq_nil_or_concat' rest with rfl | ⟨between, last, rfl⟩
    · rfl
    · have visible := trimmed.last last (by rw [← List.cons_append, List.getLast?_concat]; rfl)
      have isLast := List.filter_eq_nil_iff.mp none last (by simp)
      simp [isIgnored_of_not_isBlank visible] at isLast
  · rintro rfl
    rfl

theorem DocumentJob.kept_storedName (job : DocumentJob) :
    kept job.storedName = kept job.fileName ++ '.' :: job.format.extension := by
  have extension : kept ('.' :: job.format.extension) = '.' :: job.format.extension := by
    cases job.format <;> decide
  rw [storedName, kept, List.filter_append]
  exact congrArg (kept job.fileName ++ ·) extension

/-- What is kept of the name of a stored file tells what is kept of the name of the document and in
which format it is. -/
theorem DocumentJob.kept_storedName_inj {first second : DocumentJob} :
    kept first.storedName = kept second.storedName ↔
      kept first.fileName = kept second.fileName ∧ first.format = second.format := by
  rw [kept_storedName, kept_storedName, append_extension_inj]

namespace HttpStorage

/-- A storage whose endpoint is a web address without empty segments, and whose bucket is a segment.
A web address always has a host. -/
structure IsAddressed [DomainNames] (storage : HttpStorage) (endpoint : Url) : Prop where
  parsed : Url.parse storage.endpoint = .ok endpoint
  web : isWebAddress endpoint = true
  full : endpoint.IsFull
  bucket : IsBucketName storage.bucket

/-- The path of the endpoint, followed by the bucket. -/
def bucketPath (storage : HttpStorage) (endpoint : Url) : Text :=
  StorageKey.trimBase endpoint.path ++ '/' :: Percent.encode Percent.webSegment storage.bucket

/-- The segments that the address of a job has after those of its endpoint, which is `isTop` if it
has none.  An owner that is a dot is left out, and one of whom two dots are kept takes back the
bucket. -/
def objectSegments (isTop : Bool) (bucket : Text) (job : DocumentJob) : List Text :=
  if job.owner = ['.'] then [bucket, written job.storedName]
  else if kept job.owner = ['.', '.'] then
    if isDrive bucket then [bucket, [], written job.storedName]
    else if isTop then [written job.storedName]
    else [[], written job.storedName]
  else [bucket, written job.owner, written job.storedName]

variable {isTop : Bool} {bucket : Text} {first second job : DocumentJob}

theorem kept_storedName_ne_dots (job : DocumentJob) :
    kept job.storedName ≠ ['.'] ∧ kept job.storedName ≠ ['.', '.'] := by
  rw [DocumentJob.kept_storedName]
  exact append_extension_ne_dots _ job.format

theorem push_storedName {segments : List Text} (real : segments ≠ [[]]) (job : DocumentJob) :
    push .web (ofSegments segments) job.storedName =
      rooted (segments ++ [written job.storedName]) := by
  rcases kept_storedName_ne_dots job with ⟨one, two⟩
  rw [push_ofSegments_of_proper real one two, ofSegments_of_ne_nil (by simp)]

/-- After an owner of whom two dots are kept, a file is stored where the bucket was, or below an
empty segment. -/
theorem push_push_of_doubleDot {endpoint : List Text} (real : endpoint ++ [written bucket] ≠ [[]])
    (raw : job.owner ≠ ['.', '.']) (dots : kept job.owner = ['.', '.']) :
    push .web (push .web (ofSegments (endpoint ++ [written bucket])) job.owner) job.storedName =
      rooted (endpoint ++
        if isDrive (written bucket) then [written bucket, [], written job.storedName]
        else if endpoint.isEmpty then [written job.storedName]
        else [[], written job.storedName]) := by
  rw [push_ofSegments_of_doubleDot real (slash_not_mem_written bucket) raw dots]
  cases isDrive (written bucket) with
  | true =>
      rw [if_pos rfl, if_pos rfl, ← ofSegments_append_nil,
        push_storedName (append_singleton_ne (by simp) _)]
      simp
  | false =>
      rw [if_neg Bool.false_ne_true, if_neg Bool.false_ne_true]
      cases endpoint with
      | nil =>
          have top : rooted [] ++ ['/'] = ofSegments [] := rfl
          rw [top, push_storedName (List.cons_ne_nil _ _).symm]
          rfl
      | cons segment endpoint =>
          rw [← ofSegments_append_nil,
            push_storedName (append_singleton_ne (List.cons_ne_nil _ _) _)]
          simp

theorem pushAll_ofSegments {endpoint : List Text} (real : endpoint ≠ [[]])
    (named : IsBucketName bucket) (owned : IsName job.owner) :
    pushAll .web (ofSegments endpoint) [bucket, job.owner, job.storedName] =
      rooted (endpoint ++ objectSegments endpoint.isEmpty (written bucket) job) := by
  have isKept := named.kept_eq
  have bucketPushed : push .web (ofSegments endpoint) bucket =
      ofSegments (endpoint ++ [written bucket]) :=
    push_ofSegments_of_proper real (by rw [isKept]; exact named.one)
      (by rw [isKept]; exact named.two)
  have realBucket : endpoint ++ [written bucket] ≠ [[]] := by
    cases endpoint with
    | nil => simpa [isKept] using named.ne_nil
    | cons segment endpoint => exact append_singleton_ne (List.cons_ne_nil _ _) _
  simp only [pushAll, List.foldl_cons, List.foldl_nil, bucketPushed, objectSegments]
  by_cases dot : job.owner = ['.']
  · rw [if_pos dot, push_of_isDots (.inl dot), push_storedName realBucket, List.append_assoc]
    rfl
  · rw [if_neg dot]
    by_cases dots : kept job.owner = ['.', '.']
    · rw [if_pos dots, push_push_of_doubleDot realBucket owned.ne_dots dots]
    · rw [if_neg dots, push_ofSegments_of_proper realBucket
        (mt (kept_eq_dot_iff owned.trimmed).mp dot) dots,
        push_storedName (append_singleton_ne (by simp) _)]
      simp

theorem forall_mem_objectSegments {Proper : Text → Prop} (ofBucket : Proper bucket)
    (ofNil : Proper []) (ofWritten : ∀ name, Proper (written name)) :
    ∀ segment ∈ objectSegments isTop bucket job, Proper segment := by
  unfold objectSegments
  split_ifs <;> simp [*]

theorem objectSegments_ne_nil : objectSegments isTop bucket job ≠ [] := by
  unfold objectSegments
  split_ifs <;> simp

theorem slash_not_mem_objectSegments (plain : '/' ∉ bucket) :
    ∀ segment ∈ objectSegments isTop bucket job, '/' ∉ segment :=
  forall_mem_objectSegments plain (by simp) slash_not_mem_written

/-- The segments of an address tell what is kept of the names, and the format.  With another owner
they differ in number, or in the segment for the owner, which is never empty. -/
theorem objectSegments_inj (left : bucket ≠ []) (firstOwner : first.owner.IsTrimmed)
    (secondOwner : second.owner.IsTrimmed) :
    objectSegments isTop bucket first = objectSegments isTop bucket second ↔
      kept first.owner = kept second.owner ∧ kept first.fileName = kept second.fileName ∧
        first.format = second.format := by
  rw [← DocumentJob.kept_storedName_inj]
  have firstDot := kept_eq_dot_iff firstOwner
  have secondDot := kept_eq_dot_iff secondOwner
  have firstLeft := kept_ne_nil firstOwner
  have secondLeft := kept_ne_nil secondOwner
  by_cases same : kept first.owner = kept second.owner
  · have dot : first.owner = ['.'] ↔ second.owner = ['.'] := by rw [← firstDot, same, secondDot]
    simp only [objectSegments, dot, same, written_inj.mpr same, true_and]
    split_ifs <;> simp
  · simp only [same, false_and, iff_false]
    unfold objectSegments
    split_ifs <;> simp_all

/-- The address of a job is in its bucket unless two dots are kept of the owner. -/
theorem isBelow_rooted_iff {endpoint : List Text} (proper : ∀ segment ∈ endpoint, '/' ∉ segment)
    (left : bucket ≠ []) (plain : '/' ∉ bucket) (owned : job.owner.IsTrimmed) :
    IsBelow (rooted (endpoint ++ objectSegments isTop bucket job))
        (rooted endpoint ++ '/' :: bucket) ↔
      kept job.owner ≠ ['.', '.'] := by
  rcases kept_storedName_ne_dots job with ⟨one, two⟩
  have isStored : written job.storedName ≠ [] ∧ '/' ∉ written job.storedName ∧
      isSingleDot (written job.storedName) = false ∧
      isDoubleDot (written job.storedName) = false := by
    refine ⟨?_, slash_not_mem_written _,
      Bool.eq_false_iff.mpr (mt isSingleDot_written_iff.mp one),
      Bool.eq_false_iff.mpr (mt isDoubleDot_written_iff.mp two)⟩
    rw [Ne, written_eq_nil_iff, DocumentJob.kept_storedName]
    simp
  constructor
  · rintro ⟨segments, more, real, same⟩ dots
    have parts : endpoint ++ objectSegments isTop bucket job = endpoint ++ bucket :: segments := by
      apply eq_of_rooted_eq
      · exact List.forall_mem_append.mpr ⟨proper, slash_not_mem_objectSegments plain⟩
      · exact List.forall_mem_append.mpr ⟨proper, List.forall_mem_cons.mpr
          ⟨plain, fun segment member => (real segment member).2.1⟩⟩
      · rw [same]
        simp
    have dot : job.owner ≠ ['.'] := by
      rw [Ne, ← kept_eq_dot_iff owned, dots]
      decide
    have tail := List.append_cancel_left parts
    rw [objectSegments, if_neg dot, if_pos dots] at tail
    split_ifs at tail
    · cases tail
      exact (real [] (List.mem_cons_self ..)).1 rfl
    · cases tail
      exact more rfl
    · cases tail
      exact left rfl
  · intro dots
    by_cases dot : job.owner = ['.']
    · refine ⟨[written job.storedName], by simp, by simpa using isStored, ?_⟩
      simp [objectSegments, dot]
    · have isOwner : written job.owner ≠ [] ∧ '/' ∉ written job.owner ∧
          isSingleDot (written job.owner) = false ∧ isDoubleDot (written job.owner) = false := by
        refine ⟨?_, slash_not_mem_written _, ?_,
          Bool.eq_false_iff.mpr (mt isDoubleDot_written_iff.mp dots)⟩
        · rw [Ne, written_eq_nil_iff]
          exact kept_ne_nil owned
        · rw [← Bool.not_eq_true, isSingleDot_written_iff, kept_eq_dot_iff owned]
          exact dot
      refine ⟨[written job.owner, written job.storedName], by simp, ?_, ?_⟩
      · rw [List.forall_mem_cons, List.forall_mem_singleton]
        exact ⟨isOwner, isStored⟩
      · simp [objectSegments, dot, dots]

theorem IsAddressed.isWeb [DomainNames] {storage : HttpStorage} {endpoint : Url}
    (addressed : storage.IsAddressed endpoint) : endpoint.IsWeb := by
  apply Url.isWeb_of_scheme addressed.parsed
  simpa [isWebAddress] using addressed.web

/-- The request for a job goes to the endpoint, with other segments in the path. -/
theorem IsAddressed.exists_objectUrl [DomainNames] {storage : HttpStorage} {endpoint : Url}
    (addressed : storage.IsAddressed endpoint) :
    ∃ segments, (∀ segment ∈ segments, '/' ∉ segment) ∧
      storage.bucketPath endpoint = rooted segments ++ '/' :: written storage.bucket ∧
      ∀ job : DocumentJob, IsName job.owner → IsName job.fileName →
        ∃ url : Url, storage.objectUrl job.storageKey = .ok url.toText ∧
          Url.pathOf url.toText = url.path ∧ url = { endpoint with path := url.path } ∧
          url.path = rooted (segments ++
            objectSegments segments.isEmpty (written storage.bucket) job) := by
  have web := addressed.isWeb
  rcases web.baseSegmentsOf_path addressed.full with ⟨proper, base, trimmed⟩
  have real := web.baseSegmentsOf_ne addressed.full
  generalize baseSegmentsOf endpoint.path = segments at proper base trimmed real
  refine ⟨segments, fun segment member => (proper segment member).2, ?_, ?_⟩
  · rw [bucketPath, trimmed, written, addressed.bucket.kept_eq]
  · intro job owned named
    have path : (endpoint.extend ([storage.bucket] ++ StorageKey.segments job.storageKey)).path =
        rooted (segments ++ objectSegments segments.isEmpty (written storage.bucket) job) := by
      rw [DocumentJob.segments_storageKey owned named, Url.extend, web.kind, base]
      exact pushAll_ofSegments real addressed.bucket owned
    refine ⟨endpoint.extend ([storage.bucket] ++ StorageKey.segments job.storageKey),
      StorageKey.address_eq_ok addressed.parsed web _ _, ?_, rfl, path⟩
    have extended : endpoint.extend ([storage.bucket] ++ StorageKey.segments job.storageKey) =
        { endpoint with path := rooted (segments ++
            objectSegments segments.isEmpty (written storage.bucket) job) } := by
      rw [← path]
      rfl
    apply Url.IsWeb.pathOf_toText
    rw [extended]
    exact web.withRooted trimmed objectSegments_ne_nil
      (forall_mem_objectSegments (unended_written _) (by simp) unended_written)

/-- Accepted jobs go to addresses below the bucket, and two of them to the same address only if what
is kept of their names is the same, and their formats are. -/
theorem objectUrl_of_accepted [DomainNames] [Pattern.Sizes] {storage : HttpStorage} {endpoint : Url}
    (addressed : storage.IsAddressed endpoint) (firstAccepted : first.IsAccepted)
    (secondAccepted : second.IsAccepted) :
    (∃ address, storage.objectUrl first.storageKey = .ok address ∧
        (IsBelow (Url.pathOf address) (storage.bucketPath endpoint) ↔
          kept first.owner ≠ ['.', '.'])) ∧
      (storage.objectUrl first.storageKey = storage.objectUrl second.storageKey ↔
        kept first.owner = kept second.owner ∧ kept first.fileName = kept second.fileName ∧
          first.format = second.format) := by
  rcases firstAccepted.isName with ⟨firstOwner, firstNamed⟩
  rcases secondAccepted.isName with ⟨secondOwner, secondNamed⟩
  rcases addressed.exists_objectUrl with ⟨segments, proper, bucketPath, addresses⟩
  rcases addresses first firstOwner firstNamed with
    ⟨firstUrl, isFirst, firstText, firstSame, firstPath⟩
  rcases addresses second secondOwner secondNamed with
    ⟨secondUrl, isSecond, secondText, secondSame, secondPath⟩
  have left : written storage.bucket ≠ [] := by
    rw [Ne, written_eq_nil_iff, addressed.bucket.kept_eq]
    exact addressed.bucket.ne_nil
  have plain := slash_not_mem_written storage.bucket
  constructor
  · refine ⟨firstUrl.toText, isFirst, ?_⟩
    rw [firstText, firstPath, bucketPath]
    exact isBelow_rooted_iff proper left plain firstOwner.trimmed
  · rw [← objectSegments_inj left firstOwner.trimmed secondOwner.trimmed, isFirst, isSecond,
      Except.ok.injEq]
    constructor
    · intro same
      have paths : firstUrl.path = secondUrl.path := by rw [← firstText, same, secondText]
      rw [firstPath, secondPath] at paths
      have parts := eq_of_rooted_eq
        (List.forall_mem_append.mpr ⟨proper, slash_not_mem_objectSegments plain⟩)
        (List.forall_mem_append.mpr ⟨proper, slash_not_mem_objectSegments plain⟩) paths
      exact List.append_cancel_left parts
    · intro same
      rw [firstSame, secondSame, firstPath, secondPath, same]

/-- A bucket of a service on this machine. -/
def onThisMachine : HttpStorage :=
  ofEndpoint "http://localhost:9000".toList "psets".toList "eu-west-2".toList

/-- Where the service on this machine is. -/
def thisMachine : Url :=
  ⟨"http".toList, some ⟨[], [], "localhost".toList, some 9000⟩, ['/'], none, none⟩

theorem isAddressed_onThisMachine [DomainNames] : onThisMachine.IsAddressed thisMachine where
  parsed := rfl
  web := by decide
  full := by
    unfold Url.IsFull
    decide
  bucket := by decide

/-- Notes of an owner. -/
def notes (owner : Text) : DocumentJob :=
  ⟨owner, "notes".toList, .pdf, "# Hi".toList, false, none⟩

/-- A payload that asks for the notes of an owner, whose name is written as in JSON. -/
def notesPayload (owner : String) : Text :=
  "\x7b\"userId\": \"".toList ++ owner.toList ++
    "\", \"fileName\": \"notes\", \"typeOfFile\": \"PDF\", \"markdown\": \"# Hi\"\x7d".toList

theorem isAccepted_notes [Pattern.Sizes] {owner : Text} (written : String)
    (read : (SingleRequest.jobsOfPayload (notesPayload written) false).toOption =
      some [notes owner]) : (notes owner).IsAccepted :=
  ⟨notesPayload written, false, [notes owner], List.mem_cons_self .., .inl (eq_ok_of_toOption read)⟩

/-- Notes are stored below the bucket, and a tab in the name of an owner makes no difference. -/
theorem objectUrl_of_accepted_notes :
    (∃ address, onThisMachine.objectUrl (notes "ab".toList).storageKey = .ok address ∧
        IsBelow (Url.pathOf address) (onThisMachine.bucketPath thisMachine)) ∧
      onThisMachine.objectUrl (notes "ab".toList).storageKey =
        onThisMachine.objectUrl (notes "a\tb".toList).storageKey := by
  have apart : (notes "ab".toList).IsAccepted := isAccepted_notes "ab" (by decide +kernel)
  have tabbed : (notes "a\tb".toList).IsAccepted := isAccepted_notes "a\\tb" (by decide +kernel)
  rcases objectUrl_of_accepted isAddressed_onThisMachine apart tabbed with
    ⟨⟨address, stored, below⟩, alike⟩
  exact ⟨⟨address, stored, below.mpr (by decide)⟩, alike.mpr ⟨by decide, by decide, by decide⟩⟩

/-- Two dots around a tab are an owner that is accepted, but lead out of the bucket. -/
theorem objectUrl_outside_bucket :
    onThisMachine.IsAddressed thisMachine ∧ (notes ".\t.".toList).IsAccepted ∧
      onThisMachine.objectUrl (notes ".\t.".toList).storageKey =
        .ok "http://localhost:9000/notes.pdf".toList ∧
      ¬IsBelow (Url.pathOf "http://localhost:9000/notes.pdf".toList)
        (onThisMachine.bucketPath thisMachine) := by
  have accepted : (notes ".\t.".toList).IsAccepted :=
    isAccepted_notes ".\\t." (by decide +kernel)
  refine ⟨isAddressed_onThisMachine, accepted, ?_, ?_⟩
  · have hierarchical : thisMachine.isHierarchical = true := by decide
    rw [objectUrl, StorageKey.address, isAddressed_onThisMachine.parsed]
    simp only [hierarchical, if_true, Except.ok.injEq]
    decide +kernel
  rintro ⟨segments, _, _, same⟩
  have start : ("/psets".toList).isPrefixOf "/notes.pdf".toList = true := by
    rw [List.isPrefixOf_iff_prefix]
    exact ⟨rooted segments, same.symm⟩
  revert start
  decide

end HttpStorage

end Typeset
