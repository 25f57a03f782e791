import Typeset.Libraries
import Typeset.Proofs.Files.Places
import Typeset.Proofs.Request.Acceptance
import Typeset.Proofs.Text.Splitting
import Typeset.Storage.Key

/-!
# Keys of accepted jobs

The key of a job whose names have been checked has two segments: the owner, and the name of the
stored file.  The extension keeps the second one from being dots, and the owner is not two dots, so
no step of the key leads out of the directory that it is joined to.

An extension has three letters, so where it begins is told by the end of the key.  This is why names
may hold dots, or look like other names with an extension, and still no two jobs share a key.
-/

namespace Typeset

theorem append_extension_inj {first second : Text} {firstFormat secondFormat : OutputFormat} :
    first ++ '.' :: firstFormat.extension = second ++ '.' :: secondFormat.extension ↔
      first = second ∧ firstFormat = secondFormat := by
  constructor
  · intro same
    have size : ∀ format : OutputFormat, ('.' :: format.extension).length = 4 := by
      intro format
      cases format <;> rfl
    rcases List.append_inj' same ((size _).trans (size _).symm) with ⟨names, extensions⟩
    refine ⟨names, ?_⟩
    revert extensions
    cases firstFormat <;> cases secondFormat <;> decide
  · rintro ⟨names, formats⟩
    rw [names, formats]

theorem append_extension_ne_dots (name : Text) (format : OutputFormat) :
    name ++ '.' :: format.extension ≠ ['.'] ∧ name ++ '.' :: format.extension ≠ ['.', '.'] := by
  have long : 4 ≤ (name ++ '.' :: format.extension).length := by
    rw [List.length_append]
    cases format <;> exact Nat.le_add_left _ _
  constructor <;> intro dots <;> rw [dots] at long <;> revert long <;> decide

namespace DocumentJob

/-- The name of the file that a key ends in. -/
def storedName (job : DocumentJob) : Text :=
  job.fileName ++ '.' :: job.format.extension

theorem storageKey_eq (job : DocumentJob) :
    job.storageKey = job.owner ++ '/' :: job.storedName := by
  simp [storageKey, storedName]

theorem slash_not_mem_storedName {job : DocumentJob} (named : IsName job.fileName) :
    '/' ∉ job.storedName := by
  have extension : ∀ format : OutputFormat, '/' ∉ '.' :: format.extension := by
    intro format
    cases format <;> decide
  simpa [storedName, named.no_slash] using extension job.format

theorem storedName_ne_nil (job : DocumentJob) : job.storedName ≠ [] := by
  simp [storedName]

/-- The name of a stored file is neither one dot nor two. -/
theorem storedName_ne_dots (job : DocumentJob) :
    job.storedName ≠ ['.'] ∧ job.storedName ≠ ['.', '.'] :=
  append_extension_ne_dots job.fileName job.format

/-- The name of a stored file tells the name of the document and in which format it is. -/
theorem storedName_inj {first second : DocumentJob} :
    first.storedName = second.storedName ↔
      first.fileName = second.fileName ∧ first.format = second.format :=
  append_extension_inj

/-- The key of a job that has been accepted has two segments. -/
theorem segments_storageKey {job : DocumentJob} (owned : IsName job.owner)
    (named : IsName job.fileName) :
    StorageKey.segments job.storageKey = [job.owner, job.storedName] := by
  rw [StorageKey.segments, storageKey_eq, Text.splitAt_append_cons,
    Text.splitAt_of_not_mem owned.no_slash,
    Text.splitAt_of_not_mem (slash_not_mem_storedName named)]
  rfl

theorem isAbsolute_storageKey {job : DocumentJob} (owned : IsName job.owner) :
    Path.isAbsolute job.storageKey = false := by
  rcases List.exists_cons_of_ne_nil owned.trimmed.ne_nil with ⟨first, rest, owner⟩
  have plain := owned.no_slash
  rw [owner, List.mem_cons, not_or] at plain
  rw [storageKey_eq, owner]
  simpa [Path.isAbsolute] using Ne.symm plain.1

theorem pathSegments_storageKey {job : DocumentJob} (owned : IsName job.owner)
    (named : IsName job.fileName) :
    Path.segments job.storageKey = [job.owner, job.storedName] := by
  rw [storageKey_eq, Path.segments_append_cons,
    Path.segments_of_not_mem owned.no_slash owned.trimmed.ne_nil,
    Path.segments_of_not_mem (slash_not_mem_storedName named) job.storedName_ne_nil]
  rfl

theorem count_slash_storageKey {job : DocumentJob} (owned : IsName job.owner)
    (named : IsName job.fileName) : job.storageKey.count '/' = 1 := by
  rw [storageKey_eq, List.count_append, List.count_cons_self,
    List.count_eq_zero_of_not_mem owned.no_slash,
    List.count_eq_zero_of_not_mem (slash_not_mem_storedName named)]

theorem storageKey_inj {first second : DocumentJob} (firstOwned : IsName first.owner)
    (firstNamed : IsName first.fileName) (secondOwned : IsName second.owner)
    (secondNamed : IsName second.fileName) :
    first.storageKey = second.storageKey ↔
      first.owner = second.owner ∧ first.fileName = second.fileName ∧
        first.format = second.format := by
  rw [← storedName_inj]
  constructor
  · intro same
    have parts := congrArg StorageKey.segments same
    rw [segments_storageKey firstOwned firstNamed, segments_storageKey secondOwned secondNamed]
      at parts
    simpa using parts
  · rintro ⟨owners, names⟩
    rw [storageKey_eq, storageKey_eq, owners, names]

/-- The names of accepted jobs are safe: their keys have two segments, lead below any root that they
are joined to, and tell the jobs apart. -/
theorem storageKey_of_accepted [Pattern.Sizes] {first second : DocumentJob}
    (firstAccepted : first.IsAccepted) (secondAccepted : second.IsAccepted) :
    (first.owner.IsTrimmed ∧ Validation.IsSafe first.owner) ∧
      (first.fileName.IsTrimmed ∧ Validation.IsSafe first.fileName) ∧
      first.storageKey.count '/' = 1 ∧ first.storageKey.head? ≠ some '/' ∧
      (∀ segment ∈ StorageKey.segments first.storageKey, segment ≠ [] ∧ segment ≠ ['.', '.']) ∧
      (∀ (files : Files) (root : Path), files.StaysWithin root first.storageKey) ∧
      (first.storageKey = second.storageKey ↔
        first.owner = second.owner ∧ first.fileName = second.fileName ∧
          first.format = second.format) := by
  rcases firstAccepted.isName with ⟨owned, named⟩
  rcases secondAccepted.isName with ⟨secondOwned, secondNamed⟩
  have relative := isAbsolute_storageKey owned
  refine ⟨⟨owned.trimmed, owned.isSafe⟩, ⟨named.trimmed, named.isSafe⟩,
    count_slash_storageKey owned named, by simpa [Path.isAbsolute] using relative, ?_, ?_,
    storageKey_inj owned named secondOwned secondNamed⟩
  · rw [segments_storageKey owned named]
    simp [owned.trimmed.ne_nil, owned.ne_dots, first.storedName_ne_nil, first.storedName_ne_dots.2]
  · intro files root
    apply Files.staysWithin_of_forward files root relative
    rw [pathSegments_storageKey owned named]
    simp [owned.ne_dots, first.storedName_ne_dots.2]

/-- A slug and a number that look like a file with an extension make a name like any other, and the
owner may be a dot. -/
theorem storageKey_of_accepted_dotted :
    let source : DocumentJob := ⟨['.'], "a.-1.pdf".toList, .tex, ['x'], false, none⟩
    let document : DocumentJob := ⟨['.'], "a.-1".toList, .pdf, ['x'], false, none⟩
    source.IsAccepted ∧ document.IsAccepted ∧ source.storageKey.count '/' = 1 ∧
      (∀ (files : Files) (root : Path), files.StaysWithin root source.storageKey) ∧
      source.storageKey ≠ document.storageKey := by
  intro source document
  have sourceAccepted : source.IsAccepted :=
    ⟨"\x7b\"userId\": \" . \", \"moduleSlug\": \" a. \", \"setNumber\": \" 1.pdf \", ".toList ++
      "\"typeOfFile\": \"TEX\", \"markdown\": \"x\"\x7d".toList, false, [source],
      List.mem_singleton_self _, .inl (eq_ok_of_toOption (by decide +kernel))⟩
  have documentAccepted : document.IsAccepted :=
    ⟨"[\x7b\"userId\": \".\", \"fileName\": \"a.-1\", ".toList ++
      "\"typeOfFile\": \"PDF\", \"markdown\": \"x\"\x7d]".toList, false, [document],
      List.mem_singleton_self _, .inr (eq_ok_of_toOption (by decide +kernel))⟩
  rcases storageKey_of_accepted sourceAccepted documentAccepted with
    ⟨_, _, single, _, _, within, keys⟩
  exact ⟨sourceAccepted, documentAccepted, single, within, mt keys.mp (by decide)⟩

end DocumentJob

end Typeset
