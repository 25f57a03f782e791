import Typeset.Proofs.Files.Entries

/-!
# Regular files below a directory

What operations do to the regular files below a directory is the list of what they write there, one
after another.  A file holds what has been written to it last, and a file to which nothing has been
written holds what it held before.
-/

namespace Typeset

namespace Files

/-- The content of the regular file at a location, if there is one. -/
def content? (files : Files) (location : Location) : Option Bytes :=
  match files.entry? location with
  | some (.file content) => some content
  | some .directory => none
  | none => none

theorem content?_eq_some_iff {files : Files} {location : Location} {content : Bytes} :
    files.content? location = some content ↔ files.entry? location = some (.file content) := by
  unfold content?
  split <;> simp_all

theorem content?_congr {before after : Files} {location : Location}
    (same : after.entry? location = before.entry? location) :
    after.content? location = before.content? location := by
  rw [content?, content?, same]

theorem content?_put {files : Files} {location : Location} (below : location ≠ [])
    (content : Bytes) (other : Location) :
    (files.put location (.file content)).content? other =
      if other = location then some content else files.content? other := by
  split
  · rename_i same
    rw [same, content?_eq_some_iff, entry?_put_self _ _ below]
  · exact content?_congr (entry?_put_of_ne _ _ ‹_›)

/-- To read a file is to find its content where the path leads. -/
theorem read_eq_ok_iff_content? {files : Files} {path : Path} {location : Location}
    {content : Bytes} (located : files.locate path = .ok location)
    (named : namesDirectory path = false) :
    files.read path = .ok content ↔ files.content? location = some content := by
  rw [read_eq_ok_iff, content?_eq_some_iff]
  constructor
  · intro found
    rcases find_eq_file found with ⟨reached, same, isFile, _⟩
    obtain rfl : location = reached := Except.ok.inj (located.symm.trans same)
    exact isFile
  · exact find_of_file located named

/-- What has been written to a location last. -/
def lastWritten (written : List (Location × Bytes)) (location : Location) : Option Bytes :=
  (written.reverse.find? (·.1 == location)).map (·.2)

@[simp]
theorem lastWritten_singleton (place : Location) (content : Bytes) (location : Location) :
    lastWritten [(place, content)] location = if location = place then some content else none := by
  by_cases here : location = place
  · simp [lastWritten, here]
  · simp [lastWritten, here, Ne.symm here]

theorem lastWritten_append (first second : List (Location × Bytes)) (location : Location) :
    lastWritten (first ++ second) location =
      (lastWritten second location).or (lastWritten first location) := by
  unfold lastWritten
  rw [List.reverse_append, List.find?_append]
  cases second.reverse.find? (·.1 == location) <;> rfl

/-- Below a root, what has been written is all that has happened to the regular files. -/
structure WritesBelow (root : Location) (written : List (Location × Bytes))
    (before after : Files) : Prop where
  workingDirectory : after.workingDirectory = before.workingDirectory
  content : ∀ names, names ≠ [] → after.content? (root ++ names) =
    (lastWritten written (root ++ names)).or (before.content? (root ++ names))

namespace WritesBelow

variable {root : Location} {first second : List (Location × Bytes)} {before middle after : Files}

theorem refl (root : Location) (files : Files) : WritesBelow root [] files files :=
  ⟨rfl, fun _ _ => rfl⟩

theorem trans (earlier : WritesBelow root first before middle)
    (later : WritesBelow root second middle after) :
    WritesBelow root (first ++ second) before after where
  workingDirectory := later.workingDirectory.trans earlier.workingDirectory
  content names some := by
    rw [later.content names some, earlier.content names some, lastWritten_append, Option.or_assoc]

/-- Nothing is written below a root where all regular files stay. -/
theorem of_content_eq (workingDirectory : after.workingDirectory = before.workingDirectory)
    (same : ∀ names, names ≠ [] →
      after.content? (root ++ names) = before.content? (root ++ names)) :
    WritesBelow root [] before after :=
  ⟨workingDirectory, same⟩

/-- A file that is put at a place has been written there. -/
theorem put (files : Files) {place : Location} (below : place ≠ []) (content : Bytes)
    (root : Location) :
    WritesBelow root [(place, content)] files (files.put place (.file content)) where
  workingDirectory := rfl
  content names _ := by
    rw [content?_put below, lastWritten_singleton]
    split <;> rfl

/-- It does not matter what has been written at a place that is not below the root. -/
theorem of_outside {place : Location} {content other : Bytes}
    (writes : WritesBelow root [(place, content)] before after)
    (outside : ∀ names, names ≠ [] → root ++ names ≠ place) :
    WritesBelow root [(place, other)] before after where
  workingDirectory := writes.workingDirectory
  content names below := by
    rw [writes.content names below, lastWritten_singleton, lastWritten_singleton,
      if_neg (outside names below), if_neg (outside names below)]

end WritesBelow

end Files

end Typeset
