import Typeset.Files

/-!
# What is at a location

A change of one entry leaves all other locations as they are.  An absolute path leads to the same
location as long as the directories on the way are kept, whatever else has changed.
-/

namespace Typeset

namespace Files

theorem lookup_filter_ne (entries : List (Location × Entry)) {location other : Location}
    (distinct : other ≠ location) :
    (entries.filter fun entry => entry.1 != location).lookup other = entries.lookup other := by
  induction entries with
  | nil => rfl
  | cons entry entries ih =>
      rcases entry with ⟨place, found⟩
      by_cases here : place = location
      · subst here
        have skipped : (other == place) = false := by simpa using distinct
        simpa [List.lookup_cons, skipped] using ih
      · have kept : (place != location) = true := by simpa using here
        simp only [List.filter_cons, kept, if_true, List.lookup_cons, ih]

theorem lookup_filter_self (entries : List (Location × Entry)) (location : Location) :
    (entries.filter fun entry => entry.1 != location).lookup location = none := by
  rw [List.lookup_eq_none_iff]
  intro entry member
  have distinct : entry.1 ≠ location := by simpa using (List.mem_filter.mp member).2
  simpa using Ne.symm distinct

theorem ne_nil_of_ne_directory {files : Files} {location : Location}
    (free : files.entry? location ≠ some .directory) : location ≠ [] := by
  rintro rfl
  exact free (if_pos rfl)

theorem entry?_put_self (files : Files) {location : Location} (entry : Entry)
    (below : location ≠ []) : Files.entry? (files.put location entry) location = some entry := by
  simp [put, entry?, below]

theorem entry?_put_of_ne (files : Files) {location other : Location} (entry : Entry)
    (distinct : other ≠ location) :
    Files.entry? (files.put location entry) other = files.entry? other := by
  have skipped : (other == location) = false := by simpa using distinct
  simp only [put, entry?, List.lookup_cons, skipped, lookup_filter_ne _ distinct]

theorem entry?_erase_self (files : Files) {location : Location} (below : location ≠ []) :
    Files.entry? (files.erase location) location = none := by
  simp only [erase, entry?, below, if_false, lookup_filter_self]

theorem entry?_erase_of_ne (files : Files) {location other : Location}
    (distinct : other ≠ location) :
    Files.entry? (files.erase location) other = files.entry? other := by
  simp only [erase, entry?, lookup_filter_ne _ distinct]

/-- Every directory is still there. -/
def KeepsDirectories (before after : Files) : Prop :=
  ∀ location, before.entry? location = some .directory → after.entry? location = some .directory

theorem KeepsDirectories.walk_eq {before after : Files} {here location : Location}
    {segments : List Text} (keeps : before.KeepsDirectories after)
    (walked : before.walk here segments = .ok location) :
    after.walk here segments = .ok location := by
  induction segments generalizing here with
  | nil => exact walked
  | cons segment segments ih =>
      cases found : before.entry? here with
      | none => simp [walk, found] at walked
      | some entry =>
          cases entry with
          | file content => simp [walk, found] at walked
          | directory =>
              simp only [walk, found] at walked
              simp only [walk, keeps here found]
              by_cases current : segment = ['.']
              · rw [if_pos current] at walked ⊢
                exact ih walked
              · rw [if_neg current] at walked ⊢
                by_cases parent : segment = ['.', '.']
                · rw [if_pos parent] at walked ⊢
                  exact ih walked
                · rw [if_neg parent] at walked ⊢
                  by_cases long : maxName < Text.byteLength segment
                  · rw [if_pos long] at walked
                    cases walked
                  · rw [if_neg long] at walked ⊢
                    exact ih walked

/-- A path is followed as before where it starts from the same directory. -/
theorem KeepsDirectories.locate_eq_of_start {before after : Files} {path : Path}
    {location : Location} (keeps : before.KeepsDirectories after)
    (start : (if Path.isAbsolute path then [] else after.workingDirectory) =
      if Path.isAbsolute path then [] else before.workingDirectory)
    (located : before.locate path = .ok location) : after.locate path = .ok location := by
  simp only [locate, start] at located ⊢
  by_cases null : path.contains '\x00' = true
  · rw [if_pos null] at located
    cases located
  · rw [if_neg null] at located ⊢
    by_cases empty : path.isEmpty = true
    · rw [if_pos empty] at located
      cases located
    · rw [if_neg empty] at located ⊢
      by_cases long : maxPath < Text.byteLength path
      · rw [if_pos long] at located
        cases located
      · rw [if_neg long] at located ⊢
        exact keeps.walk_eq located

/-- The way of an absolute path does not depend on the working directory. -/
theorem KeepsDirectories.locate_eq {before after : Files} {path : Path} {location : Location}
    (keeps : before.KeepsDirectories after) (absolute : Path.isAbsolute path = true)
    (located : before.locate path = .ok location) : after.locate path = .ok location := by
  apply keeps.locate_eq_of_start _ located
  simp only [absolute, if_true]

theorem KeepsDirectories.locate_eq_of_workingDirectory {before after : Files} {path : Path}
    {location : Location} (keeps : before.KeepsDirectories after)
    (same : after.workingDirectory = before.workingDirectory)
    (located : before.locate path = .ok location) : after.locate path = .ok location := by
  apply keeps.locate_eq_of_start _ located
  simp only [same]

theorem KeepsDirectories.trans {before middle after : Files}
    (first : before.KeepsDirectories middle) (second : middle.KeepsDirectories after) :
    before.KeepsDirectories after :=
  fun location found => second location (first location found)

/-- No directory is lost where a file is put. -/
theorem keepsDirectories_put {files : Files} {location : Location} (entry : Entry)
    (free : files.entry? location ≠ some .directory) :
    files.KeepsDirectories (files.put location entry) := by
  intro other found
  have distinct : other ≠ location := by
    rintro rfl
    exact free found
  rw [Files.entry?_put_of_ne _ _ distinct]
  exact found

/-- A file is created where nothing has been. -/
theorem create_eq_ok {files after : Files} {path : Path} (created : files.create path = .ok after) :
    ∃ location, files.locate path = .ok location ∧ files.entry? location = none ∧
      after = files.put location (.file []) := by
  cases located : files.locate path with
  | error error =>
      simp [create, located, bind, Except.bind] at created
  | ok location =>
      cases found : files.entry? location with
      | none =>
          simp [create, located, found, bind, Except.bind] at created
          exact ⟨location, rfl, found, created.symm⟩
      | some entry =>
          simp [create, located, found, bind, Except.bind] at created

theorem remove_eq_ok {files after : Files} {path : Path} (removed : files.remove path = .ok after) :
    ∃ location, files.locate path = .ok location ∧ after = files.erase location := by
  cases located : files.locate path with
  | error error =>
      simp [remove, find, located, bind, Except.bind] at removed
  | ok location =>
      refine ⟨location, rfl, ?_⟩
      cases found : files.entry? location with
      | none => simp [remove, find, located, found, bind, Except.bind] at removed
      | some entry =>
          cases entry with
          | directory => simp [remove, find, located, found, bind, Except.bind] at removed
          | file content =>
              by_cases named : namesDirectory path = true
              · simp [remove, find, located, found, named, bind, Except.bind] at removed
              · simp [remove, find, located, found, named, bind, Except.bind, pure,
                  Except.pure] at removed
                exact removed.symm

theorem remove_of_file {files : Files} {path : Path} {location : Location} {content : Bytes}
    (located : files.locate path = .ok location) (named : namesDirectory path = false)
    (found : files.entry? location = some (.file content)) :
    files.remove path = .ok (files.erase location) := by
  simp [remove, find, located, found, named, bind, Except.bind, pure, Except.pure]

theorem find_eq_file {files : Files} {path : Path} {content : Bytes}
    (found : files.find path = .ok (.file content)) :
    ∃ location, files.locate path = .ok location ∧
      files.entry? location = some (.file content) ∧ namesDirectory path = false := by
  cases located : files.locate path with
  | error error => simp [find, located, bind, Except.bind] at found
  | ok location =>
      refine ⟨location, rfl, ?_⟩
      simp only [find, located, bind, Except.bind] at found
      split at found
      · cases found
      · cases found
      · rename_i present
        split at found
        · cases found
        · cases found
          exact ⟨present, Bool.eq_false_iff.mpr ‹_›⟩

theorem find_of_file {files : Files} {path : Path} {location : Location} {content : Bytes}
    (located : files.locate path = .ok location) (named : namesDirectory path = false)
    (found : files.entry? location = some (.file content)) :
    files.find path = .ok (.file content) := by
  simp [find, located, found, named, bind, Except.bind]

theorem read_eq_ok_iff {files : Files} {path : Path} {content : Bytes} :
    files.read path = .ok content ↔ files.find path = .ok (.file content) := by
  rw [read]
  cases files.find path with
  | error error => simp [bind, Except.bind]
  | ok entry => cases entry <;> simp [bind, Except.bind]

/-- A file is written where the path leads, and nowhere else. -/
theorem write_eq_ok {files after : Files} {path : Path} {content : Bytes}
    (written : files.write path content = .ok after) :
    ∃ location, files.locate path = .ok location ∧ files.entry? location ≠ some .directory ∧
      after = files.put location (.file content) := by
  cases located : files.locate path with
  | error error => simp [write, located, bind, Except.bind] at written
  | ok location =>
      simp only [write, located, bind, Except.bind] at written
      split at written
      · cases written
      · rename_i free
        simp only [Bool.or_eq_true, decide_eq_true_eq, not_or] at free
        exact ⟨location, rfl, free.2, (Except.ok.inj written).symm⟩

theorem namesDirectory_of_write {files after : Files} {path : Path} {content : Bytes}
    (written : files.write path content = .ok after) : namesDirectory path = false := by
  cases located : files.locate path with
  | error error => simp [write, located, bind, Except.bind] at written
  | ok location =>
      simp only [write, located, bind, Except.bind] at written
      split at written
      · cases written
      · rename_i free
        simp only [Bool.or_eq_true, not_or, Bool.not_eq_true] at free
        exact free.1

theorem copy_eq_ok {files after : Files} {source destination : Path}
    (copied : files.copy source destination = .ok after) :
    ∃ content, files.read source = .ok content ∧
      files.write destination (files.copied source destination content) = .ok after := by
  cases found : files.find source with
  | error error => simp [copy, found, bind, Except.bind] at copied
  | ok entry =>
      cases entry with
      | directory => simp [copy, found, bind, Except.bind] at copied
      | file content =>
          simp only [copy, found, bind, Except.bind] at copied
          exact ⟨content, read_eq_ok_iff.mpr found, copied⟩

end Files

end Typeset
