import Typeset.Config.Environment
import Typeset.Proofs.Files.Contents

/-!
# Directories that are made

To make directories, however far this comes, adds directories where nothing has been.  All regular
files stay as they are, and all paths lead where they have led.
-/

namespace Typeset

namespace Files

/-- What is new is a directory where nothing has been. -/
structure AddsDirectories (before after : Files) : Prop where
  workingDirectory : after.workingDirectory = before.workingDirectory
  entry : ∀ location, after.entry? location = before.entry? location ∨
    before.entry? location = none ∧ after.entry? location = some .directory

namespace AddsDirectories

variable {before middle after : Files}

theorem refl (files : Files) : files.AddsDirectories files :=
  ⟨rfl, fun _ => .inl rfl⟩

theorem trans (first : before.AddsDirectories middle) (second : middle.AddsDirectories after) :
    before.AddsDirectories after where
  workingDirectory := second.workingDirectory.trans first.workingDirectory
  entry location := by
    rcases first.entry location with same | ⟨free, made⟩
    · rw [← same]
      exact second.entry location
    · rcases second.entry location with same | ⟨stillFree, _⟩
      · exact .inr ⟨free, same.trans made⟩
      · rw [made] at stillFree
        cases stillFree

theorem content?_eq (adds : before.AddsDirectories after) (location : Location) :
    after.content? location = before.content? location := by
  rcases adds.entry location with same | ⟨free, made⟩
  · exact content?_congr same
  · simp [content?, free, made]

/-- To add directories writes nothing. -/
theorem writesBelow (adds : before.AddsDirectories after) (root : Location) :
    WritesBelow root [] before after :=
  .of_content_eq adds.workingDirectory fun names _ => adds.content?_eq (root ++ names)

theorem keepsDirectories (adds : before.AddsDirectories after) : before.KeepsDirectories after := by
  intro location found
  rcases adds.entry location with same | ⟨free, _⟩
  · exact same.trans found
  · rw [free] at found
    cases found

end AddsDirectories

variable {files after : Files} {path : Path}

theorem makeDirectory_eq_ok (made : files.makeDirectory path = .ok after) :
    ∃ location, files.locate path = .ok location ∧ files.entry? location = none ∧
      after = files.put location .directory := by
  cases located : files.locate path with
  | error error => simp [makeDirectory, located, bind, Except.bind] at made
  | ok location =>
      cases found : files.entry? location with
      | some entry => simp [makeDirectory, located, found, bind, Except.bind] at made
      | none =>
          obtain rfl : files.put location .directory = after := by
            simpa [makeDirectory, located, found, bind, Except.bind] using made
          exact ⟨location, rfl, found, rfl⟩

theorem addsDirectories_of_makeDirectory (made : files.makeDirectory path = .ok after) :
    files.AddsDirectories after := by
  rcases makeDirectory_eq_ok made with ⟨location, _, free, rfl⟩
  have below : location ≠ [] := files.ne_nil_of_ne_directory (by simp [free])
  refine ⟨rfl, fun other => ?_⟩
  by_cases same : other = location
  · rw [same, entry?_put_self _ _ below]
    exact .inr ⟨free, rfl⟩
  · exact .inl (entry?_put_of_ne _ _ same)

/-- The ways to files in which directories are made for a path: one after another, each at a parent
of the path or at the path itself. -/
inductive Makes (files : Files) : Path → Files → Prop where
  | nothing {path : Path} : files.Makes path files
  | above {path parent : Path} {after : Files} (found : path.parent? = some parent)
      (makes : files.Makes parent after) : files.Makes path after
  | itself {path : Path} {middle after : Files} (makes : files.Makes path middle)
      (made : middle.makeDirectory path = .ok after) : files.Makes path after

theorem Makes.ensure {middle : Files} (makes : files.Makes path middle)
    (made : middle.ensureDirectory path = .ok after) : files.Makes path after := by
  unfold ensureDirectory at made
  split at made
  · rename_i written
    cases made
    exact makes.itself written
  · split at made
    · cases made
      exact makes
    · cases made

theorem makes_makeDirectoriesWithin (files : Files) (path : Path) (room : Nat) :
    files.Makes path (files.makeDirectoriesWithin path room).2 := by
  induction room generalizing path with
  | zero => exact .nothing
  | succ room ih =>
      unfold makeDirectoriesWithin
      split
      · exact .nothing
      · split
        · exact Makes.nothing.ensure ‹_›
        · split
          · exact .nothing
          · rename_i parent found
            have makes := (ih parent).above found
            split
            · rename_i refused
              rwa [refused] at makes
            · rename_i made
              rw [made] at makes
              split
              · exact makes.ensure ‹_›
              · exact makes
        · exact .nothing

theorem makes_makeDirectories (files : Files) (path : Path) :
    files.Makes path (files.makeDirectories path).2 :=
  files.makes_makeDirectoriesWithin path (path.length + 1)

theorem Makes.addsDirectories (makes : files.Makes path after) : files.AddsDirectories after := by
  induction makes with
  | nothing => exact .refl files
  | above found makes ih => exact ih
  | itself makes made ih => exact ih.trans (addsDirectories_of_makeDirectory made)

end Files

namespace EngineEnvironment

theorem addsDirectories_makeAll (files : Files) (paths : List Path) :
    files.AddsDirectories (makeAll files paths).2 := by
  induction paths generalizing files with
  | nil => exact .refl files
  | cons path paths ih =>
      have first := (files.makes_makeDirectories path).addsDirectories
      unfold makeAll
      split
      · rename_i refused
        rwa [refused] at first
      · rename_i made
        rw [made] at first
        exact first.trans (ih _)

theorem addsDirectories_prepare (environment : EngineEnvironment) (files : Files) :
    files.AddsDirectories (environment.prepare files).2 :=
  addsDirectories_makeAll files _

end EngineEnvironment

end Typeset
