import Typeset.Proofs.Files.Entries
import Typeset.Proofs.Scratch.Names

/-!
# Reserved scratch files

A scratch file is reserved at a place that was free, under an absolute path, so that the path leads
there as long as the directories on the way are kept.  While the file is held, its place may hold
any file or nothing.  To release it frees the place, and touches no other.
-/

namespace Typeset

namespace Path

theorem isAbsolute_join {base : Path} (absolute : isAbsolute base = true) (tail : Path) :
    isAbsolute (join base tail) = true := by
  unfold join
  cases base with
  | nil => simp [isAbsolute] at absolute
  | cons char rest =>
      split
      · assumption
      · split
        · simpa [isAbsolute] using absolute
        · simpa [isAbsolute] using absolute

theorem getLast?_join (base : Path) {tail : Path} {char : Char}
    (last : tail.getLast? = some char) : (join base tail).getLast? = some char := by
  unfold join
  split
  · exact last
  · split
    · rw [List.getLast?_append, last, Option.some_or]
    · rw [List.getLast?_append, List.getLast?_cons, last, Option.some_or, Option.getD_some]

end Path

theorem Files.isAbsolute_absolute (files : Files) (path : Path) :
    Path.isAbsolute (files.absolute path) = true :=
  Path.isAbsolute_join rfl path

namespace Scratch

theorem reserve_eq_ok {directory : Path} {name : Stamp → Text} {stamps : Nat → Stamp}
    {files reserved : Files} {attempt more : Nat} {scratch : Path}
    (made : reserve directory name stamps files attempt more = .ok (scratch, reserved)) :
    ∃ stamp, scratch = Path.join directory (name stamp) ∧ files.create scratch = .ok reserved := by
  induction more generalizing attempt with
  | zero => simp [reserve] at made
  | succ more ih =>
      unfold reserve at made
      cases created : files.create (Path.join directory (name (stamps attempt))) with
      | ok after =>
          simp only [created, Except.ok.injEq, Prod.mk.injEq] at made
          rcases made with ⟨rfl, rfl⟩
          exact ⟨stamps attempt, rfl, created⟩
      | error error =>
          cases error <;> simp only [created, reduceCtorEq] at made
          exact ih made

theorem workingDirectory_of_create {directory : Path} {owner document : Text}
    {format : OutputFormat} {stamps : Nat → Stamp} {files reserved : Files} {scratch : Path}
    (made : create directory owner document format stamps files = .ok (scratch, reserved)) :
    reserved.workingDirectory = files.workingDirectory := by
  rcases reserve_eq_ok made with ⟨_, _, created⟩
  rcases Files.create_eq_ok created with ⟨_, _, _, rfl⟩
  rfl

/-- A scratch file is in the scratch directory. -/
theorem exists_place_of_create {directory : Path} {owner document : Text} {format : OutputFormat}
    {stamps : Nat → Stamp} {files reserved : Files} {scratch : Path}
    (made : create directory owner document format stamps files = .ok (scratch, reserved)) :
    ∃ name, files.place scratch = files.place (files.absolute directory) ++ [name] := by
  rcases reserve_eq_ok made with ⟨stamp, rfl, _⟩
  exact ⟨_, place_join_fileName files _ owner document format stamp⟩

/-- Stamps that tell attempts apart and nothing else. -/
def countingStamps (attempt : Nat) : Stamp :=
  ⟨attempt, ['0'], rfl⟩

/-- A scratch file is held at a place, in files that are otherwise those from before. -/
structure Held (before now : Files) (scratch : Path) (place : Location) : Prop where
  absolute : Path.isAbsolute scratch = true
  named : Files.namesDirectory scratch = false
  free : before.entry? place = none
  located : now.locate scratch = .ok place
  regular : now.entry? place ≠ some .directory
  elsewhere : ∀ other, other ≠ place → now.entry? other = before.entry? other

theorem create_held {directory : Path} {owner document : Text} {format : OutputFormat}
    {stamps : Nat → Stamp} {files reserved : Files} {scratch : Path}
    (made : create directory owner document format stamps files = .ok (scratch, reserved)) :
    ∃ place, Held files reserved scratch place := by
  rcases reserve_eq_ok made with ⟨stamp, rfl, created⟩
  rcases Files.create_eq_ok created with ⟨place, located, free, rfl⟩
  have below : place ≠ [] := files.ne_nil_of_ne_directory (by simp [free])
  have absolute := Path.isAbsolute_join (files.isAbsolute_absolute directory)
    (fileName owner document format stamp)
  have keeps : files.KeepsDirectories (files.put place (.file [])) := by
    intro location found
    have distinct : location ≠ place := by
      intro same
      rw [same, free] at found
      cases found
    rw [Files.entry?_put_of_ne _ _ distinct]
    exact found
  rcases exists_getLast?_fileName owner document format stamp with ⟨char, last, char_ne⟩
  exact ⟨place, {
    absolute := absolute
    named := by
      unfold Files.namesDirectory
      rw [Path.getLast?_join _ last]
      simpa using char_ne
    free := free
    located := keeps.locate_eq absolute located
    regular := by simp [Files.entry?_put_self _ _ below]
    elsewhere := fun other distinct => Files.entry?_put_of_ne _ _ distinct }⟩

/-- The files after a scratch file has been released, or could not be. -/
def released (scratch : Path) (files : Files) : Files :=
  match release scratch files with
  | .ok files => files
  | .error _ => files

theorem released_of_error {scratch : Path} {files : Files} {refusal : Error}
    (refused : release scratch files = .error refusal) : released scratch files = files := by
  rw [released, refused]

theorem released_eq_self_or_erase (scratch : Path) (files : Files) :
    released scratch files = files ∨
      ∃ place, files.locate scratch = .ok place ∧ released scratch files = files.erase place := by
  unfold released release
  cases removed : files.remove scratch with
  | error error => exact Or.inl rfl
  | ok left =>
      rcases Files.remove_eq_ok removed with ⟨place, located, rfl⟩
      exact Or.inr ⟨place, located, rfl⟩

theorem workingDirectory_released (scratch : Path) (files : Files) :
    (released scratch files).workingDirectory = files.workingDirectory := by
  rcases released_eq_self_or_erase scratch files with same | ⟨place, _, erased⟩
  · rw [same]
  · rw [erased]
    rfl

theorem entry?_released_of_ne {scratch : Path} {files : Files} {other : Location}
    (distinct : files.locate scratch ≠ .ok other) :
    Files.entry? (released scratch files) other = files.entry? other := by
  rcases released_eq_self_or_erase scratch files with same | ⟨place, located, erased⟩
  · rw [same]
  · rw [erased]
    refine Files.entry?_erase_of_ne files ?_
    rintro rfl
    exact distinct located

theorem entry?_released_self {scratch : Path} {files : Files} {place : Location}
    (located : files.locate scratch = .ok place)
    (named : Files.namesDirectory scratch = false)
    (regular : files.entry? place ≠ some .directory) :
    Files.entry? (released scratch files) place = none := by
  unfold released release
  cases found : files.entry? place with
  | none =>
      cases removed : files.remove scratch with
      | error error => exact found
      | ok left =>
          rcases Files.remove_eq_ok removed with ⟨reached, same, rfl⟩
          obtain rfl : place = reached := Except.ok.inj (located.symm.trans same)
          exact Files.entry?_erase_self files (Files.ne_nil_of_ne_directory regular)
  | some entry =>
      cases entry with
      | directory => exact absurd found regular
      | file content =>
          rw [Files.remove_of_file located named found]
          exact Files.entry?_erase_self files (Files.ne_nil_of_ne_directory regular)

/-- What is at a location after the release is what was there before the reservation, if nobody has
touched the location since.  At its own place the scratch file only has to be gone, or to be there
to be removed. -/
theorem Held.entry?_released {before now left : Files} {scratch : Path} {place location : Location}
    (held : Held before now scratch place)
    (other : location ≠ place → left.entry? location = now.entry? location)
    (itself : location = place →
      left.locate scratch = .ok place ∧ left.entry? place ≠ some .directory) :
    Files.entry? (released scratch left) location = before.entry? location := by
  by_cases here : location = place
  · rcases itself here with ⟨located, regular⟩
    rw [here, entry?_released_self located held.named regular, held.free]
  · have apart : left.locate scratch ≠ .ok location := by
      intro reached
      apply here
      rw [Files.eq_place_of_locate reached, Files.eq_place_of_locate held.located]
      exact Files.place_of_isAbsolute held.absolute
    rw [entry?_released_of_ne apart, other here, held.elsewhere location here]

end Scratch

end Typeset
