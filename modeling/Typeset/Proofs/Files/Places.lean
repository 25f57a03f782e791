import Mathlib.Data.List.Basic
import Typeset.Files
import Typeset.Proofs.Text.Splitting

/-!
# Where paths lead

There are no links, so where a path leads can be read off the path: dots stand for themselves, two
dots take back a name.  Whether the directories on the way are there decides only whether the path
can be followed.
-/

namespace Typeset

namespace Path

@[simp]
theorem segments_nil : segments [] = [] :=
  rfl

theorem segments_append_cons (first second : Path) :
    segments (first ++ '/' :: second) = segments first ++ segments second := by
  rw [segments, Text.splitAt_append_cons, List.filter_append]
  rfl

/-- A name is the only segment of itself. -/
theorem segments_of_not_mem {name : Text} (plain : '/' ∉ name) (left : name ≠ []) :
    segments name = [name] := by
  rw [segments, Text.splitAt_of_not_mem plain]
  simp [left]

theorem isAbsolute_of_not_mem {name : Text} (plain : '/' ∉ name) : isAbsolute name = false := by
  cases name with
  | nil => rfl
  | cons char rest =>
      rw [List.mem_cons, not_or] at plain
      simpa [isAbsolute] using Ne.symm plain.1

/-- The segments below a base come after those of the base. -/
theorem segments_join (base : Path) {tail : Path} (relative : isAbsolute tail = false) :
    segments (join base tail) = segments base ++ segments tail := by
  unfold join
  rw [relative, if_neg Bool.false_ne_true]
  split
  · rename_i ends
    rcases List.eq_nil_or_concat' base with rfl | ⟨start, last, rfl⟩
    · rfl
    · obtain rfl : last = '/' := by simpa using ends
      have single : segments (start ++ ['/']) = segments start ++ segments [] :=
        segments_append_cons start []
      rw [List.append_assoc, List.singleton_append, segments_append_cons, single]
      simp
  · exact segments_append_cons base tail

theorem isAbsolute_join_eq (base : Path) {tail : Path} (relative : isAbsolute tail = false) :
    isAbsolute (join base tail) = isAbsolute base := by
  unfold join
  rw [relative, if_neg Bool.false_ne_true]
  cases base with
  | nil => exact relative
  | cons char base =>
      split <;> rfl

end Path

namespace Files

variable {files before after : Files} {here location : Location} {path : Path}

/-- Where a segment leads. -/
def advance (here : Location) (segment : Text) : Location :=
  if segment = ['.'] then here
  else if segment = ['.', '.'] then here.dropLast
  else here ++ [segment]

/-- Where a path leads, whether or not it can be followed. -/
def place (files : Files) (path : Path) : Location :=
  path.segments.foldl advance (if Path.isAbsolute path then [] else files.workingDirectory)

theorem eq_of_walk_eq_ok {segments : List Text}
    (walked : files.walk here segments = .ok location) :
    location = segments.foldl advance here := by
  induction segments generalizing here with
  | nil => exact (Except.ok.inj walked).symm
  | cons segment segments ih =>
      unfold walk at walked
      split at walked
      · cases walked
      · cases walked
      · rw [List.foldl_cons, advance]
        split at walked
        · rw [if_pos ‹_›]
          exact ih walked
        · rw [if_neg ‹_›]
          split at walked
          · rw [if_pos ‹_›]
            exact ih walked
          · rw [if_neg ‹_›]
            split at walked
            · cases walked
            · exact ih walked

/-- A path that can be followed leads to its place. -/
theorem eq_place_of_locate (located : files.locate path = .ok location) :
    location = files.place path := by
  unfold locate at located
  split at located
  · cases located
  · split at located
    · cases located
    · split at located
      · cases located
      · exact eq_of_walk_eq_ok located

theorem place_congr (same : after.workingDirectory = before.workingDirectory) (path : Path) :
    after.place path = before.place path := by
  rw [place, place, same]

/-- An absolute path leads to the same place everywhere. -/
theorem place_of_isAbsolute (absolute : Path.isAbsolute path = true) :
    after.place path = before.place path := by
  simp [place, absolute]

theorem absolute_congr (same : after.workingDirectory = before.workingDirectory) (path : Path) :
    after.absolute path = before.absolute path := by
  rw [absolute, absolute, same]

/-- A path below a base leads from where the base does. -/
theorem place_join (files : Files) (base : Path) {tail : Path}
    (relative : Path.isAbsolute tail = false) :
    files.place (Path.join base tail) = tail.segments.foldl advance (files.place base) := by
  rw [place, place, Path.segments_join base relative, Path.isAbsolute_join_eq base relative,
    List.foldl_append]

/-- A path below a base that goes only through places in the base. -/
structure StaysWithin (files : Files) (base tail : Path) : Prop where
  place : files.place (Path.join base tail) = tail.segments.foldl advance (files.place base)
  within : ∀ way, way <+: tail.segments → files.place base <+: way.foldl advance (files.place base)

theorem prefix_foldl_advance {names : List Text} (forward : ∀ name ∈ names, name ≠ ['.', '.'])
    (here : Location) : here <+: names.foldl advance here := by
  induction names generalizing here with
  | nil => exact List.prefix_refl here
  | cons name names ih =>
      rw [List.forall_mem_cons] at forward
      have next : here <+: advance here name := by
        unfold advance
        split
        · exact List.prefix_refl here
        · rw [if_neg forward.1]
          exact List.prefix_append here [name]
      exact next.trans (ih forward.2 (advance here name))

/-- Only two dots lead out of a base. -/
theorem staysWithin_of_forward (files : Files) (base : Path) {tail : Path}
    (relative : Path.isAbsolute tail = false)
    (forward : ∀ name ∈ tail.segments, name ≠ ['.', '.']) : files.StaysWithin base tail where
  place := place_join files base relative
  within _ taken := prefix_foldl_advance (fun name member => forward name (taken.subset member)) _

/-- A name in a directory leads to a place in it. -/
theorem place_join_name (files : Files) (base : Path) {name : Text} (plain : '/' ∉ name)
    (left : name ≠ []) (one : name ≠ ['.']) (two : name ≠ ['.', '.']) :
    files.place (Path.join base name) = files.place base ++ [name] := by
  rw [place_join files base (Path.isAbsolute_of_not_mem plain), Path.segments_of_not_mem plain left]
  simp [advance, one, two]

end Files

end Typeset
