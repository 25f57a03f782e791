import Mathlib.Data.List.TakeWhile
import Typeset.Proofs.Files.Directories
import Typeset.Proofs.Files.Places

/-!
# The way to a path

The segments of the parent of a path are the first ones of the path, whatever separators and dots
stand at its end.  So directories that are made for a path none of whose segments goes back are on
the way to its place, and everything else stays as it is.
-/

namespace Typeset

namespace Path

variable {path parent : Path}

theorem segments_append_slash (path : Path) : segments (path ++ ['/']) = segments path := by
  rw [segments_append_cons, segments_nil, List.append_nil]

/-- What is trimmed off the end of a path are separators and segments that lead nowhere. -/
theorem segments_trimReversed_prefix (text : Text) :
    segments (trimReversed text).reverse <+: segments text.reverse := by
  induction text using trimReversed.induct with
  | case1 => exact List.prefix_rfl
  | case2 => exact List.prefix_rfl
  | case3 rest more ih =>
      rw [trimReversed.eq_3 rest more, List.reverse_cons, segments_append_slash]
      exact ih
  | case4 rest ih =>
      have dotted : segments ('.' :: '/' :: rest).reverse =
          segments rest.reverse ++ segments ['.'] := by
        rw [← segments_append_cons]
        simp
      rw [List.reverse_cons, segments_append_slash] at ih
      rw [trimReversed, dotted]
      exact ih.trans (List.prefix_append _ _)
  | case5 text empty root separated dotted =>
      simp [trimReversed.eq_5 text empty root separated dotted]

theorem getLast?_trimReversed (text : Text) : (trimReversed text).getLast? = text.getLast? := by
  induction text using trimReversed.induct with
  | case1 => rfl
  | case2 => rfl
  | case3 rest more ih =>
      rw [trimReversed.eq_3 rest more, ih, List.getLast?_cons_of_ne_nil more]
  | case4 rest ih => rw [trimReversed, ih, List.getLast?_cons_cons]
  | case5 text empty root separated dotted =>
      rw [trimReversed.eq_5 text empty root separated dotted]

/-- What is left of a text from its first separator on, if it has one. -/
theorem dropWhile_eq_nil_or_cons (text : Text) :
    (text.dropWhile (· != '/') = [] ∧ '/' ∉ text) ∨
      ∃ rest, text.dropWhile (· != '/') = '/' :: rest ∧
        text = text.takeWhile (· != '/') ++ '/' :: rest := by
  have cut := List.takeWhile_append_dropWhile (p := (· != '/')) (l := text)
  cases left : text.dropWhile (· != '/') with
  | nil =>
      refine .inl ⟨rfl, fun member => ?_⟩
      simpa using List.dropWhile_eq_nil_iff.mp left '/' member
  | cons char rest =>
      have stops := List.head?_dropWhile_not (· != '/') text
      obtain rfl : char = '/' := by simpa [left] using stops
      rw [left] at cut
      exact .inr ⟨rest, rfl, cut.symm⟩

/-- The parent of a path starts where the path does, and goes the same way as far as it goes. -/
theorem segments_prefix_of_parent? (found : parent? path = some parent) :
    segments parent <+: segments path ∧ isAbsolute parent = isAbsolute path := by
  have trimmedSegments := segments_trimReversed_prefix path.reverse
  have trimmedLast := getLast?_trimReversed path.reverse
  rw [List.reverse_reverse] at trimmedSegments
  rw [List.getLast?_reverse] at trimmedLast
  unfold parent? at found
  split at found
  · cases found
  · cases found
  · cases found
    generalize trimReversed path.reverse = text at *
    have parentSegments := segments_trimReversed_prefix (text.dropWhile (· != '/'))
    have parentLast := getLast?_trimReversed (text.dropWhile (· != '/'))
    rw [isAbsolute, isAbsolute, List.head?_reverse, parentLast, ← trimmedLast]
    rcases dropWhile_eq_nil_or_cons text with ⟨left, whole⟩ | ⟨rest, left, cut⟩
    · have relative : text.getLast? ≠ some '/' := fun last => whole (List.mem_of_getLast? last)
      rw [left] at parentSegments ⊢
      refine ⟨parentSegments.trans List.nil_prefix, ?_⟩
      simpa using relative
    · have parts : segments text.reverse =
          segments rest.reverse ++ segments (text.takeWhile (· != '/')).reverse := by
        rw [← segments_append_cons]
        conv_lhs => rw [cut]
        simp
      rw [parts] at trimmedSegments
      rw [left] at parentSegments ⊢
      rw [List.reverse_cons, segments_append_slash] at parentSegments
      refine ⟨(parentSegments.trans (List.prefix_append _ _)).trans trimmedSegments, ?_⟩
      rw [cut, List.getLast?_append_cons]

end Path

namespace Files

variable {files after : Files} {path parent : Path} {location : Location}

/-- The parent of a path that does not go back is on the way to where the path leads. -/
theorem place_prefix_of_parent? (files : Files) (found : Path.parent? path = some parent)
    (forward : ∀ name ∈ path.segments, name ≠ ['.', '.']) :
    files.place parent <+: files.place path := by
  rcases Path.segments_prefix_of_parent? found with ⟨⟨rest, segments⟩, same⟩
  rw [place, place, ← segments, same, List.foldl_append]
  apply prefix_foldl_advance
  intro name member
  apply forward
  rw [← segments]
  exact List.mem_append_right _ member

theorem Makes.place_eq (makes : files.Makes path after) (other : Path) :
    after.place other = files.place other :=
  place_congr makes.addsDirectories.workingDirectory other

/-- Directories that are made for a path are made on the way to its place. -/
theorem Makes.entry?_eq (makes : files.Makes path after)
    (forward : ∀ name ∈ path.segments, name ≠ ['.', '.'])
    (away : ¬location <+: files.place path) : after.entry? location = files.entry? location := by
  induction makes with
  | nothing => rfl
  | above found makes ih =>
      have segments := (Path.segments_prefix_of_parent? found).1
      have onTheWay := files.place_prefix_of_parent? found forward
      exact ih (fun name member => forward name (segments.subset member))
        (mt (·.trans onTheWay) away)
  | itself makes made ih =>
      rcases makeDirectory_eq_ok made with ⟨place, located, _, rfl⟩
      have apart : location ≠ place := by
        rw [eq_place_of_locate located, makes.place_eq]
        rintro rfl
        exact away List.prefix_rfl
      exact (entry?_put_of_ne _ _ apart).trans (ih forward away)

end Files

end Typeset
