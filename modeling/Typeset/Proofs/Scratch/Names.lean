import Typeset.Proofs.Files.Places
import Typeset.Scratch

/-!
# Names of scratch files

A scratch name is a stem of safe characters, a dot and the extension of the format, whatever the
owner and the document are.  So its dot is the one that the extension of a path begins at, and the
media type that is told by the path is that of the format.
-/

namespace Typeset

namespace Path

variable {name stem extension : Text}

theorem trimReversed_cons {char : Char} (named : char ≠ '/') (undotted : char ≠ '.')
    (rest : Text) : trimReversed (char :: rest) = char :: rest := by
  rw [trimReversed]
  all_goals simp [named, undotted]

theorem exists_join_eq_append (base : Path) {tail : Path} (relative : isAbsolute tail = false) :
    ∃ before, join base tail = before ++ tail ∧ ∀ last ∈ before.getLast?, last = '/' := by
  unfold join
  rw [relative, if_neg Bool.false_ne_true]
  split
  · rename_i ends
    refine ⟨base, rfl, ?_⟩
    intro last isLast
    cases base with
    | nil => cases isLast
    | cons char base => simpa [Option.mem_def.mp isLast] using ends
  · exact ⟨base ++ ['/'], by simp, by simp⟩

/-- The last segment of a path below a base is the name below the base. -/
theorem fileName?_join (base : Path) {start : Text} {last : Char} (plain : '/' ∉ start ++ [last])
    (undotted : last ≠ '.') : fileName? (join base (start ++ [last])) = some (start ++ [last]) := by
  rcases exists_join_eq_append base (isAbsolute_of_not_mem plain) with ⟨before, joined, slash⟩
  have named : last ≠ '/' := by
    rintro rfl
    simp at plain
  have inside : ∀ char ∈ last :: start.reverse, (char != '/') = true := by
    intro char member
    rw [bne_iff_ne]
    rintro rfl
    apply plain
    simpa [or_comm] using member
  have stops : ∀ char ∈ before.reverse.head?, (char != '/') = false := by
    intro char first
    rw [List.head?_reverse] at first
    simp [slash char first]
  have taken := (Text.span_append inside stops).1
  have trimmed := trimReversed_cons named undotted (start.reverse ++ before.reverse)
  have reversed : (join base (start ++ [last])).reverse =
      last :: (start.reverse ++ before.reverse) := by simp [joined]
  have name : ((trimReversed (join base (start ++ [last])).reverse).takeWhile (· != '/')).reverse =
      start ++ [last] := by
    rw [reversed, trimmed, ← List.cons_append, taken]
    simp
  have unlike : ∀ dots : Text, start ++ [last] ≠ dots ++ ['.'] := by
    intro dots same
    have ends := List.append_inj_right' same rfl
    exact undotted (List.singleton_inj.mp ends)
  have one : start ++ [last] ≠ ['.'] := unlike []
  have two : start ++ [last] ≠ ['.', '.'] := unlike ['.']
  unfold fileName?
  simp only [name, one, two]
  simp

/-- What follows the only dot of a name, unless the name begins with it, is the extension. -/
theorem extension?_join (base : Path) {stem extension : Text}
    (plain : '/' ∉ stem ++ '.' :: extension) (begun : stem ≠ []) (ended : extension ≠ [])
    (undotted : '.' ∉ extension) :
    extension? (join base (stem ++ '.' :: extension)) = some extension := by
  rcases List.eq_nil_or_concat' extension with rfl | ⟨start, last, rfl⟩
  · exact absurd rfl ended
  · have written : stem ++ '.' :: (start ++ [last]) = (stem ++ '.' :: start) ++ [last] := by simp
    have distinct : last ≠ '.' := by
      rintro rfl
      simp at undotted
    have inside : ∀ char ∈ (start ++ [last]).reverse, (char != '.') = true := by
      intro char member
      rw [bne_iff_ne]
      rintro rfl
      exact undotted (List.mem_reverse.mp member)
    have stops : ∀ char ∈ ('.' :: stem.reverse).head?, (char != '.') = false := by simp
    rcases Text.span_append inside stops with ⟨taken, dropped⟩
    rw [written] at plain ⊢
    rw [extension?, fileName?_join base plain distinct, ← written]
    have reversed : (stem ++ '.' :: (start ++ [last])).reverse =
        (start ++ [last]).reverse ++ '.' :: stem.reverse := by simp
    simp only [Option.bind_eq_bind, Option.bind_some, reversed, taken, dropped]
    cases back : stem.reverse with
    | nil => exact absurd (List.reverse_eq_nil_iff.mp back) begun
    | cons char rest => simp

end Path

namespace Scratch

variable {raw owner document : Text} {stamp : Stamp} {char : Char}

/-- What stands in a scratch name before the dot. -/
def stem (owner document : Text) (stamp : Stamp) : Text :=
  sanitize owner ++ '-' :: sanitize document ++ '-' :: Text.ofNat stamp.millis ++
    '-' :: stamp.random

theorem fileName_eq (owner document : Text) (format : OutputFormat) (stamp : Stamp) :
    fileName owner document format stamp =
      stem owner document stamp ++ '.' :: format.extension := by
  simp [fileName, stem]

theorem sanitize_of_ne_nil (given : raw ≠ []) :
    sanitize raw = raw.map fun char => if isSafe char then char else '_' := by
  cases raw with
  | nil => exact absurd rfl given
  | cons char rest => rfl

/-- A text that stands for another one in a name.  There is one character for each, the same where
it is safe, and a single underscore for no characters at all. -/
structure StandsFor (raw written : Text) : Prop where
  safe : ∀ char ∈ written, isSafe char = true
  length : written.length = max 1 raw.length
  empty : raw = [] → written = ['_']
  kept : ∀ (place : Nat) (char : Char), raw[place]? = some char → isSafe char = true →
    written[place]? = some char

theorem standsFor_sanitize (raw : Text) : StandsFor raw (sanitize raw) := by
  by_cases given : raw = []
  · subst given
    exact ⟨by simp [sanitize, isSafe], rfl, fun _ => rfl, by simp⟩
  · have mapped := sanitize_of_ne_nil given
    refine ⟨?_, ?_, fun empty => absurd empty given, ?_⟩
    · intro char member
      rw [mapped] at member
      rcases List.mem_map.mp member with ⟨other, _, rfl⟩
      split
      · assumption
      · rfl
    · have positive := List.length_pos_iff.mpr given
      rw [mapped, List.length_map]
      omega
    · intro place char found safe
      simp [mapped, found, safe]

theorem sanitize_ne_nil (raw : Text) : sanitize raw ≠ [] := by
  have length := (standsFor_sanitize raw).length
  apply List.ne_nil_of_length_pos
  omega

/-- What is safe stays as it is. -/
theorem sanitize_eq_self (given : raw ≠ []) (safe : ∀ char ∈ raw, isSafe char = true) :
    sanitize raw = raw := by
  have same : ∀ char ∈ raw, (if isSafe char then char else '_') = id char := by
    intro char member
    simp [safe char member]
  rw [sanitize_of_ne_nil given, List.map_congr_left same, List.map_id]

theorem sanitize_sanitize (raw : Text) : sanitize (sanitize raw) = sanitize raw :=
  sanitize_eq_self (sanitize_ne_nil raw) (standsFor_sanitize raw).safe

theorem isSafe_of_mem_stem (member : char ∈ stem owner document stamp) : isSafe char = true := by
  have number : char ∈ Text.ofNat stamp.millis → isSafe char = true := by
    intro member
    have digit := Nat.isDigit_of_mem_toDigits (by decide) (by decide) member
    simp [isSafe, Char.isAlphanum, digit]
  have random : char ∈ stamp.random → isSafe char = true := by
    intro member
    simp [isSafe, List.all_eq_true.mp stamp.random_alphanum char member]
  simp only [stem, List.mem_append, List.mem_cons] at member
  rcases member with ((fromOwner | rfl | fromDocument) | rfl | fromNumber) | rfl | fromRandom
  · exact (standsFor_sanitize owner).safe char fromOwner
  · rfl
  · exact (standsFor_sanitize document).safe char fromDocument
  · rfl
  · exact number fromNumber
  · rfl
  · exact random fromRandom

/-- A scratch name ends with the extension of a format. -/
theorem exists_getLast?_fileName (owner document : Text) (format : OutputFormat) (stamp : Stamp) :
    ∃ char, (fileName owner document format stamp).getLast? = some char ∧ char ≠ '/' := by
  rw [fileName_eq, List.getLast?_append]
  cases format with
  | pdf => exact ⟨'f', rfl, by decide⟩
  | tex => exact ⟨'x', rfl, by decide⟩

theorem stem_ne_nil (owner document : Text) (stamp : Stamp) : stem owner document stamp ≠ [] := by
  simp [stem]

/-- A scratch name is a single name. -/
theorem slash_not_mem_fileName (owner document : Text) (format : OutputFormat) (stamp : Stamp) :
    '/' ∉ fileName owner document format stamp := by
  have stem : '/' ∉ stem owner document stamp := by
    intro member
    cases isSafe_of_mem_stem member
  have extension : '/' ∉ format.extension := by cases format <;> decide
  simp [fileName_eq, stem, extension]

/-- A scratch name leads to a place in the directory that it is looked for in. -/
theorem place_join_fileName (files : Files) (base : Path) (owner document : Text)
    (format : OutputFormat) (stamp : Stamp) :
    files.place (Path.join base (fileName owner document format stamp)) =
      files.place base ++ [fileName owner document format stamp] := by
  have dash : '-' ∈ fileName owner document format stamp := by simp [fileName]
  apply Files.place_join_name files base (slash_not_mem_fileName owner document format stamp)
  · exact List.ne_nil_of_mem dash
  · intro dots
    simp [dots] at dash
  · intro dots
    simp [dots] at dash

/-- The media type that a scratch file is sent with is that of its format. -/
theorem contentType_join_fileName (base : Path) (owner document : Text) (format : OutputFormat)
    (stamp : Stamp) :
    Path.contentType (Path.join base (fileName owner document format stamp)) =
      format.contentType := by
  have plain := slash_not_mem_fileName owner document format stamp
  rw [fileName_eq] at plain ⊢
  have ended : format.extension ≠ [] := by cases format <;> decide
  have undotted : '.' ∉ format.extension := by cases format <;> decide
  rw [Path.contentType,
    Path.extension?_join base plain (stem_ne_nil owner document stamp) ended undotted]
  cases format <;> rfl

end Scratch

end Typeset
