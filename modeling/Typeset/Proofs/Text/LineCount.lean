import Typeset.Proofs.Text.LineEnds
import Typeset.Proofs.Text.Utf8

/-!
# Counting lines

Lines are counted by their ends, and whether a CR ends a line depends on what follows it.  So the
count is no sum over characters: the breaks of two stretches add up only if the first is told what
the second begins with, and a CRLF that is cut in two has two ends where the whole has one.

Nothing else depends on how lines end.  A text has as many lines as its unified form, in which LF
is the only end, and there the breaks are just the line feeds.  It does not matter either whether
the characters are gone through or the bytes that they are written as, because no byte of a
character outside ASCII is a CR or an LF.
-/

namespace Typeset

namespace Text

/-- The text with LF for every CRLF. -/
def withoutCrlf : Text → Text
  | [] => []
  | '\r' :: '\n' :: rest => '\n' :: withoutCrlf rest
  | char :: rest => char :: withoutCrlf rest

/-- The text with LF for every CRLF, and then for every CR that is left. -/
def unified (text : Text) : Text :=
  text.withoutCrlf.map fun char => if char = '\r' then '\n' else char

variable {text : Text}

/-- A CR counts at the LF after it. -/
theorem isLineBreak_none (char : Char) (next : Option Char) :
    (isLineBreak char next).toNat + (if char = '\r' ∧ next = some '\n' then 1 else 0) =
      (isLineBreak char none).toNat := by
  by_cases returned : char = '\r'
  · subst returned
    by_cases fed : next = some '\n'
    · subst fed
      rfl
    · have last : (none : Option Char) != some '\n' := rfl
      simp [isLineBreak, fed, last]
  · have other : (char == '\r') = false := by simpa using returned
    simp [isLineBreak, returned, other]

/-- A stretch that stops inside a CRLF has one break less than it has by itself. -/
theorem lineBreaks_none (next : Option Char) (stretch : Text) :
    lineBreaks next stretch +
        (if stretch.getLast? = some '\r' ∧ next = some '\n' then 1 else 0) =
      lineBreaks none stretch := by
  rcases stretch.eq_nil_or_concat with rfl | ⟨before, last, rfl⟩
  · simp
  · have ended := isLineBreak_none last next
    simp only [List.concat_eq_append, lineBreaks_append, List.getLast?_concat, Option.some.injEq]
    simpa [lineBreaks, Nat.add_assoc] using ended

theorem lineCount_append (first second : Text) :
    (first ++ second).lineCount +
        (if first.getLast? = some '\r' ∧ second.head? = some '\n' then 2 else 1) =
      first.lineCount + second.lineCount := by
  have told := lineBreaks_none second.head? first
  simp only [lineCount, lineBreaks_append, Option.or_none]
  split at told
  · rw [if_pos ‹_›]
    omega
  · rw [if_neg ‹_›]
    omega

theorem not_mem_unified : '\r' ∉ text.unified := by
  intro member
  rcases List.mem_map.mp member with ⟨char, _, same⟩
  split at same
  · cases same
  · contradiction

theorem lineBreaks_eq_count_of_not_mem (next : Option Char) (plain : '\r' ∉ text) :
    lineBreaks next text = text.count '\n' := by
  induction text with
  | nil => rfl
  | cons char rest ih =>
      rw [List.mem_cons, not_or] at plain
      have unreturned : ¬char = '\r' := Ne.symm plain.1
      simp only [lineBreaks, ih plain.2, List.count_cons, isLineBreak]
      by_cases fed : char = '\n'
      · simp [fed, Nat.add_comm]
      · simp [fed, unreturned]

/-- Every break of a text is a line feed of its unified form. -/
theorem lineBreaks_eq_count (text : Text) : lineBreaks none text = text.unified.count '\n' := by
  unfold unified
  induction text using withoutCrlf.induct with
  | case1 => rfl
  | case2 rest ih => simp [withoutCrlf, lineBreaks, isLineBreak, ih, Nat.add_comm]
  | case3 char rest single ih =>
      have ends : isLineBreak char rest.head? = ((if char = '\r' then '\n' else char) == '\n') := by
        by_cases returned : char = '\r'
        · subst returned
          cases rest with
          | nil => rfl
          | cons next rest =>
              have unfed : next ≠ '\n' := by
                rintro rfl
                exact single rest rfl rfl
              simp [isLineBreak, unfed]
        · simp [isLineBreak, returned]
      rw [withoutCrlf, lineBreaks, Option.or_none, ih, ends, List.map_cons, List.count_cons,
        Nat.add_comm]
      · cases (if char = '\r' then '\n' else char) == '\n' <;> rfl
      · exact single

theorem lineCount_unified (text : Text) : text.unified.lineCount = text.lineCount := by
  rw [lineCount, lineCount, lineBreaks_eq_count_of_not_mem none not_mem_unified,
    lineBreaks_eq_count]

end Text

namespace Utf8

/-- Whether a byte ends a line, given the one that follows it. -/
def isLineBreak (byte : UInt8) (next : Option UInt8) : Bool :=
  byte == 0x0A || (byte == 0x0D && next != some 0x0A)

/-- The number of line breaks among bytes. -/
def lineBreaks : Bytes → Nat
  | [] => 0
  | byte :: rest => (isLineBreak byte rest.head?).toNat + lineBreaks rest

variable {char : Char}

theorem utf8EncodeChar_of_ascii (ascii : char.toNat < 128) :
    String.utf8EncodeChar char = [UInt8.ofNat char.toNat] := by
  unfold String.utf8EncodeChar
  have small : char.val.toNat ≤ 127 := Nat.le_of_lt_succ ascii
  simp only [small, if_true]
  rfl

theorem le_of_mem_utf8EncodeChar (other : 128 ≤ char.toNat) :
    ∀ byte ∈ String.utf8EncodeChar char, 128 ≤ byte.toNat := by
  have large : ¬char.val.toNat ≤ 127 := Nat.not_le_of_lt other
  intro byte member
  unfold String.utf8EncodeChar at member
  simp only [large, if_false] at member
  split at member
  · simp only [List.mem_cons, List.not_mem_nil, or_false] at member
    rcases member with rfl | rfl <;> simp <;> omega
  · split at member
    · simp only [List.mem_cons, List.not_mem_nil, or_false] at member
      rcases member with rfl | rfl | rfl <;> simp <;> omega
    · simp only [List.mem_cons, List.not_mem_nil, or_false] at member
      rcases member with rfl | rfl | rfl | rfl <;> simp <;> omega

theorem lineBreaks_append_of_le {first : Bytes} (large : ∀ byte ∈ first, 128 ≤ byte.toNat)
    (rest : Bytes) : lineBreaks (first ++ rest) = lineBreaks rest := by
  induction first with
  | nil => rfl
  | cons byte first ih =>
      rw [List.forall_mem_cons] at large
      have unbroken : isLineBreak byte (first ++ rest).head? = false := by
        have fed : byte ≠ 0x0A := by
          rintro rfl
          exact absurd large.1 (by decide)
        have returned : byte ≠ 0x0D := by
          rintro rfl
          exact absurd large.1 (by decide)
        simp [isLineBreak, fed, returned]
      rw [List.cons_append, lineBreaks, unbroken, ih large.2]
      simp

/-- An ASCII character comes next in the bytes just if it comes next in the text. -/
theorem head?_toUtf8 (ascii : char.toNat < 128) (text : Text) :
    text.toUtf8.head? = some (UInt8.ofNat char.toNat) ↔ text.head? = some char := by
  cases text with
  | nil => simp
  | cons first rest =>
      rw [Text.toUtf8_cons]
      by_cases small : first.toNat < 128
      · rw [utf8EncodeChar_of_ascii small]
        simp [← UInt8.toNat_inj, ← Char.toNat_inj]
        omega
      · cases written : String.utf8EncodeChar first with
        | nil => simp [String.utf8EncodeChar_ne_nil] at written
        | cons byte bytes =>
            have large := le_of_mem_utf8EncodeChar (Nat.le_of_not_lt small) byte (by simp [written])
            simp [← UInt8.toNat_inj, ← Char.toNat_inj]
            omega

theorem lineBreaks_cons_of_ascii (ascii : char.toNat < 128) (rest : Text) :
    isLineBreak (UInt8.ofNat char.toNat) rest.toUtf8.head? =
      Typeset.isLineBreak char rest.head? := by
  have lineFeed : rest.toUtf8.head? = some 0x0A ↔ rest.head? = some '\n' :=
    @head?_toUtf8 '\n' (by decide) rest
  have here (other : Char) (small : other.toNat < 128) :
      UInt8.ofNat char.toNat = UInt8.ofNat other.toNat ↔ char = other := by
    simpa [utf8EncodeChar_of_ascii ascii] using head?_toUtf8 small [char]
  have fed : UInt8.ofNat char.toNat = 0x0A ↔ char = '\n' := here '\n' (by decide)
  have returned : UInt8.ofNat char.toNat = 0x0D ↔ char = '\r' := here '\r' (by decide)
  rw [Bool.eq_iff_iff]
  simp [isLineBreak, Typeset.isLineBreak, fed, returned, lineFeed]

theorem lineBreaks_toUtf8 (text : Text) : lineBreaks text.toUtf8 = text.lineBreaks none := by
  induction text with
  | nil => rfl
  | cons char rest ih =>
      rw [Text.toUtf8_cons, Text.lineBreaks, Option.or_none]
      by_cases ascii : char.toNat < 128
      · rw [utf8EncodeChar_of_ascii ascii, List.singleton_append, lineBreaks, ih,
          lineBreaks_cons_of_ascii ascii]
      · have large : 128 ≤ char.toNat := Nat.le_of_not_lt ascii
        have unbroken : Typeset.isLineBreak char rest.head? = false := by
          apply Text.isLineBreak_of_ne
          · rintro rfl
            exact ascii (by decide)
          · rintro rfl
            exact ascii (by decide)
        rw [lineBreaks_append_of_le (le_of_mem_utf8EncodeChar large), ih, unbroken]
        simp

end Utf8

/-- Lines add up, one being shared by two texts that are put together, and one more if a CRLF is put
together; and texts that differ only in how lines end have equally many. -/
theorem Text.lineCount_adds_up :
    (∀ first second : Text,
      (first ++ second).lineCount +
          (if first.getLast? = some '\r' ∧ second.head? = some '\n' then 2 else 1) =
        first.lineCount + second.lineCount) ∧
      ∀ text : Text,
        text.unified.lineCount = text.lineCount ∧
          text.lineCount = text.unified.count '\n' + 1 ∧
          text.lineCount = Utf8.lineBreaks text.toUtf8 + 1 := by
  refine ⟨lineCount_append, ?_⟩
  intro text
  refine ⟨lineCount_unified text, ?_, ?_⟩
  · rw [lineCount, lineBreaks_eq_count]
  · rw [lineCount, Utf8.lineBreaks_toUtf8]

end Typeset
