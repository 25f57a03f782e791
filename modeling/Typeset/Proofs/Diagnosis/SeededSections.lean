import Mathlib.Data.List.Infix
import Typeset.Proofs.Diagnosis.Attribution
import Typeset.Proofs.LabelIndex.Entries
import Typeset.Proofs.LabelPattern.Marker

/-!
# Seeded sections are found again

A document whose sections are seeded with markers is diagnosed by the sections that its author
wrote.  The markers that the standard pattern finds are the seeded ones, because no marker can begin
in the text between them: what a marker begins with holds a backslash at its start only, so it
cannot begin in one stretch and go on in the marker that follows.

The entries of the index are therefore the start, one entry for each section and the end.  Their
lines do not decrease, so the entry before the first one on or after a line is the section that the
line is in.
-/

namespace Typeset

open LabelPattern

/-- A section of a document: the label of its marker, and the text up to the next marker. -/
structure SeededSection where
  label : Text
  body : Text
  label_plain : ∀ char ∈ label, char ≠ '\x7d' ∧ char ≠ '\r' ∧ char ≠ '\n'
  body_clear : ¬markerLead <:+: body

/-- A document whose sections are seeded with markers. -/
structure SeededDocument where
  preamble : Text
  sections : List SeededSection
  preamble_clear : ¬markerLead <:+: preamble

namespace SeededSection

/-- The section as it stands in a transcript. -/
def text (part : SeededSection) : Text :=
  marker part.label ++ part.body

/-- The match of the standard pattern that the section begins with. -/
def hit (part : SeededSection) : Pattern.Match :=
  ⟨marker part.label, [(1, part.label)]⟩

theorem isLabel (part : SeededSection) : IsLabel part.label := by
  constructor
  · intro closing
    exact (part.label_plain _ closing).1 rfl
  · intro lineFeed
    exact (part.label_plain _ lineFeed).2.2 rfl

end SeededSection

namespace SeededDocument

/-- What stands before the marker of a section. -/
def before (document : SeededDocument) (position : Nat) : Text :=
  document.preamble ++ (document.sections.take position).flatMap SeededSection.text

/-- The whole document. -/
def transcript (document : SeededDocument) : Text :=
  document.preamble ++ document.sections.flatMap SeededSection.text

/-- The line of the marker of a section; after the last section, the number of lines. -/
def markerLine (document : SeededDocument) (position : Nat) : Nat :=
  if position < document.sections.length then
    document.transcript.lineAt (document.before position).length
  else document.transcript.lineCount

/-- Whether the marker of a section is the first marker on a line. -/
def IsFirstMarkerOn (document : SeededDocument) (position line : Nat) : Prop :=
  document.markerLine position = line ∧
    ∀ earlier < position, document.markerLine earlier ≠ line

end SeededDocument

/-- A marker that begins in a stretch of text lies in it, if a marker or nothing follows. -/
theorem not_opensMarker_of_clear {first : Text} {char : Char} {second rest : Text}
    (clear : ¬markerLead <:+: first ++ char :: second) (next : ∀ head ∈ rest.head?, head = '\\') :
    ¬OpensMarker (char :: (second ++ rest)) := by
  rintro ⟨label, more, _, opened⟩
  rw [marker_append] at opened
  have aligned : (char :: second) ++ rest = markerLead ++ (label ++ '\x7d' :: more) := opened
  rcases List.append_eq_append_iff.mp aligned with ⟨tail, lead, shifted⟩ | ⟨tail, inside, _⟩
  · cases tail with
    | nil =>
        rw [List.append_nil] at lead
        exact clear ⟨first, [], by rw [lead, List.append_nil]⟩
    | cons head tail =>
        have backslash : head = '\\' := next head (by rw [shifted]; simp)
        have later : '\\' ∈ markerLead.tail := by
          rw [lead, backslash]
          simp
        exact absurd later (by decide)
  · exact clear ⟨first, tail, by rw [inside, List.append_assoc]⟩

theorem pieces_clear_append {stretch rest : Text} (clear : ¬markerLead <:+: stretch)
    (next : ∀ head ∈ rest.head?, head = '\\') :
    standard.pieces (stretch ++ rest) = stretch.map .plain ++ standard.pieces rest := by
  apply solid_standard.pieces_append
  intro first char second split
  rw [matchAt_eq_none_iff]
  rw [split] at clear
  exact not_opensMarker_of_clear clear next

theorem head?_flatMap_text (sections : List SeededSection) :
    ∀ head ∈ (sections.flatMap SeededSection.text).head?, head = '\\' := by
  intro head leading
  cases sections with
  | nil => simp at leading
  | cons part sections =>
      have shape : markerLead.head? = some '\\' := rfl
      simpa [SeededSection.text, marker, shape, eq_comm] using leading

theorem pieces_flatMap_text (sections : List SeededSection) :
    standard.pieces (sections.flatMap SeededSection.text) =
      sections.flatMap fun part => .found part.hit :: part.body.map .plain := by
  induction sections with
  | nil => exact solid_standard.pieces_nil
  | cons part sections ih =>
      have cleared := pieces_clear_append part.body_clear (head?_flatMap_text sections)
      rw [List.flatMap_cons, List.flatMap_cons, SeededSection.text, List.append_assoc,
        pieces_marker_append part.isLabel, cleared, ih]
      rfl

theorem located_flatMap (sections : List SeededSection) (place : Nat) :
    Pattern.located place
        (sections.flatMap fun part => .found part.hit :: part.body.map .plain) =
      sections.mapIdx fun position part =>
        (place + ((sections.take position).flatMap SeededSection.text).length, part.hit) := by
  induction sections generalizing place with
  | nil => rfl
  | cons part sections ih =>
      have body : ((part.body.map Pattern.Piece.plain).flatMap Pattern.Piece.text).length =
          part.body.length := by
        simp [List.flatMap_map, Pattern.Piece.text]
      rw [List.flatMap_cons, List.cons_append, Pattern.located, Pattern.located_append,
        Pattern.located_map_plain, body, ih, List.mapIdx_cons]
      simp [SeededSection.text, SeededSection.hit, Nat.add_assoc]

namespace SeededDocument

variable (document : SeededDocument)

/-- The index that the standard pattern gives to the transcript. -/
def index : LabelIndex :=
  LabelIndex.build document.transcript standard

theorem pieces_transcript :
    standard.pieces document.transcript =
      document.preamble.map .plain ++
        document.sections.flatMap fun part => .found part.hit :: part.body.map .plain := by
  rw [transcript, pieces_clear_append document.preamble_clear (head?_flatMap_text _),
    pieces_flatMap_text]

/-- The index holds the start, the sections in order, each on the line of its marker, and the
end. -/
theorem entries_index :
    document.index.entries =
      ⟨1, LabelIndex.startLabel⟩ ::
        (document.sections.mapIdx fun position part =>
          ⟨document.transcript.lineAt (document.before position).length, part.label⟩) ++
          [⟨document.transcript.lineCount, LabelIndex.endLabel⟩] := by
  have preamble : (document.preamble.map Pattern.Piece.plain).flatMap Pattern.Piece.text =
      document.preamble := by
    simp [List.flatMap_map, Pattern.Piece.text]
  rw [index, LabelIndex.entries_build, pieces_transcript, Pattern.located_append,
    Pattern.located_map_plain, preamble, located_flatMap, List.nil_append]
  congr 2
  apply List.ext_getElem
  · simp
  · intro position _ _
    simp [LabelIndex.entryAt, LabelIndex.labelOf, Pattern.Match.capture?, SeededSection.hit, before]

theorem size_index : document.index.size = document.sections.length + 2 := by
  simp [LabelIndex.size, entries_index]

theorem label_getElem_index {position : Nat} (within : position < document.sections.length)
    (present : position + 1 < document.index.entries.length) :
    document.index.entries[position + 1].label = document.sections[position].label := by
  simp [entries_index, within]

theorem line_getElem_index {position : Nat} (within : position ≤ document.sections.length)
    (present : position + 1 < document.index.entries.length) :
    document.index.entries[position + 1].line = document.markerLine position := by
  rcases Nat.lt_or_eq_of_le within with inside | rfl
  · simp [entries_index, markerLine, inside]
  · simp [entries_index, markerLine]

theorem length_before_le {position later : Nat} (ordered : position ≤ later) :
    (document.before position).length ≤ (document.before later).length := by
  have shorter := (List.take_prefix_take_left (l := document.sections) ordered).flatMap
    SeededSection.text
  simp only [before, List.length_append]
  exact Nat.add_le_add_left shorter.length_le _

theorem length_before_le_length (position : Nat) :
    (document.before position).length ≤ document.transcript.length := by
  have shorter := (List.take_prefix position document.sections).flatMap SeededSection.text
  simp only [before, transcript, List.length_append]
  exact Nat.add_le_add_left shorter.length_le _

theorem markerLine_le_lineCount (position : Nat) :
    document.markerLine position ≤ document.transcript.lineCount := by
  rw [markerLine]
  split
  · exact Text.lineAt_le_lineCount _ (document.length_before_le_length position)
  · exact Nat.le_refl _

/-- The markers stand on their lines in order. -/
theorem markerLine_le_markerLine {position later : Nat} (ordered : position ≤ later) :
    document.markerLine position ≤ document.markerLine later := by
  by_cases inside : later < document.sections.length
  · rw [markerLine, markerLine, if_pos inside, if_pos (Nat.lt_of_le_of_lt ordered inside)]
    exact Text.lineAt_le_lineAt _ (document.length_before_le ordered)
  · have last : document.markerLine later = document.transcript.lineCount := if_neg inside
    rw [last]
    exact document.markerLine_le_lineCount position

/-- A line after all markers before a section and not after its own leads to its entry. -/
theorem firstAtOrAfter?_index {line position : Nat} (within : position ≤ document.sections.length)
    (later : 2 ≤ line) (reached : line ≤ document.markerLine position)
    (passed : ∀ earlier < position, document.markerLine earlier < line) :
    document.index.firstAtOrAfter? line = some (position + 1) := by
  have size := document.size_index
  rw [LabelIndex.size] at size
  have present : position + 1 < document.index.entries.length := by omega
  apply LabelIndex.firstAtOrAfter?_eq_some present
  · rw [document.line_getElem_index within present]
    exact reached
  · intro other before
    cases other with
    | zero =>
        have start : document.index.entries[0].line = 1 := by
          simp [entries_index]
        omega
    | succ earlier =>
        rw [document.line_getElem_index (by omega) (by omega)]
        exact passed earlier (by omega)

/-- The section that the diagnosis of an error names. -/
def sectionOf? (rawError : Text) (showDebug : Bool) : Option Text :=
  (Diagnosis.diagnose rawError document.transcript standard showDebug).sectionLabel?

theorem sectionOf?_eq {rawError : Text} {reference : LineReference}
    (first : reference.IsFirstIn rawError) {found target : Nat}
    (search : document.index.firstAtOrAfter? reference.line = some found)
    (step : found + (standard.opens reference.fragment).toNat = target + 1)
    (within : target < document.index.entries.length) (showDebug : Bool) :
    document.sectionOf? rawError showDebug = some document.index.entries[target].label := by
  have located := Diagnosis.locate_eq search step within
  rw [sectionOf?, Diagnosis.sectionLabel?_diagnose first]
  change some (Diagnosis.labelAt (Diagnosis.locate document.index reference.line
    (standard.opens reference.fragment)).1 (Diagnosis.locate document.index reference.line
    (standard.opens reference.fragment)).2) = _
  rw [located, Diagnosis.labelAt_eq within]

/-- A failure on a line is attributed to the section that the line is in: the last one whose marker
is on an earlier line, or the start if there is none. If the fragment opens a marker, the failure is
attributed to the section of the first marker on the line.

The lines of a transcript have numbers, as a text in memory has fewer bytes than there are
numbers. -/
theorem sectionOf?_of_line (numbered : document.transcript.lineCount ≤ LineReference.maxLine)
    {rawError : Text} {reference : LineReference} (first : reference.IsFirstIn rawError)
    {line : Nat} (number : Text.toNat? reference.digits = some line) (showDebug : Bool) :
    (¬OpensMarker reference.fragment →
      (∀ position (within : position < document.sections.length),
        document.markerLine position < line → line ≤ document.markerLine (position + 1) →
          document.sectionOf? rawError showDebug = some document.sections[position].label) ∧
      (2 ≤ line → line ≤ document.markerLine 0 →
        document.sectionOf? rawError showDebug = some LabelIndex.startLabel)) ∧
    (OpensMarker reference.fragment → 2 ≤ line →
      ∀ position (within : position < document.sections.length),
        document.IsFirstMarkerOn position line →
          document.sectionOf? rawError showDebug = some document.sections[position].label) := by
  have size := document.size_index
  rw [LabelIndex.size] at size
  have referred (position : Nat) (reached : line ≤ document.markerLine position) :
      reference.line = line := by
    have counted := document.markerLine_le_lineCount position
    exact LineReference.line_eq number (by omega)
  constructor
  · intro closed
    have shut : standard.opens reference.fragment = false := by
      rw [← Bool.not_eq_true, opens_iff]
      exact closed
    constructor
    · intro position within after reached
      have marked : 1 ≤ document.markerLine position := by
        rw [markerLine, if_pos within]
        exact Text.one_le_lineAt _ _
      have search := document.firstAtOrAfter?_index within (by omega) reached (by
        intro earlier before
        have ordered := document.markerLine_le_markerLine (Nat.le_of_lt_succ before)
        omega)
      rw [← referred _ reached] at search
      have present : position + 1 < document.index.entries.length := by omega
      rw [document.sectionOf?_eq first search (by simp [shut]) present,
        document.label_getElem_index within]
    · intro later reached
      have search := document.firstAtOrAfter?_index (Nat.zero_le _) later reached (by
        intro earlier before
        exact absurd before (Nat.not_lt_zero earlier))
      rw [← referred _ reached] at search
      have present : 0 < document.index.entries.length := by omega
      rw [document.sectionOf?_eq first search (by simp [shut]) present]
      simp [entries_index]
  · intro opened later position within marker
    rcases marker with ⟨here, others⟩
    have opens : standard.opens reference.fragment = true := opens_iff.mpr opened
    have reached : line ≤ document.markerLine position := Nat.le_of_eq here.symm
    have search := document.firstAtOrAfter?_index (Nat.le_of_lt within) later reached (by
      intro earlier before
      have ordered := document.markerLine_le_markerLine (Nat.le_of_lt before)
      have apart := others earlier before
      omega)
    rw [← referred _ reached] at search
    have present : position + 1 < document.index.entries.length := by omega
    rw [document.sectionOf?_eq first search (by simp [opens]) present,
      document.label_getElem_index within]

/-- A document with line ends of every kind and two markers on its fourth line. -/
def mixed : SeededDocument where
  preamble := "intro\r\n".toList
  sections :=
    [⟨['1'], "\nfoo\r".toList, by simp, by decide +kernel⟩,
      ⟨['2'], [], by simp, by decide +kernel⟩,
      ⟨['3'], " bar\n".toList, by simp, by decide +kernel⟩]
  preamble_clear := by decide +kernel

theorem sectionOf?_mixed :
    mixed.sectionOf? "! Oops. l.3 \\foo".toList false = some ['1'] ∧
      mixed.sectionOf? "! Oops. l.4 \\lambdalabel\x7bQ2\x7d x".toList false = some ['2'] := by
  have numbered : mixed.transcript.lineCount ≤ LineReference.maxLine := by decide +kernel
  constructor
  · have first : LineReference.IsFirstIn ⟨"! Oops. ".toList, ['3'], " \\foo".toList⟩
        "! Oops. l.3 \\foo".toList :=
      LineReference.isFirstIn_of_find? (by decide +kernel)
    have number : Text.toNat? ['3'] = some 3 := by decide
    have closed : ¬OpensMarker "\\foo".toList := by
      rw [← opens_iff]
      decide +kernel
    exact ((mixed.sectionOf?_of_line numbered first number false).1 closed).1 0
      (by decide) (by decide +kernel) (by decide +kernel)
  · have first : LineReference.IsFirstIn
        ⟨"! Oops. ".toList, ['4'], " \\lambdalabel\x7bQ2\x7d x".toList⟩
        "! Oops. l.4 \\lambdalabel\x7bQ2\x7d x".toList :=
      LineReference.isFirstIn_of_find? (by decide +kernel)
    have number : Text.toNat? ['4'] = some 4 := by decide
    have opened : OpensMarker "\\lambdalabel\x7bQ2\x7d x".toList := by
      rw [← opens_iff]
      decide +kernel
    exact (mixed.sectionOf?_of_line numbered first number false).2 opened
      (by decide) 1 (by decide) ⟨by decide +kernel, by decide +kernel⟩

end SeededDocument

end Typeset
