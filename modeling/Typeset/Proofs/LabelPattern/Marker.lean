import Mathlib.Data.List.Basic
import Typeset.LabelPattern
import Typeset.Proofs.Pattern.Pieces

/-!
# Markers

The standard label pattern matches markers and nothing else: at a place there is a match exactly if
a marker begins there, and the match is that marker, with its label as the first group. Because a
label holds no closing brace and no line feed, a text begins with at most one marker.

The pattern repeats a set lazily. Such a repetition stops at the first place from which the rest of
the pattern matches, and for the standard pattern that is the place before the first closing brace.
-/

namespace Typeset

namespace Pattern

namespace CharSet

@[simp]
theorem contains_single (char other : Char) : (single char).contains other = (char == other) := by
  have bounds : char.toNat ≤ other.toNat ∧ other.toNat ≤ char.toNat ↔ char = other := by
    constructor
    · intro both
      exact Char.toNat_inj.mp (Nat.le_antisymm both.1 both.2)
    · rintro rfl
      exact ⟨Nat.le_refl _, Nat.le_refl _⟩
  rw [Bool.eq_iff_iff, beq_iff_eq, ← bounds]
  simp [contains, single, between, containsCode, CodeRanges.contains]

@[simp]
theorem contains_complement (set : CharSet) (char : Char) :
    (complement set).contains char = !set.contains char := rfl

end CharSet

namespace Place

/-- The place after a stretch of the text, given what is left then. -/
def advance (place : Place) (stretch rest : Text) : Place :=
  { place with
    before := stretch.getLast?.or place.before, rest, taken := place.taken + stretch.length }

@[simp]
theorem capture_rest (place : Place) (index : Nat) (start : Place) :
    (place.capture index start).rest = place.rest := rfl

@[simp]
theorem advance_nil (place : Place) : place.advance [] place.rest = place := by
  simp [advance]

theorem next_advance (place : Place) (char : Char) (between stretch rest : Text) :
    (place.next char between).advance stretch rest = place.advance (char :: stretch) rest := by
  simp only [advance, next, List.getLast?_cons, List.length_cons]
  cases stretch.getLast? <;> simp <;> omega

end Place

theorem Node.run_one (set : CharSet) (next : Continuation) (place : Place) :
    (one set).run next place =
      match place.rest with
      | [] => none
      | char :: rest => if set.contains char then next (place.next char rest) else none := by
  unfold run
  rfl

/-- A lazy repetition of a set tries what follows it, and otherwise takes one more character.  The
bound on further rounds counts the characters left, so it is never what ends them. -/
theorem Node.run_lazy (set : CharSet) (next : Continuation) (place : Place) :
    (repeated (.one set) 0 none false).run next place =
      (next place <|>
        match place.rest with
        | [] => none
        | char :: rest =>
            if set.contains char then
              (repeated (.one set) 0 none false).run next (place.next char rest)
            else none) := by
  have opened (place : Place) :
      (repeated (.one set) 0 none false).run next place =
        (next place <|> Matcher.some (one set).run false next place) := by
    simp [run, Matcher.prefer]
  have further (place : Place) :
      Matcher.further (one set).run false place.rest.length next place =
        (repeated (.one set) 0 none false).run next place := by
    rw [opened]
    rcases place with ⟨before, rest, taken, captures⟩
    cases rest with
    | nil => simp [Matcher.further, Matcher.some, run_one]
    | cons char rest => simp [Matcher.further, Matcher.prefer, Matcher.some, run_one, Place.next]
  rw [opened]
  rcases place with ⟨before, rest, taken, captures⟩
  cases rest with
  | nil => simp [Matcher.some, run_one]
  | cons char rest =>
      have step := further ((⟨before, char :: rest, taken, captures⟩ : Place).next char rest)
      simp only [Matcher.some, run_one]
      simp only [Place.next] at step ⊢
      simp [step]

end Pattern

namespace LabelPattern

open Pattern

/-- What a marker is written as, given its label. -/
def marker (label : Text) : Text :=
  markerLead ++ label ++ ['\x7d']

/-- Whether a text can be the label of a marker. -/
def IsLabel (text : Text) : Prop :=
  '\x7d' ∉ text ∧ '\n' ∉ text

/-- Whether a text begins with a marker. -/
def OpensMarker (text : Text) : Prop :=
  ∃ label rest, IsLabel label ∧ text = marker label ++ rest

theorem isLabel_nil : IsLabel [] := by
  simp [IsLabel]

theorem isLabel_cons {char : Char} {label : Text} :
    IsLabel (char :: label) ↔ ('\x7d' ≠ char ∧ '\n' ≠ char) ∧ IsLabel label := by
  simp only [IsLabel, List.mem_cons, not_or]
  constructor
  · rintro ⟨⟨notClosing, close⟩, notBreak, lineFeed⟩
    exact ⟨⟨notClosing, notBreak⟩, close, lineFeed⟩
  · rintro ⟨⟨notClosing, notBreak⟩, close, lineFeed⟩
    exact ⟨⟨notClosing, close⟩, notBreak, lineFeed⟩

/-- A spelled text is matched if the text that is left begins with it. -/
theorem run_spelled (text : Text) (node : Node) (next : Continuation) (place : Place) :
    (spelled text node).run next place =
      (text.isPrefixOf? place.rest).bind fun rest => node.run next (place.advance text rest) := by
  induction text generalizing place with
  | nil => simp [spelled, List.isPrefixOf?]
  | cons char text ih =>
      have unfolded : spelled (char :: text) node =
          .append (.one (.single char)) (spelled text node) := rfl
      rw [unfolded, Node.run, Node.run]
      rcases place with ⟨before, rest, taken, captures⟩
      cases rest with
      | nil => simp [List.isPrefixOf?]
      | cons first rest =>
          simp only [CharSet.contains_single, ih, List.isPrefixOf?]
          by_cases same : char = first
          · subst same
            simp only [beq_self_eq_true, if_true, Place.next_advance]
            rfl
          · simp [same]

/-- What the standard pattern matches after the lead of a marker. -/
def labelNode : Node :=
  .append (.capture 1 (.repeated (.one (.complement (.ranges [(0x0A, 0x0A)]))) 0 none false))
    (.one (.single '\x7d'))

theorem standard_node : standard.node = spelled markerLead labelNode := rfl

theorem run_closing (place : Place) :
    (Node.one (.single '\x7d')).run some place =
      match place.rest with
      | [] => none
      | char :: rest => if '\x7d' = char then some (place.next char rest) else none := by
  rw [Node.run_one]
  cases place.rest with
  | nil => rfl
  | cons char rest => simp

theorem run_labelNode (place : Place) :
    labelNode.run some place =
      (Node.repeated (.one (.complement (.ranges [(0x0A, 0x0A)]))) 0 none false).run
        (fun stop => (Node.one (.single '\x7d')).run some (stop.capture 1 place)) place := by
  simp only [labelNode, Node.run]

theorem contains_labelSet (char : Char) :
    (CharSet.complement (.ranges [(0x0A, 0x0A)])).contains char = true ↔ '\n' ≠ char := by
  have lineFeed : CharSet.ranges [(0x0A, 0x0A)] = .single '\n' := rfl
  rw [lineFeed, CharSet.contains_complement, CharSet.contains_single]
  simp

theorem run_lazy_label (label rest : Text) (start place : Place) (plain : IsLabel label)
    (shape : place.rest = label ++ '\x7d' :: rest) :
    (Node.repeated (.one (.complement (.ranges [(0x0A, 0x0A)]))) 0 none false).run
        (fun stop => (Node.one (.single '\x7d')).run some (stop.capture 1 start)) place =
      some (((place.advance label ('\x7d' :: rest)).capture 1 start).next '\x7d' rest) := by
  induction label generalizing place with
  | nil =>
      rw [List.nil_append] at shape
      rw [Node.run_lazy, run_closing, ← shape, Place.advance_nil]
      simp [Place.capture, shape]
  | cons char label ih =>
      rw [isLabel_cons] at plain
      rcases plain with ⟨⟨notClosing, notBreak⟩, plain⟩
      have later := ih (place.next char (label ++ '\x7d' :: rest)) plain rfl
      have inside := (contains_labelSet char).mpr notBreak
      rw [Place.next_advance] at later
      rw [List.cons_append] at shape
      rw [Node.run_lazy, run_closing, Place.capture_rest, shape]
      simp [notClosing, inside, later]

theorem exists_label_of_run_lazy (start place stop : Place)
    (matched : (Node.repeated (.one (.complement (.ranges [(0x0A, 0x0A)]))) 0 none false).run
        (fun stop => (Node.one (.single '\x7d')).run some (stop.capture 1 start)) place =
      some stop) :
    ∃ label rest, IsLabel label ∧ place.rest = label ++ '\x7d' :: rest := by
  induction shape : place.rest generalizing place with
  | nil =>
      rw [Node.run_lazy, run_closing, Place.capture_rest, shape] at matched
      simp at matched
  | cons char rest ih =>
      by_cases closing : '\x7d' = char
      · exact ⟨[], rest, isLabel_nil, by rw [closing, List.nil_append]⟩
      · rw [Node.run_lazy, run_closing, Place.capture_rest, shape] at matched
        by_cases notBreak : '\n' ≠ char
        · have inside := (contains_labelSet char).mpr notBreak
          simp only [closing, inside, if_true, if_false] at matched
          rcases ih (place.next char rest) matched rfl with ⟨label, more, plain, split⟩
          exact ⟨char :: label, more, isLabel_cons.mpr ⟨⟨closing, notBreak⟩, plain⟩,
            by rw [split, List.cons_append]⟩
        · have outside := mt (contains_labelSet char).mp notBreak
          simp [closing, outside] at matched

theorem marker_append (label rest : Text) :
    marker label ++ rest = markerLead ++ (label ++ '\x7d' :: rest) := by
  simp [marker]

theorem not_opensMarker_cons {char : Char} (other : char ≠ '\\') (rest : Text) :
    ¬OpensMarker (char :: rest) := by
  rintro ⟨label, more, _, opened⟩
  rw [marker_append] at opened
  injection opened with same
  exact other same

theorem lineFeed_mem_marker_iff {label : Text} : '\n' ∈ marker label ↔ '\n' ∈ label := by
  have lead : '\n' ∉ markerLead := by decide
  have closing : '\n' ∉ ['\x7d'] := by decide
  simp only [marker, List.mem_append, lead, closing, false_or, or_false]

/-- A marker is matched where it begins, and its label is captured. -/
theorem matchAt_marker (before : Option Char) (label rest : Text) (plain : IsLabel label) :
    standard.node.matchAt before (marker label ++ rest) = some ⟨marker label, [(1, label)]⟩ := by
  have lead : markerLead.isPrefixOf? (marker label ++ rest) = some (label ++ '\x7d' :: rest) :=
    List.isPrefixOf?_eq_some_iff_append_eq.mpr (marker_append label rest).symm
  have taken : (marker label ++ rest).take (markerLead.length + label.length + 1) =
      marker label := by
    apply List.take_left'
    simp [marker, Nat.add_assoc]
  rw [Node.matchAt, standard_node, run_spelled, lead, Option.bind_some, run_labelNode,
    run_lazy_label label rest _ _ plain rfl]
  simp [Place.advance, Place.capture, Place.next, taken]

/-- Where the standard pattern matches, a marker begins. -/
theorem opensMarker_of_matchAt {before : Option Char} {text : Text} {hit : Match}
    (matched : standard.node.matchAt before text = some hit) : OpensMarker text := by
  rw [Node.matchAt, standard_node, run_spelled] at matched
  simp only [Option.map_eq_some_iff, Option.bind_eq_some_iff] at matched
  rcases matched with ⟨stop, ⟨tail, lead, matched⟩, _⟩
  rw [run_labelNode] at matched
  rcases exists_label_of_run_lazy _ _ stop matched with ⟨label, rest, plain, split⟩
  refine ⟨label, rest, plain, ?_⟩
  rw [marker_append, ← List.append_eq_of_isPrefixOf?_eq_some lead]
  exact congrArg _ split

theorem matchAt_eq_none_iff {before : Option Char} {text : Text} :
    standard.node.matchAt before text = none ↔ ¬OpensMarker text := by
  constructor
  · rintro unmatched ⟨label, rest, plain, rfl⟩
    simp [matchAt_marker before label rest plain] at unmatched
  · intro closed
    cases matched : standard.node.matchAt before text with
    | none => rfl
    | some hit => exact absurd (opensMarker_of_matchAt matched) closed

theorem opens_iff {text : Text} : standard.opens text = true ↔ OpensMarker text := by
  have unmatched : standard.node.matchAt none text = none ↔ ¬OpensMarker text :=
    matchAt_eq_none_iff
  rw [← not_iff_not, ← unmatched]
  simp [Pattern.opens]

theorem solid_standard : standard.Solid where
  anywhere := by
    intro before text
    by_cases opened : OpensMarker text
    · rcases opened with ⟨label, rest, plain, rfl⟩
      rw [matchAt_marker before label rest plain, matchAt_marker none label rest plain]
    · rw [matchAt_eq_none_iff.mpr opened, matchAt_eq_none_iff.mpr opened]
  nonempty := by
    intro text hit matched
    rcases opensMarker_of_matchAt matched with ⟨label, rest, plain, rfl⟩
    rw [matchAt_marker none label rest plain] at matched
    cases matched
    simp [marker]

theorem pieces_marker_append {label : Text} (plain : IsLabel label) (rest : Text) :
    standard.pieces (marker label ++ rest) =
      .found ⟨marker label, [(1, label)]⟩ :: standard.pieces rest := by
  rw [solid_standard.pieces_match (matchAt_marker none label rest plain), List.drop_left]

theorem pieces_cons_of_closed {char : Char} {rest : Text} (closed : ¬OpensMarker (char :: rest)) :
    standard.pieces (char :: rest) = .plain char :: standard.pieces rest :=
  solid_standard.pieces_cons (matchAt_eq_none_iff.mpr closed)

/-- The standard pattern finds something in a text exactly if a marker is written there. -/
theorem occurrences_ne_nil_iff {text : Text} :
    standard.occurrences text ≠ [] ↔ ∃ label, IsLabel label ∧ marker label <:+: text := by
  rw [Ne, solid_standard.occurrences_eq_nil_iff]
  constructor
  · intro found
    by_contra absent
    apply found
    rintro suffix ⟨before, rfl⟩
    rw [matchAt_eq_none_iff]
    rintro ⟨label, rest, plain, rfl⟩
    exact absent ⟨label, plain, before, rest, List.append_assoc ..⟩
  · rintro ⟨label, plain, before, rest, rfl⟩ unmatched
    have opened := unmatched (marker label ++ rest) ⟨before, (List.append_assoc ..).symm⟩
    rw [matchAt_marker none label rest plain] at opened
    cases opened

end LabelPattern

end Typeset
