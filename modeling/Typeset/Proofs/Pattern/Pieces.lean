import Typeset.Pattern

/-!
# The pieces of a text that has been searched

A search loses nothing: the pieces of a text, one after another, are the text. The places of the
matches can therefore be read off the pieces.

The state of a search is more than the text that is left, because an empty match right after another
one does not count and because a pattern can ask for the character before a place. For a solid
pattern, which does neither, the pieces follow three equations on the text alone.
-/

namespace Typeset

namespace Pattern

theorem Node.matchAt_text_prefix {node : Node} {before : Option Char} {text : Text} {hit : Match}
    (matched : node.matchAt before text = some hit) : hit.text <+: text := by
  simp only [Node.matchAt, Option.map_eq_some_iff] at matched
  rcases matched with ⟨stop, _, rfl⟩
  exact List.take_prefix stop.taken text

theorem flatMap_text_piecesFrom (pattern : Pattern) (text : Text) (skip : Nat) (afterMatch : Bool)
    (before : Option Char) (within : skip ≤ text.length) :
    (pattern.piecesFrom skip afterMatch before text).flatMap Piece.text = text.drop skip := by
  induction text generalizing skip afterMatch before with
  | nil =>
      have none_left : skip = 0 := by simpa using within
      subst none_left
      rw [piecesFrom, if_pos rfl]
      cases matched : pattern.node.matchAt before [] with
      | none => simp
      | some hit =>
          have empty : hit.text = [] := List.prefix_nil.mp (Node.matchAt_text_prefix matched)
          cases afterMatch <;> simp [Piece.text, empty]
  | cons char rest ih =>
      cases skip with
      | succ skip =>
          rw [piecesFrom, List.drop_succ_cons]
          exact ih skip true (some char) (by simpa using within)
      | zero =>
          rw [piecesFrom, List.drop_zero]
          cases matched : pattern.node.matchAt before (char :: rest) with
          | none => simp [Piece.text, ih]
          | some hit =>
              have leading := Node.matchAt_text_prefix matched
              cases shape : hit.text with
              | nil => cases afterMatch <;> simp [Piece.text, shape, ih]
              | cons first more =>
                  rw [shape, List.cons_prefix_cons] at leading
                  rcases leading with ⟨rfl, leading⟩
                  simp only [List.flatMap_cons, Piece.text, shape, List.cons_append]
                  rw [ih more.length true (some first) leading.length_le,
                    List.prefix_iff_eq_append.mp leading]

/-- The pieces of a text, one after another, are the text. -/
theorem flatMap_text_pieces (pattern : Pattern) (text : Text) :
    (pattern.pieces text).flatMap Piece.text = text := by
  rw [pieces, flatMap_text_piecesFrom pattern text 0 false none (Nat.zero_le _), List.drop_zero]

/-- A text without matches is left as it is when matches are taken out. -/
theorem strip_eq_self {pattern : Pattern} {text : Text} (absent : pattern.occurrences text = []) :
    pattern.strip text = text := by
  have kept : ∀ pieces : List Piece, pieces.filterMap Piece.match? = [] →
      pieces.flatMap Piece.remainder = pieces.flatMap Piece.text := by
    intro pieces none_found
    induction pieces with
    | nil => rfl
    | cons piece pieces ih =>
        cases piece with
        | plain char => exact congrArg ([char] ++ ·) (ih none_found)
        | found hit => cases none_found
  rw [strip, kept _ absent, flatMap_text_pieces]

/-- The matches among pieces that begin at a place, each with the place where it begins. -/
def located (place : Nat) : List Piece → List (Nat × Match)
  | [] => []
  | .plain _ :: pieces => located (place + 1) pieces
  | .found hit :: pieces => (place, hit) :: located (place + hit.text.length) pieces

theorem located_append (place : Nat) (first second : List Piece) :
    located place (first ++ second) =
      located place first ++ located (place + (first.flatMap Piece.text).length) second := by
  induction first generalizing place with
  | nil => simp [located]
  | cons piece pieces ih =>
      cases piece with
      | plain char =>
          simp [located, ih, Piece.text, Nat.add_assoc, Nat.add_comm]
      | found hit =>
          simp [located, ih, Piece.text, Nat.add_assoc]

theorem located_map_plain (place : Nat) (stretch : Text) :
    located place (stretch.map Piece.plain) = [] := by
  induction stretch generalizing place with
  | nil => rfl
  | cons char rest ih => exact ih (place + 1)

theorem map_snd_located (place : Nat) (pieces : List Piece) :
    (located place pieces).map Prod.snd = pieces.filterMap Piece.match? := by
  induction pieces generalizing place with
  | nil => rfl
  | cons piece pieces ih =>
      cases piece with
      | plain char => exact ih (place + 1)
      | found hit => exact congrArg (hit :: ·) (ih (place + hit.text.length))

/-- The matches begin between the first and the last place of the pieces. -/
theorem place_of_mem_located {place : Nat} {pieces : List Piece} {found : Nat × Match}
    (member : found ∈ located place pieces) :
    place ≤ found.1 ∧ found.1 ≤ place + (pieces.flatMap Piece.text).length := by
  induction pieces generalizing place with
  | nil => simp [located] at member
  | cons piece pieces ih =>
      simp only [List.flatMap_cons, List.length_append]
      cases piece with
      | plain char =>
          have later := ih member
          simp only [Piece.text, List.length_singleton]
          omega
      | found hit =>
          simp only [located, List.mem_cons] at member
          rcases member with rfl | member
          · simp
          · have later := ih member
            simp only [Piece.text]
            omega

theorem pairwise_located (place : Nat) (pieces : List Piece) :
    (located place pieces).Pairwise (·.1 ≤ ·.1) := by
  induction pieces generalizing place with
  | nil => exact .nil
  | cons piece pieces ih =>
      cases piece with
      | plain char => exact ih (place + 1)
      | found hit =>
          refine .cons ?_ (ih (place + hit.text.length))
          intro found member
          have later := place_of_mem_located member
          simp only
          omega

/-- The characters that the next pieces skip are passed over one by one. -/
theorem piecesFrom_skip (pattern : Pattern) (text : Text) (skip : Nat) (before : Option Char)
    (within : skip ≤ text.length) :
    pattern.piecesFrom skip true before text =
      pattern.piecesFrom 0 true ((text.take skip).getLast?.or before) (text.drop skip) := by
  induction text generalizing skip before with
  | nil =>
      have none_left : skip = 0 := by simpa using within
      subst none_left
      simp
  | cons char rest ih =>
      cases skip with
      | zero => simp
      | succ skip =>
          rw [piecesFrom, ih skip (some char) (by simpa using within), List.take_succ_cons,
            List.getLast?_cons, List.drop_succ_cons]
          cases (rest.take skip).getLast? <;> simp

/-- What is found in the rest of a text is what the pattern matches there in the whole of it. -/
theorem matchAt_of_mem_located_piecesFrom (pattern : Pattern) {passed rest : Text}
    {skip place : Nat} {afterMatch : Bool} {hit : Match}
    (member : (place, hit) ∈
      located (passed.length + skip) (pattern.piecesFrom skip afterMatch passed.getLast? rest)) :
    pattern.node.matchAt ((passed ++ rest).take place).getLast? ((passed ++ rest).drop place) =
      some hit := by
  have here {passed rest : Text} {found : Match}
      (matched : pattern.node.matchAt passed.getLast? rest = some found)
      (same : (place, hit) = (passed.length, found)) :
      pattern.node.matchAt ((passed ++ rest).take place).getLast? ((passed ++ rest).drop place) =
        some hit := by
    cases same
    rw [List.take_left, List.drop_left]
    exact matched
  induction rest generalizing passed skip afterMatch with
  | nil =>
      rw [piecesFrom] at member
      split at member
      · subst skip
        cases matched : pattern.node.matchAt passed.getLast? [] with
        | none => simp [matched, located] at member
        | some found =>
            cases afterMatch with
            | true => simp [matched, located] at member
            | false =>
                simp only [matched, Bool.false_eq_true, if_false, located,
                  List.mem_singleton] at member
                exact here matched member
      · cases member
  | cons char rest ih =>
      have later {skip : Nat} {afterMatch : Bool}
          (member : (place, hit) ∈ located (passed.length + (skip + 1))
            (pattern.piecesFrom skip afterMatch (some char) rest)) :
          pattern.node.matchAt ((passed ++ char :: rest).take place).getLast?
            ((passed ++ char :: rest).drop place) = some hit := by
        have counted : (passed ++ [char]).length + skip = passed.length + (skip + 1) := by
          simp only [List.length_append, List.length_singleton]
          omega
        have ended : (passed ++ [char]).getLast? = some char := by simp
        rw [← counted, ← ended] at member
        rw [List.append_cons]
        exact ih member
      cases skip with
      | succ skip => exact later member
      | zero =>
          rw [piecesFrom] at member
          cases matched : pattern.node.matchAt passed.getLast? (char :: rest) with
          | none =>
              simp only [matched, located] at member
              exact later member
          | some found =>
              cases shape : found.text with
              | nil =>
                  cases afterMatch with
                  | true =>
                      simp only [matched, shape, if_true, located] at member
                      exact later member
                  | false =>
                      simp only [matched, shape, Bool.false_eq_true, if_false, located] at member
                      rcases List.mem_cons.mp member with same | member
                      · exact here matched same
                      · exact later member
              | cons first more =>
                  simp only [matched, shape, located, List.length_cons] at member
                  rcases List.mem_cons.mp member with same | member
                  · exact here matched same
                  · exact later member

/-- What is found at a place is what the pattern matches there. -/
theorem matchAt_of_mem_located {pattern : Pattern} {text : Text} {place : Nat} {hit : Match}
    (member : (place, hit) ∈ located 0 (pattern.pieces text)) :
    pattern.node.matchAt (text.take place).getLast? (text.drop place) = some hit := by
  have found : (place, hit) ∈
      located (([] : Text).length + 0) (pattern.piecesFrom 0 false ([] : Text).getLast? text) :=
    member
  exact matchAt_of_mem_located_piecesFrom pattern found

/-- A text opens with a match exactly if a search of the whole text finds one at its beginning. -/
theorem opens_iff_exists_located {pattern : Pattern} {text : Text} :
    pattern.opens text = true ↔ ∃ hit, (0, hit) ∈ located 0 (pattern.pieces text) := by
  rw [opens, Option.isSome_iff_exists]
  constructor
  · rintro ⟨hit, matched⟩
    refine ⟨hit, ?_⟩
    cases text with
    | nil => simp [pieces, piecesFrom, matched, located]
    | cons char rest =>
        rw [pieces, piecesFrom, matched]
        cases shape : hit.text with
        | nil => simp [shape, located]
        | cons first more => simp [shape, located]
  · rintro ⟨hit, member⟩
    exact ⟨hit, matchAt_of_mem_located member⟩

/-- A pattern that matches no empty text and does not ask for the character before a place. -/
structure Solid (pattern : Pattern) : Prop where
  anywhere : ∀ before text, pattern.node.matchAt before text = pattern.node.matchAt none text
  nonempty : ∀ text hit, pattern.node.matchAt none text = some hit → hit.text ≠ []

namespace Solid

variable {pattern : Pattern}

theorem matchAt_nil (solid : Solid pattern) : pattern.node.matchAt none [] = none := by
  cases matched : pattern.node.matchAt none [] with
  | none => rfl
  | some hit =>
      have empty : hit.text = [] := List.prefix_nil.mp (Node.matchAt_text_prefix matched)
      exact absurd empty (solid.nonempty [] hit matched)

theorem piecesFrom_zero (solid : Solid pattern) (afterMatch : Bool) (before : Option Char)
    (text : Text) : pattern.piecesFrom 0 afterMatch before text = pattern.pieces text := by
  cases text with
  | nil => simp [pieces, piecesFrom, solid.anywhere before, solid.matchAt_nil]
  | cons char rest =>
      rw [pieces, piecesFrom, piecesFrom, solid.anywhere before]
      cases matched : pattern.node.matchAt none (char :: rest) with
      | none => rfl
      | some hit =>
          cases shape : hit.text with
          | nil => exact absurd shape (solid.nonempty _ hit matched)
          | cons first more => simp only [shape]

theorem pieces_nil (solid : Solid pattern) : pattern.pieces [] = [] := by
  simp [pieces, piecesFrom, solid.matchAt_nil]

theorem pieces_cons (solid : Solid pattern) {char : Char} {rest : Text}
    (unmatched : pattern.node.matchAt none (char :: rest) = none) :
    pattern.pieces (char :: rest) = .plain char :: pattern.pieces rest := by
  rw [pieces, piecesFrom, unmatched]
  exact congrArg _ (solid.piecesFrom_zero false (some char) rest)

theorem pieces_match (solid : Solid pattern) {text : Text} {hit : Match}
    (matched : pattern.node.matchAt none text = some hit) :
    pattern.pieces text = .found hit :: pattern.pieces (text.drop hit.text.length) := by
  have leading := Node.matchAt_text_prefix matched
  cases text with
  | nil => simp [solid.matchAt_nil] at matched
  | cons char rest =>
      cases shape : hit.text with
      | nil => exact absurd shape (solid.nonempty _ hit matched)
      | cons first more =>
          rw [shape, List.cons_prefix_cons] at leading
          rw [pieces, piecesFrom, matched]
          simp only [shape, List.length_cons, List.drop_succ_cons]
          rw [piecesFrom_skip pattern rest more.length (some char) leading.2.length_le,
            solid.piecesFrom_zero]

/-- A text without matches is one in which no match begins. -/
theorem occurrences_eq_nil_iff (solid : Solid pattern) {text : Text} :
    pattern.occurrences text = [] ↔
      ∀ suffix, suffix <:+ text → pattern.node.matchAt none suffix = none := by
  unfold occurrences
  induction text with
  | nil =>
      rw [solid.pieces_nil]
      constructor
      · intro _ suffix within
        rw [List.suffix_nil.mp within]
        exact solid.matchAt_nil
      · intro _
        rfl
  | cons char rest ih =>
      cases matched : pattern.node.matchAt none (char :: rest) with
      | none =>
          rw [solid.pieces_cons matched, List.filterMap_cons_none rfl, ih]
          constructor
          · intro unmatched suffix within
            rcases List.suffix_cons_iff.mp within with rfl | within
            · exact matched
            · exact unmatched suffix within
          · intro unmatched suffix within
            exact unmatched suffix (within.trans (List.suffix_cons char rest))
      | some hit =>
          rw [solid.pieces_match matched]
          constructor
          · intro none_found
            cases none_found
          · intro unmatched
            rw [unmatched _ List.suffix_rfl] at matched
            cases matched

/-- A stretch of text in which no match begins is cut into its characters. -/
theorem pieces_append (solid : Solid pattern) {stretch rest : Text}
    (unmatched : ∀ first char second, stretch = first ++ char :: second →
      pattern.node.matchAt none (char :: (second ++ rest)) = none) :
    pattern.pieces (stretch ++ rest) = stretch.map .plain ++ pattern.pieces rest := by
  induction stretch with
  | nil => rfl
  | cons char stretch ih =>
      rw [List.cons_append, solid.pieces_cons (unmatched [] char stretch rfl), List.map_cons,
        List.cons_append]
      congr 1
      apply ih
      intro first next second split
      exact unmatched (char :: first) next second (by rw [split, List.cons_append])

end Solid

end Pattern

end Typeset
