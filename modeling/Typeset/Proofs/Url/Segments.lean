import Typeset.Proofs.Text.Splitting
import Typeset.Proofs.Url.Encoding
import Typeset.Url.Path

/-!
# Segments of web addresses

The path of a web address, taken apart into its segments.  A segment that is pushed comes after the
others, encoded and without tabs and line breaks.  What decides whether it counts as dots is what is
left of it: a segment that turns into two dots takes back the one before it.
-/

namespace Typeset

namespace UrlPath

/-- What a URL keeps of a segment. -/
def kept (segment : Text) : Text :=
  segment.filter (!isIgnored ·)

/-- A segment as it is written in web addresses. -/
def written (segment : Text) : Text :=
  Percent.encode Percent.webSegment (kept segment)

/-- Segments one below the other, each after a separator. -/
def rooted (segments : List Text) : Text :=
  segments.flatMap ('/' :: ·)

/-- The path of segments: a lone separator if there are none. -/
def ofSegments (segments : List Text) : Text :=
  if segments = [] then ['/'] else rooted segments

@[simp]
theorem rooted_nil : rooted [] = [] :=
  rfl

@[simp]
theorem rooted_cons (segment : Text) (segments : List Text) :
    rooted (segment :: segments) = '/' :: segment ++ rooted segments :=
  rfl

@[simp]
theorem rooted_append (first second : List Text) :
    rooted (first ++ second) = rooted first ++ rooted second :=
  List.flatMap_append

theorem ofSegments_of_ne_nil {segments : List Text} (some : segments ≠ []) :
    ofSegments segments = rooted segments :=
  if_neg some

theorem ofSegments_append_nil (segments : List Text) :
    ofSegments (segments ++ [[]]) = rooted segments ++ ['/'] := by
  rw [ofSegments_of_ne_nil (by simp)]
  simp

/-- A path of several segments is not the one of a single empty segment. -/
theorem append_singleton_ne {segments : List Text} (more : segments ≠ []) (last : Text) :
    segments ++ [last] ≠ [[]] := by
  intro isEmpty
  have length := congrArg List.length isEmpty
  simp [more] at length

theorem splitAt_append_rooted {first : Text} {segments : List Text} (free : '/' ∉ first)
    (plain : ∀ segment ∈ segments, '/' ∉ segment) :
    Text.splitAt '/' (first ++ rooted segments) = first :: segments := by
  induction segments generalizing first with
  | nil => simpa using Text.splitAt_of_not_mem free
  | cons segment segments ih =>
      rw [rooted_cons, List.cons_append, Text.splitAt_append_cons, Text.splitAt_of_not_mem free,
        ih (plain segment (List.mem_cons_self ..))
          fun other later => plain other (List.mem_cons_of_mem _ later)]
      rfl

/-- Segments without separators are told by the path that they are written to. -/
theorem eq_of_rooted_eq {first second : List Text} (firstPlain : ∀ segment ∈ first, '/' ∉ segment)
    (secondPlain : ∀ segment ∈ second, '/' ∉ segment) (same : rooted first = rooted second) :
    first = second := by
  have parts {segments : List Text} (plain : ∀ segment ∈ segments, '/' ∉ segment) :
      Text.splitAt '/' (rooted segments) = [] :: segments :=
    splitAt_append_rooted List.not_mem_nil plain
  have alike := parts firstPlain
  rw [same, parts secondPlain] at alike
  exact (List.cons.inj alike).2.symm

theorem rooted_splitAt (text : Text) : rooted (Text.splitAt '/' text) = '/' :: text := by
  suffices ∀ parts, parts ≠ [] → rooted parts = '/' :: Text.joined ['/'] parts by
    rw [this _ (Text.splitAt_ne_nil '/' text), Text.joined_splitAt]
  intro parts more
  induction parts with
  | nil => exact absurd rfl more
  | cons part parts ih =>
      cases parts with
      | nil => simp [Text.joined]
      | cons second parts =>
          rw [rooted_cons, ih (by simp),
            Text.joined_cons_of_ne_nil ['/'] part (List.cons_ne_nil second parts)]
          simp

theorem length_ofSegments_eq_one_iff {segments : List Text} (real : segments ≠ [[]]) :
    (ofSegments segments).length = 1 ↔ segments = [] := by
  unfold ofSegments
  split
  · simp [*]
  · rename_i more
    rcases List.exists_cons_of_ne_nil more with ⟨first, rest, rfl⟩
    cases first with
    | cons char first => simp
    | nil =>
        cases rest with
        | nil => exact absurd rfl real
        | cons second rest => simp

/-- One dot in lower case, as it is or encoded. -/
def IsDot (piece : Text) : Prop :=
  piece = ['.'] ∨ piece = ['%', '2', 'e']

theorem digitValue?_of_toLower_eq_e {char : Char} (lower : char.toLower = 'e') :
    Percent.digitValue? char = some 14 := by
  rcases Text.toLower_cases char with same | ⟨low, high, moved⟩
  · rw [← same, lower]
    rfl
  · rw [lower] at moved
    have code : char.toNat = 'E'.toNat := by
      change 101 = char.toNat + 32 at moved
      change char.toNat = 69
      omega
    rw [Char.toNat_inj.mp code]
    rfl

theorem decode_append_of_isDot {piece : Text} (dot : IsDot piece.lowered) (rest : Text) :
    Percent.decode (piece ++ rest) = 46 :: Percent.decode rest := by
  rcases dot with dot | dot
  · obtain ⟨char, rfl, same⟩ : ∃ char, piece = [char] ∧ char.toLower = '.' := by
      simpa [Text.lowered] using dot
    rw [Text.eq_of_toLower_eq same (by decide)]
    rfl
  · obtain ⟨percent, two, letter, rfl, isPercent, isTwo, isLetter⟩ :
        ∃ percent two letter, piece = [percent, two, letter] ∧ percent.toLower = '%' ∧
          two.toLower = '2' ∧ letter.toLower = 'e' := by
      simpa [Text.lowered, List.map_eq_cons_iff] using dot
    rw [Text.eq_of_toLower_eq isPercent (by decide), Text.eq_of_toLower_eq isTwo (by decide)]
    have two : Percent.digitValue? '2' = some 2 := rfl
    simp [Percent.decode, two, digitValue?_of_toLower_eq_e isLetter]

theorem decode_of_isSingleDot {segment : Text} (single : isSingleDot segment = true) :
    Percent.decode segment = Text.toUtf8 ['.'] := by
  have dot : IsDot segment.lowered := by
    simp only [isSingleDot, List.any_cons, List.any_nil, Bool.or_false, Bool.or_eq_true,
      beq_iff_eq] at single
    exact single.imp Eq.symm Eq.symm
  have decoded := decode_append_of_isDot dot []
  rwa [List.append_nil] at decoded

theorem decode_of_isDoubleDot {segment : Text} (double : isDoubleDot segment = true) :
    Percent.decode segment = Text.toUtf8 ['.', '.'] := by
  obtain ⟨first, second, isFirst, isSecond, whole⟩ :
      ∃ first second, IsDot first ∧ IsDot second ∧ segment.lowered = first ++ second := by
    simp only [isDoubleDot, List.any_cons, List.any_nil, Bool.or_false, Bool.or_eq_true,
      beq_iff_eq] at double
    rcases double with whole | whole | whole | whole
    · exact ⟨['.'], ['.'], .inl rfl, .inl rfl, whole.symm⟩
    · exact ⟨['.'], ['%', '2', 'e'], .inl rfl, .inr rfl, whole.symm⟩
    · exact ⟨['%', '2', 'e'], ['.'], .inr rfl, .inl rfl, whole.symm⟩
    · exact ⟨['%', '2', 'e'], ['%', '2', 'e'], .inr rfl, .inr rfl, whole.symm⟩
  rcases List.map_eq_append_iff.mp whole with ⟨before, after, rfl, rfl, rfl⟩
  have decoded := decode_append_of_isDot isSecond []
  rw [List.append_nil] at decoded
  rw [decode_append_of_isDot isFirst, decoded]
  rfl

/-- A written segment reads as one dot only if one dot is kept of it. -/
@[simp]
theorem isSingleDot_written_iff {segment : Text} :
    isSingleDot (written segment) = true ↔ kept segment = ['.'] := by
  constructor
  · intro single
    apply Text.toUtf8_injective
    rw [← decode_of_isSingleDot single, written, Percent.decode_encode (by decide)]
  · intro dot
    rw [written, dot]
    decide

/-- A written segment reads as two dots only if two dots are kept of it. -/
@[simp]
theorem isDoubleDot_written_iff {segment : Text} :
    isDoubleDot (written segment) = true ↔ kept segment = ['.', '.'] := by
  constructor
  · intro double
    apply Text.toUtf8_injective
    rw [← decode_of_isDoubleDot double, written, Percent.decode_encode (by decide)]
  · intro dots
    rw [written, dots]
    decide

theorem slash_not_mem_written (segment : Text) : '/' ∉ written segment :=
  Percent.not_mem_encode (by decide) (by decide) (by decide)

@[simp]
theorem written_eq_nil_iff {segment : Text} : written segment = [] ↔ kept segment = [] :=
  Percent.encode_eq_nil_iff

/-- Segments that are written alike have the same characters that a URL keeps. -/
@[simp]
theorem written_inj {first second : Text} : written first = written second ↔
    kept first = kept second :=
  (Percent.encode_injective (by decide)).eq_iff

variable {segments : List Text} {segment : Text}

theorem push_of_isDots {kind : SchemeKind} {path : Text}
    (dots : segment = ['.'] ∨ segment = ['.', '.']) : push kind path segment = path := by
  rcases dots with rfl | rfl <;> rfl

theorem push_ofSegments (real : segments ≠ [[]]) (one : segment ≠ ['.'])
    (two : segment ≠ ['.', '.']) :
    push .web (ofSegments segments) segment =
      close .web (rooted segments ++ ['/']) (written segment) false := by
  have before : (if (ofSegments segments).length = 1 then ofSegments segments
      else ofSegments segments ++ ['/']) = rooted segments ++ ['/'] := by
    simp only [length_ofSegments_eq_one_iff real]
    split
    · simp [ofSegments, *]
    · rw [ofSegments_of_ne_nil ‹_›]
  simp only [push, one, two, decide_false, Bool.or_self, before]
  rfl

/-- A segment of which dots are not all that is kept comes after the others. -/
theorem push_ofSegments_of_proper (real : segments ≠ [[]])
    (one : kept segment ≠ ['.']) (two : kept segment ≠ ['.', '.']) :
    push .web (ofSegments segments) segment = ofSegments (segments ++ [written segment]) := by
  have rawOne : segment ≠ ['.'] := by
    rintro rfl
    exact one rfl
  have rawTwo : segment ≠ ['.', '.'] := by
    rintro rfl
    exact two rfl
  rw [push_ofSegments real rawOne rawTwo, ofSegments_of_ne_nil (by simp)]
  simp [close, one, two]

theorem lastSegment_append_cons {last : Text} (plain : '/' ∉ last) (before : Text) :
    lastSegment (before ++ '/' :: last) = last := by
  have whole : ∀ char ∈ last.reverse, (char != '/') = true := by
    intro char member
    simpa using ne_of_mem_of_not_mem (List.mem_reverse.mp member) plain
  rw [lastSegment, List.reverse_append, List.reverse_cons, List.append_assoc,
    List.takeWhile_append_of_pos whole]
  simp

theorem dropLastSegment_append_cons {last : Text} (plain : '/' ∉ last) (before : Text) :
    dropLastSegment (before ++ '/' :: last) = before ++ ['/'] := by
  have whole : ∀ char ∈ last.reverse, (char != '/') = true := by
    intro char member
    simpa using ne_of_mem_of_not_mem (List.mem_reverse.mp member) plain
  rw [dropLastSegment, List.reverse_append, List.reverse_cons, List.append_assoc,
    List.dropWhile_append_of_pos whole]
  simp

theorem dropSlash_append_slash {last : Text} (plain : '/' ∉ last) (before : Text) :
    dropSlash ((before ++ '/' :: last) ++ ['/']) =
      if isDrive last then (before ++ '/' :: last) ++ ['/'] else before ++ '/' :: last := by
  simp only [dropSlash, endsInSlash, List.dropLast_concat, List.getLast?_concat,
    lastSegment_append_cons plain]
  cases isDrive last <;> simp

/-- A segment of which two dots are kept takes back the last segment, unless that is a drive
letter. -/
theorem push_ofSegments_of_doubleDot {last : Text} (real : segments ++ [last] ≠ [[]])
    (plain : '/' ∉ last) (raw : segment ≠ ['.', '.']) (two : kept segment = ['.', '.']) :
    push .web (ofSegments (segments ++ [last])) segment =
      (if isDrive last then rooted (segments ++ [last]) else rooted segments) ++ ['/'] := by
  have one : segment ≠ ['.'] := by
    rintro rfl
    cases two
  have closed : rooted (segments ++ [last]) = rooted segments ++ '/' :: last := by simp
  rw [push_ofSegments real one raw, close, if_pos (isDoubleDot_written_iff.mpr two)]
  simp only [Bool.false_eq_true, if_false, shorten, reduceCtorEq, decide_false, Bool.false_and]
  rw [closed, dropSlash_append_slash plain]
  cases isDrive last with
  | true => exact dropLastSegment_append_cons (by simp) _
  | false => exact dropLastSegment_append_cons plain _

end UrlPath

end Typeset
