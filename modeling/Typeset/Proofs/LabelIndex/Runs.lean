import Typeset.Proofs.LabelIndex.Entries

/-!
# Label indexes in use

An index is built once and then asked, and now and then it gets an entry for a place that belongs to
no section.  Whatever is done with it, and in whatever order, it holds the start, the matches of the
pattern on their lines, the end, and as many entries for unknown places as have been asked for, each
on a line of its own after the last line of the transcript.

The lines of these entries never decrease, so a search for a line divides the entries into those
before the line and the others.
-/

namespace Typeset

namespace LabelIndex

open Pattern (Match)

/-- What can be done with an index. -/
inductive Operation where
  | entries
  | size
  | isEmpty
  | get (position : Nat)
  | lastLine
  | firstAtOrAfter (line : Nat)
  | display
  | pushUnidentified
  deriving DecidableEq

/-- What an operation answers. -/
inductive Answer where
  | entries (entries : List LabelEntry)
  | number (number : Nat)
  | truth (holds : Bool)
  | entry (entry : Option LabelEntry)
  | position (position : Option Nat)
  | text (text : Text)

/-- The answer of an operation, and the index after it.  A new entry is answered by its position. -/
def perform (index : LabelIndex) : Operation → Answer × LabelIndex
  | .entries => (.entries index.entries, index)
  | .size => (.number index.size, index)
  | .isEmpty => (.truth index.isEmpty, index)
  | .get position => (.entry (index.get? position), index)
  | .lastLine => (.number index.lastLine, index)
  | .firstAtOrAfter line => (.position (index.firstAtOrAfter? line), index)
  | .display => (.text index.display, index)
  | .pushUnidentified => (.number (index.pushUnidentified.size - 1), index.pushUnidentified)

/-- The answers of operations that are performed one after another, and the index after them. -/
def performAll (index : LabelIndex) : List Operation → List Answer × LabelIndex
  | [] => ([], index)
  | operation :: operations =>
      let (answer, next) := index.perform operation
      let (answers, last) := next.performAll operations
      (answer :: answers, last)

/-- The entries for unknown places that follow the last line of a transcript. -/
def unknownEntries (lines pushes : Nat) : List LabelEntry :=
  (List.range pushes).map fun count => ⟨lines + count + 1, unidentifiedLabel⟩

/-- What holds of the index of a transcript when it has got so many entries for unknown places,
given the places and the matches that the pattern has in the transcript. -/
structure Reached (index : LabelIndex) (transcript : Text) (found : List (Nat × Match))
    (pushes : Nat) : Prop where
  entries : index.entries = ⟨1, startLabel⟩ :: found.map (entryAt transcript) ++
    ⟨transcript.lineCount, endLabel⟩ :: unknownEntries transcript.lineCount pushes
  ordered : index.entries.Pairwise (·.line ≤ ·.line)
  last : index.lastLine = transcript.lineCount + pushes
  missed_iff : ∀ line, index.firstAtOrAfter? line = none ↔ transcript.lineCount + pushes < line
  found_iff : ∀ line position, index.firstAtOrAfter? line = some position ↔
    position < index.size ∧
      ∀ other entry, index.get? other = some entry → (entry.line < line ↔ other < position)

/-- Whether an operation adds an entry after the others and answers its position. -/
def AddsEntry (before : LabelIndex) (answer : Answer) (after : LabelIndex) : Prop :=
  answer = .number before.size ∧ ∃ entry, after.entries = before.entries ++ [entry]

section Lines

variable {index : LabelIndex} {line : Nat}

theorem lastLine_eq {earlier : List LabelEntry} {last : LabelEntry}
    (ended : index.entries = earlier ++ [last]) : index.lastLine = last.line := by
  simp [lastLine, ended]

/-- The entries of an ordered index are all before a line if its last one is. -/
theorem forall_line_lt_iff (some_entry : index.entries ≠ [])
    (ordered : index.entries.Pairwise (·.line ≤ ·.line)) :
    (∀ entry ∈ index.entries, entry.line < line) ↔ index.lastLine < line := by
  have ended := (List.dropLast_concat_getLast some_entry).symm
  rw [lastLine_eq ended]
  constructor
  · intro before
    exact before _ (List.getLast_mem some_entry)
  · intro before entry member
    rw [ended, List.pairwise_append] at ordered
    rw [ended, List.mem_append, List.mem_singleton] at member
    rcases member with earlier | rfl
    · have reached := ordered.2.2 entry earlier _ (List.mem_singleton_self _)
      omega
    · exact before

/-- A search in an ordered index divides its entries. -/
theorem firstAtOrAfter?_eq_some_iff (ordered : index.entries.Pairwise (·.line ≤ ·.line))
    {position : Nat} :
    index.firstAtOrAfter? line = some position ↔ position < index.size ∧
      ∀ other entry, index.get? other = some entry → (entry.line < line ↔ other < position) := by
  constructor
  · intro search
    rw [firstAtOrAfter?, List.findIdx?_eq_some_iff_getElem] at search
    rcases search with ⟨within, reached, earlier⟩
    rw [decide_eq_true_eq] at reached
    refine ⟨within, ?_⟩
    intro other entry present
    rcases List.getElem?_eq_some_iff.mp present with ⟨inside, rfl⟩
    constructor
    · intro before
      by_cases passed : other < position
      · exact passed
      · have sorted : index.entries[position].line ≤ index.entries[other].line := by
          rcases Nat.lt_or_eq_of_le (Nat.le_of_not_lt passed) with later | rfl
          · exact List.pairwise_iff_getElem.mp ordered position other within inside later
          · exact Nat.le_refl _
        omega
    · intro passed
      simpa using earlier other passed
  · rintro ⟨within, divided⟩
    apply firstAtOrAfter?_eq_some within
    · have here := divided position _ (List.getElem?_eq_getElem within)
      omega
    · intro other before
      exact (divided other _ (List.getElem?_eq_getElem (Nat.lt_trans before within))).mpr before

end Lines

section Growth

variable {index : LabelIndex} {transcript : Text} {found : List (Nat × Match)} {pushes : Nat}

theorem unknownEntries_succ (lines pushes : Nat) :
    unknownEntries lines (pushes + 1) =
      unknownEntries lines pushes ++ [⟨lines + pushes + 1, unidentifiedLabel⟩] := by
  simp [unknownEntries, List.range_succ]

theorem lastLine_of_entries {earlier : List LabelEntry}
    (entries : index.entries = earlier ++
      ⟨transcript.lineCount, endLabel⟩ :: unknownEntries transcript.lineCount pushes) :
    index.lastLine = transcript.lineCount + pushes := by
  cases pushes with
  | zero => exact lastLine_eq entries
  | succ pushes =>
      rw [unknownEntries_succ, ← List.cons_append, ← List.append_assoc] at entries
      exact lastLine_eq entries

theorem line_of_mem_unknownEntries {lines : Nat} {entry : LabelEntry}
    (member : entry ∈ unknownEntries lines pushes) :
    lines < entry.line ∧ entry.line ≤ lines + pushes := by
  rcases List.mem_map.mp member with ⟨count, inside, rfl⟩
  rw [List.mem_range] at inside
  simp only
  omega

theorem pairwise_unknownEntries (lines pushes : Nat) :
    (unknownEntries lines pushes).Pairwise (·.line ≤ ·.line) := by
  refine List.Pairwise.map _ ?_ List.pairwise_le_range
  intro first second ordered
  simp only
  omega

/-- An index with these entries is one in which they can be searched for. -/
theorem reached_of_entries {pattern : Pattern}
    (entries : index.entries = ⟨1, startLabel⟩ :: sections transcript pattern ++
      ⟨transcript.lineCount, endLabel⟩ :: unknownEntries transcript.lineCount pushes) :
    index.Reached transcript (Pattern.located 0 (pattern.pieces transcript)) pushes := by
  have ordered : index.entries.Pairwise (·.line ≤ ·.line) := by
    rw [entries, List.pairwise_append, List.pairwise_cons, List.pairwise_cons]
    refine ⟨⟨?_, pairwise_sections transcript pattern⟩,
      ⟨?_, pairwise_unknownEntries _ pushes⟩, ?_⟩
    · intro entry member
      exact (line_of_mem_sections member).1
    · intro entry member
      exact Nat.le_of_lt (line_of_mem_unknownEntries member).1
    · intro entry member later laterMember
      have before : entry.line ≤ transcript.lineCount := by
        rcases List.mem_cons.mp member with rfl | member
        · exact Nat.le_add_left 1 _
        · exact (line_of_mem_sections member).2
      rcases List.mem_cons.mp laterMember with rfl | laterMember
      · exact before
      · have after := (line_of_mem_unknownEntries laterMember).1
        omega
  have last := lastLine_of_entries entries
  have some_entry : index.entries ≠ [] := by
    rw [entries]
    simp
  refine ⟨entries, ordered, last, ?_, ?_⟩
  · intro line
    rw [firstAtOrAfter?_eq_none_iff, forall_line_lt_iff some_entry ordered, last]
  · intro line position
    exact firstAtOrAfter?_eq_some_iff ordered

/-- One operation leaves the entries alone, or adds one for an unknown place. -/
theorem entries_perform (index : LabelIndex) (operation : Operation) :
    (index.perform operation).2.entries =
      if operation = .pushUnidentified then
        index.entries ++ [⟨index.lastLine + 1, unidentifiedLabel⟩]
      else index.entries := by
  cases operation <;> rfl

theorem addsEntry_perform (index : LabelIndex) :
    index.AddsEntry (index.perform .pushUnidentified).1 (index.perform .pushUnidentified).2 := by
  refine ⟨?_, ⟨index.lastLine + 1, unidentifiedLabel⟩, rfl⟩
  simp [perform, pushUnidentified, size]

/-- What a run of operations makes of an index, given the entries that it begins with. -/
theorem entries_performAll (operations : List Operation) {earlier : List LabelEntry}
    (entries : index.entries = earlier ++
      ⟨transcript.lineCount, endLabel⟩ :: unknownEntries transcript.lineCount pushes) :
    (index.performAll operations).2.entries = earlier ++
      ⟨transcript.lineCount, endLabel⟩ ::
        unknownEntries transcript.lineCount (pushes + operations.count .pushUnidentified) := by
  induction operations generalizing index pushes with
  | nil => exact entries
  | cons operation operations ih =>
      have step := entries_perform index operation
      by_cases pushed : operation = .pushUnidentified
      · rw [if_pos pushed, entries, lastLine_of_entries entries, List.append_assoc,
          List.cons_append, ← unknownEntries_succ] at step
        rw [pushed, List.count_cons_self, ← Nat.add_assoc, Nat.add_right_comm]
        rw [pushed] at step
        exact ih step
      · rw [if_neg pushed, entries] at step
        rw [List.count_cons_of_ne pushed]
        exact ih step

theorem performAll_append (index : LabelIndex) (first second : List Operation) :
    index.performAll (first ++ second) =
      ((index.performAll first).1 ++ ((index.performAll first).2.performAll second).1,
        ((index.performAll first).2.performAll second).2) := by
  induction first generalizing index with
  | nil => rfl
  | cons operation first ih => simp [performAll, ih]

theorem length_performAll (index : LabelIndex) (operations : List Operation) :
    (index.performAll operations).1.length = operations.length := by
  induction operations generalizing index with
  | nil => rfl
  | cons operation operations ih => simp [performAll, ih]

end Growth

/-- Whatever is done with the index of a transcript, it keeps its entries and their order, and gets
an entry after the last line each time one for an unknown place is added. -/
theorem performAll_build (transcript : Text) (pattern : Pattern) (operations : List Operation) :
    let found := Pattern.located 0 (pattern.pieces transcript)
    let run := (build transcript pattern).performAll
    found.map Prod.snd = pattern.occurrences transcript ∧
      (∀ place hit, (place, hit) ∈ found →
        pattern.node.matchAt (transcript.take place).getLast? (transcript.drop place) = some hit) ∧
      (run operations).2.Reached transcript found (operations.count .pushUnidentified) ∧
      ∀ earlier later, operations = earlier ++ .pushUnidentified :: later →
        ∃ answer, (run operations).1[earlier.length]? = some answer ∧
          (run earlier).2.AddsEntry answer (run (earlier ++ [.pushUnidentified])).2 := by
  intro found run
  refine ⟨Pattern.map_snd_located 0 _, ?_, ?_, ?_⟩
  · intro place hit member
    exact Pattern.matchAt_of_mem_located member
  · have built : (build transcript pattern).entries =
        (⟨1, startLabel⟩ :: sections transcript pattern) ++
          ⟨transcript.lineCount, endLabel⟩ :: unknownEntries transcript.lineCount 0 :=
      entries_build_eq_sections transcript pattern
    have grown := entries_performAll operations built
    rw [Nat.zero_add] at grown
    exact reached_of_entries grown
  · rintro earlier later rfl
    have before := length_performAll (build transcript pattern) earlier
    refine ⟨((run earlier).2.perform .pushUnidentified).1, ?_, ?_⟩
    · change ((build transcript pattern).performAll _).1[_]? = _
      rw [performAll_append, List.getElem?_append_right (Nat.le_of_eq before), before, Nat.sub_self]
      rfl
    · change (run earlier).2.AddsEntry _ ((build transcript pattern).performAll _).2
      rw [performAll_append]
      exact addsEntry_perform (run earlier).2

end LabelIndex

end Typeset
