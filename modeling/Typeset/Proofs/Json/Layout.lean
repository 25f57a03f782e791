import Typeset.Json.Typed
import Typeset.Proofs.Json.Text

/-!
# Laid-out values

Lists and objects are written with blanks between their parts: none in one line, line breaks and
indentation over several lines.  A layout says where the blanks are.  Readers pass over all of them,
so a value is read in the same way from every layout.

A record is read member by member.  What has been read so far is its state, and the members that
are still to come are read from there on; no member may be known already when it comes.
-/

namespace Typeset

namespace Json

/-- The blanks between the parts of a list or an object: before an element or a member, after the
name of a member, and before the closing bracket. -/
structure Layout where
  lead : Text
  gap : Text
  tail : Text
  lead_blank : ∀ char ∈ lead, Reader.isBlank char = true
  gap_blank : ∀ char ∈ gap, Reader.isBlank char = true
  tail_blank : ∀ char ∈ tail, Reader.isBlank char = true

namespace Layout

/-- What follows the first of several parts. -/
def further (layout : Layout) (parts : List Text) : Text :=
  parts.flatMap fun part => ',' :: (layout.lead ++ part)

/-- The parts between two brackets. -/
def enclosed (layout : Layout) (opening closing : Char) : List Text → Text
  | [] => [opening, closing]
  | part :: parts =>
      opening :: (layout.lead ++ (part ++ (layout.further parts ++ (layout.tail ++ [closing]))))

/-- A list of elements. -/
def list (layout : Layout) (elements : List Text) : Text :=
  layout.enclosed '[' ']' elements

/-- A member: its name and its value. -/
def member (layout : Layout) (name value : Text) : Text :=
  quoted name ++ ':' :: (layout.gap ++ value)

/-- Members, given by their names and their values. -/
def members (layout : Layout) (parts : List (Text × Text)) : List Text :=
  parts.map fun part => layout.member part.1 part.2

/-- An object of members. -/
def object (layout : Layout) (parts : List (Text × Text)) : Text :=
  layout.enclosed '\x7b' '\x7d' (layout.members parts)

/-- What comes after a part: further parts, the closing bracket, and all that follows it. -/
def remainder (layout : Layout) (closing : Char) (parts : List Text) (rest : Text) : Text :=
  layout.further parts ++ (layout.tail ++ closing :: rest)

theorem further_cons (layout : Layout) (part : Text) (parts : List Text) :
    layout.further (part :: parts) = ',' :: (layout.lead ++ part) ++ layout.further parts :=
  List.flatMap_cons

theorem members_cons (layout : Layout) (part : Text × Text) (parts : List (Text × Text)) :
    layout.members (part :: parts) = layout.member part.1 part.2 :: layout.members parts :=
  rfl

theorem remainder_cons (layout : Layout) (closing : Char) (part : Text) (parts : List Text)
    (rest : Text) :
    layout.remainder closing (part :: parts) rest =
      ',' :: (layout.lead ++ (part ++ layout.remainder closing parts rest)) := by
  simp [remainder, further_cons]

theorem enclosed_cons_append (layout : Layout) (opening closing : Char) (part : Text)
    (parts : List Text) (rest : Text) :
    layout.enclosed opening closing (part :: parts) ++ rest =
      opening :: (layout.lead ++ (part ++ layout.remainder closing parts rest)) := by
  simp [enclosed, remainder]

theorem member_append (layout : Layout) (name value rest : Text) :
    layout.member name value ++ rest =
      '"' :: (name.flatMap escaped ++ '"' :: ':' :: (layout.gap ++ (value ++ rest))) := by
  simp [member, quoted]

/-- There is room for every part, even if nothing but a comma belongs to it. -/
theorem length_lt_remainder (layout : Layout) (closing : Char) (parts : List Text) (rest : Text) :
    parts.length < (layout.remainder closing parts rest).length := by
  induction parts with
  | nil =>
      simp only [remainder, List.length_append, List.length_cons, List.length_nil]
      omega
  | cons part parts ih =>
      simp only [remainder_cons, List.length_append, List.length_cons]
      omega

end Layout

namespace Reader

variable {α β : Type} {text between left blanks rest : Text} {char : Char}

theorem bind_eq_ok {first : Reader α} {next : α → Reader β} {value : α} {result : β}
    (taken : first text = .ok (value, between))
    (later : next value between = .ok (result, left)) :
    (first >>= next) text = .ok (result, left) := by
  change first text >>= (fun taken => next taken.1 taken.2) = .ok (result, left)
  rw [taken]
  exact later

theorem next?_cons (char : Char) (rest : Text) :
    next? (char :: rest) = .ok (some char, char :: rest) :=
  rfl

theorem skip_cons (char : Char) (rest : Text) : skip (char :: rest) = .ok ((), rest) :=
  rfl

theorem dropWhile_blanks (blank : ∀ char ∈ blanks, isBlank char = true)
    (solid : isBlank char = false) (rest : Text) :
    (blanks ++ char :: rest).dropWhile isBlank = char :: rest := by
  rw [List.dropWhile_append_of_pos blank, List.dropWhile_cons_of_neg (by simp [solid])]

theorem afterBlanks?_append (blank : ∀ char ∈ blanks, isBlank char = true)
    (solid : isBlank char = false) (rest : Text) :
    afterBlanks? (blanks ++ char :: rest) = .ok (some char, char :: rest) := by
  refine bind_eq_ok rfl ?_
  rw [dropWhile_blanks blank solid]
  rfl

theorem afterBlanks?_cons (solid : isBlank char = false) (rest : Text) :
    afterBlanks? (char :: rest) = .ok (some char, char :: rest) :=
  afterBlanks?_append (List.forall_mem_nil _) solid rest

theorem word_append (letters rest : Text) : word letters (letters ++ rest) = .ok ((), rest) := by
  induction letters with
  | nil => rfl
  | cons letter letters ih =>
      rw [word]
      refine bind_eq_ok (next?_cons letter _) ?_
      simp only [if_true]
      exact bind_eq_ok (skip_cons letter _) ih

theorem textBody_append (text rest : Text) :
    textBody (text.flatMap escaped ++ '"' :: rest) = .ok (text, rest) :=
  readText_quoted text rest

theorem colon_cons (rest : Text) : colon (':' :: rest) = .ok ((), rest) :=
  bind_eq_ok (afterBlanks?_cons rfl rest) rfl

/-- Whether a value is read from the text that is written for it, whatever comes after that and
whatever blanks before. -/
structure Reads (reader : Reader α) (written : Text) (value : α) : Prop where
  begins : ∃ char after, written = char :: after ∧ isBlank char = false ∧ char ≠ ']'
  takes : ∀ blanks : Text, (∀ char ∈ blanks, isBlank char = true) → ∀ rest,
    reader (blanks ++ (written ++ rest)) = .ok (value, rest)

theorem Reads.takes_next {reader : Reader α} {written : Text} {value : α}
    (reads : Reads reader written value) (rest : Text) :
    reader (written ++ rest) = .ok (value, rest) :=
  reads.takes [] (List.forall_mem_nil _) rest

theorem Reads.map {reader : Reader α} {written : Text} {value : α}
    (reads : Reads reader written value) (change : α → β) :
    Reads (do return change (← reader)) written (change value) where
  begins := reads.begins
  takes blanks blank rest := bind_eq_ok (reads.takes blanks blank rest) rfl

theorem reads_boolean (value : Bool) :
    Reads boolean (Value.compact (.boolean value)) value where
  begins := by
    cases value with
    | false => exact ⟨'f', "alse".toList, rfl, rfl, by decide⟩
    | true => exact ⟨'t', "rue".toList, rfl, rfl, by decide⟩
  takes blanks blank rest := by
    cases value with
    | false =>
        refine bind_eq_ok (afterBlanks?_append blank rfl ("alse".toList ++ rest)) ?_
        refine bind_eq_ok (skip_cons 'f' _) ?_
        exact bind_eq_ok (word_append "alse".toList rest) rfl
    | true =>
        refine bind_eq_ok (afterBlanks?_append blank rfl ("rue".toList ++ rest)) ?_
        refine bind_eq_ok (skip_cons 't' _) ?_
        exact bind_eq_ok (word_append "rue".toList rest) rfl

theorem reads_textOf (expected text : Text) : Reads (textOf expected) (quoted text) text where
  begins := ⟨'"', _, rfl, rfl, by decide⟩
  takes blanks blank rest := by
    have written : quoted text ++ rest = '"' :: (text.flatMap escaped ++ '"' :: rest) := by
      simp [quoted]
    rw [written]
    refine bind_eq_ok (afterBlanks?_append blank rfl _) ?_
    exact bind_eq_ok (skip_cons '"' _) (textBody_append text rest)

theorem reads_null (reader : Reader α) : Reads (optional reader) "null".toList none where
  begins := ⟨'n', "ull".toList, rfl, rfl, by decide⟩
  takes blanks blank rest := by
    refine bind_eq_ok (afterBlanks?_append blank rfl ("ull".toList ++ rest)) ?_
    refine bind_eq_ok (skip_cons 'n' _) ?_
    exact bind_eq_ok (word_append "ull".toList rest) rfl

theorem reads_optional {reader : Reader α} {written : Text} {value : α}
    (reads : Reads reader written value) (present : written.head? ≠ some 'n') :
    Reads (optional reader) written (some value) where
  begins := reads.begins
  takes blanks blank rest := by
    rcases reads.begins with ⟨char, after, rfl, solid, _⟩
    have other : char ≠ 'n' := by simpa using present
    refine bind_eq_ok (afterBlanks?_append blank solid (after ++ rest)) ?_
    have read := reads.takes_next rest
    simp only [Option.some.injEq, other, imp_self]
    exact bind_eq_ok read rfl

theorem hasElement_first (solid : isBlank char = false) (notClosing : char ≠ ']')
    (blank : ∀ char ∈ blanks, isBlank char = true) (rest : Text) :
    hasElement true (blanks ++ char :: rest) = .ok (true, char :: rest) := by
  refine bind_eq_ok (afterBlanks?_append blank solid rest) ?_
  simp only
  rfl

theorem hasElement_further (solid : isBlank char = false) (notClosing : char ≠ ']')
    (blank : ∀ char ∈ blanks, isBlank char = true) (rest : Text) :
    hasElement false (',' :: (blanks ++ char :: rest)) = .ok (true, char :: rest) := by
  refine bind_eq_ok (afterBlanks?_cons rfl _) ?_
  refine bind_eq_ok (skip_cons ',' _) ?_
  refine bind_eq_ok (afterBlanks?_append blank solid rest) ?_
  simp only
  rfl

theorem hasElement_closing (isFirst : Bool) (blank : ∀ char ∈ blanks, isBlank char = true)
    (rest : Text) : hasElement isFirst (blanks ++ ']' :: rest) = .ok (false, ']' :: rest) :=
  bind_eq_ok (afterBlanks?_append blank rfl rest) rfl

theorem elements_further (layout : Layout) {element : Reader α} {write : α → Text}
    (each : ∀ value, Reads element (write value) value) (rest : Text) (values : List α) (room : Nat)
    (enough : values.length < room) :
    elements.more element room false (layout.remainder ']' (values.map write) rest) =
      .ok (values, ']' :: rest) := by
  induction values generalizing room with
  | nil =>
      rcases Nat.exists_eq_add_one_of_ne_zero (Nat.ne_of_gt enough) with ⟨room, rfl⟩
      exact bind_eq_ok (hasElement_closing false layout.tail_blank rest) rfl
  | cons value values ih =>
      rcases Nat.exists_eq_add_one_of_ne_zero (Nat.ne_of_gt (Nat.zero_lt_of_lt enough)) with
        ⟨room, rfl⟩
      rcases (each value).begins with ⟨char, after, written, solid, notClosing⟩
      have read := (each value).takes_next (layout.remainder ']' (values.map write) rest)
      rw [List.map_cons, Layout.remainder_cons]
      rw [written, List.cons_append] at read ⊢
      refine bind_eq_ok (hasElement_further solid notClosing layout.lead_blank _) ?_
      refine bind_eq_ok read ?_
      exact bind_eq_ok (ih room (Nat.lt_of_succ_lt_succ enough)) rfl

theorem enter_cons {depth : Nat} (deep : 1 < depth) (char : Char) (rest : Text) :
    enter (depth - 1) (char :: rest) = .ok ((), rest) := by
  unfold enter
  rw [if_neg (by omega)]
  rfl

theorem closed_eq_ok {inside : Reader α} {closing : Closing} {value : α}
    (read : inside text = .ok (value, between)) (ends : closing between = (none, left)) :
    closed inside closing text = .ok (value, left) := by
  unfold closed
  rw [read]
  simp only [ends]

theorem endOfList_cons (rest : Text) : endOfList (']' :: rest) = (none, rest) :=
  rfl

theorem elements_enclosed (layout : Layout) {element : Reader α} {write : α → Text}
    (each : ∀ value, Reads element (write value) value) (rest : Text) (value : α)
    (values : List α) :
    elements element
        (layout.lead ++ (write value ++ layout.remainder ']' (values.map write) rest)) =
      .ok (value :: values, ']' :: rest) := by
  rcases (each value).begins with ⟨char, after, written, solid, notClosing⟩
  have read := (each value).takes_next (layout.remainder ']' (values.map write) rest)
  have short := layout.length_lt_remainder ']' (values.map write) rest
  rw [List.length_map] at short
  rw [written, List.cons_append] at read ⊢
  refine bind_eq_ok rfl ?_
  have enough : values.length + 1 <
      (layout.lead ++ char :: (after ++ layout.remainder ']' (values.map write) rest)).length := by
    simp only [List.length_append, List.length_cons]
    omega
  rcases Nat.exists_eq_add_of_lt enough with ⟨more, room⟩
  rw [room]
  refine bind_eq_ok (hasElement_first solid notClosing layout.lead_blank _) ?_
  refine bind_eq_ok read ?_
  exact bind_eq_ok (elements_further layout each rest values _ (by omega)) rfl

/-- A list is read from every layout. -/
theorem reads_list (layout : Layout) {depth : Nat} (deep : 1 < depth) {element : Reader α}
    {write : α → Text} (each : ∀ value, Reads element (write value) value) (values : List α) :
    Reads (list depth element) (layout.list (values.map write)) values where
  begins := by
    cases values with
    | nil => exact ⟨'[', _, rfl, rfl, by decide⟩
    | cons value values => exact ⟨'[', _, rfl, rfl, by decide⟩
  takes blanks blank rest := by
    cases values with
    | nil =>
        refine bind_eq_ok (afterBlanks?_append blank rfl (']' :: rest)) ?_
        refine bind_eq_ok (enter_cons deep '[' _) ?_
        refine closed_eq_ok ?_ (endOfList_cons rest)
        refine bind_eq_ok rfl ?_
        exact bind_eq_ok (hasElement_closing true (List.forall_mem_nil _) rest) rfl
    | cons value values =>
        rw [Layout.list, List.map_cons, Layout.enclosed_cons_append]
        refine bind_eq_ok (afterBlanks?_append blank rfl _) ?_
        refine bind_eq_ok (enter_cons deep '[' _) ?_
        exact closed_eq_ok (elements_enclosed layout each rest value values) (endOfList_cons rest)

theorem hasKey_first (blank : ∀ char ∈ blanks, isBlank char = true) (rest : Text) :
    hasKey true (blanks ++ '"' :: rest) = .ok (true, rest) :=
  bind_eq_ok (afterBlanks?_append blank rfl rest) rfl

theorem hasKey_further (blank : ∀ char ∈ blanks, isBlank char = true) (rest : Text) :
    hasKey false (',' :: (blanks ++ '"' :: rest)) = .ok (true, rest) := by
  refine bind_eq_ok (afterBlanks?_cons rfl _) ?_
  refine bind_eq_ok (skip_cons ',' _) ?_
  exact bind_eq_ok (afterBlanks?_append blank rfl rest) rfl

theorem hasKey_closing (isFirst : Bool) (blank : ∀ char ∈ blanks, isBlank char = true)
    (rest : Text) : hasKey isFirst (blanks ++ '\x7d' :: rest) = .ok (false, '\x7d' :: rest) :=
  bind_eq_ok (afterBlanks?_append blank rfl rest) rfl

theorem endOfObject_cons (rest : Text) : endOfObject ('\x7d' :: rest) = (none, rest) :=
  rfl

namespace Record

variable {σ : Type} {record : Record σ α}

/-- Whether members, given by their names and what is written for their values, lead from one state
to another. -/
inductive Builds (record : Record σ α) : σ → List (Text × Text) → σ → Prop where
  | nil (state : σ) : Builds record state [] state
  | cons {before between after : σ} {name written : Text} {parts : List (Text × Text)}
      (member : Member σ) (known : record.members.find? (·.name == name) = some member)
      (unread : member.isRead before = false)
      (reads : Reads (member.read before) written between)
      (later : Builds record between parts after) :
      Builds record before ((name, written) :: parts) after

/-- One member is read, and then those after it. -/
theorem more_member (layout : Layout) {before between after : σ} {name written further : Text}
    {room : Nat} {isFirst : Bool} {member : Member σ}
    (opened : hasKey isFirst text =
      .ok (true, name.flatMap escaped ++ '"' :: ':' :: (layout.gap ++ (written ++ further))))
    (known : record.members.find? (·.name == name) = some member)
    (unread : member.isRead before = false) (reads : Reads (member.read before) written between)
    (later : fromObject.more record room false between further = .ok (after, left)) :
    fromObject.more record (room + 1) isFirst before text = .ok (after, left) := by
  refine bind_eq_ok opened ?_
  simp only [if_true]
  refine bind_eq_ok (textBody_append name _) ?_
  simp only [known, unread]
  refine bind_eq_ok (colon_cons _) ?_
  exact bind_eq_ok (reads.takes layout.gap layout.gap_blank further) later

theorem more_further (layout : Layout) {before after : σ} {parts : List (Text × Text)}
    (builds : record.Builds before parts after) (rest : Text) (room : Nat)
    (enough : parts.length < room) :
    fromObject.more record room false before
        (layout.remainder '\x7d' (layout.members parts) rest) =
      .ok (after, '\x7d' :: rest) := by
  induction builds generalizing room with
  | nil state =>
      rcases Nat.exists_eq_add_one_of_ne_zero (Nat.ne_of_gt enough) with ⟨room, rfl⟩
      exact bind_eq_ok (hasKey_closing false layout.tail_blank rest) rfl
  | cons member known unread reads later ih =>
      rcases Nat.exists_eq_add_one_of_ne_zero (Nat.ne_of_gt (Nat.zero_lt_of_lt enough)) with
        ⟨room, rfl⟩
      rw [Layout.members_cons, Layout.remainder_cons, Layout.member_append]
      exact more_member layout (hasKey_further layout.lead_blank _) known unread reads
        (ih room (Nat.lt_of_succ_lt_succ enough))

theorem fromObject_enclosed (layout : Layout) {after : σ} {name written : Text}
    {parts : List (Text × Text)}
    (builds : record.Builds record.unread ((name, written) :: parts) after) (rest : Text) :
    record.fromObject
        (layout.lead ++ (layout.member name written ++
          layout.remainder '\x7d' (layout.members parts) rest)) =
      .ok (after, '\x7d' :: rest) := by
  cases builds with
  | cons member known unread reads later =>
      have short := layout.length_lt_remainder '\x7d' (layout.members parts) rest
      rw [Layout.members, List.length_map] at short
      rw [Layout.member_append]
      refine bind_eq_ok rfl ?_
      have enough : parts.length + 1 < (layout.lead ++ '"' :: (name.flatMap escaped ++
          '"' :: ':' :: (layout.gap ++ (written ++
            layout.remainder '\x7d' (layout.members parts) rest)))).length := by
        simp only [List.length_append, List.length_cons, Layout.members]
        omega
      rcases Nat.exists_eq_add_of_lt enough with ⟨more, room⟩
      rw [room]
      exact more_member layout (hasKey_first layout.lead_blank _) known unread reads
        (more_further layout later rest _ (by omega))

/-- A record is read from every layout of its members. -/
theorem reads_reader (layout : Layout) {depth : Nat} (deep : 1 < depth) {after : σ} {value : α}
    {name written : Text} {parts : List (Text × Text)}
    (builds : record.Builds record.unread ((name, written) :: parts) after)
    (complete : record.complete after = .ok value) :
    Reads (record.reader depth) (layout.object ((name, written) :: parts)) value where
  begins := ⟨'\x7b', _, rfl, rfl, by decide⟩
  takes blanks blank rest := by
    have finished : record.finish after ('\x7d' :: rest) = .ok (value, '\x7d' :: rest) := by
      unfold finish
      rw [complete]
      rfl
    rw [Layout.object, Layout.members_cons, Layout.enclosed_cons_append]
    refine bind_eq_ok (afterBlanks?_append blank rfl _) ?_
    refine bind_eq_ok (enter_cons deep '\x7b' _) ?_
    refine closed_eq_ok ?_ (endOfObject_cons rest)
    exact bind_eq_ok (fromObject_enclosed layout builds rest) finished

end Record

theorem whole_eq_ok {reader : Reader α} {written : Text} {value : α}
    (read : reader written = .ok (value, [])) : whole reader written = .ok value := by
  unfold whole
  rw [read]
  rfl

theorem Reads.whole_eq_ok {reader : Reader α} {written : Text} {value : α}
    (reads : Reads reader written value) : whole reader written = .ok value := by
  apply Reader.whole_eq_ok
  simpa using reads.takes_next []

end Reader

end Json

end Typeset
