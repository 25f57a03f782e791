import Typeset.Proofs.Json.Layout

/-!
# Ways of writing

A value is written in one line or over several lines.  Both ways are laid out throughout: the parts
of a list or an object are written in the same way, one level deeper, and between them there are
only blanks.
-/

namespace Typeset

namespace Json

/-- A way of writing values, which may depend on the level that a value is on. -/
structure IsWriting (write : Nat → Value → Text) : Prop where
  null : ∀ level, write level .null = "null".toList
  boolean : ∀ level value, write level (.boolean value) = Value.compact (.boolean value)
  natural : ∀ level value, write level (.natural value) = Text.ofNat value
  text : ∀ level value, write level (.text value) = quoted value
  list : ∀ level values, ∃ layout : Layout,
    write level (.list values) = layout.list (values.map (write (level + 1)))
  object : ∀ level members, ∃ layout : Layout,
    write level (.object members) =
      layout.object (members.map fun part => (part.1, write (level + 1) part.2))

namespace Layout

/-- No blanks at all. -/
def plain : Layout :=
  ⟨[], [], [], List.forall_mem_nil _, List.forall_mem_nil _, List.forall_mem_nil _⟩

theorem isBlank_of_mem_newLine (level : Nat) :
    ∀ char ∈ Value.newLine level, Reader.isBlank char = true := by
  intro char member
  rcases List.mem_cons.mp member with rfl | space
  · rfl
  · rw [List.eq_of_mem_replicate space]
    rfl

/-- Every part on a line of its own. -/
def lines (level : Nat) : Layout where
  lead := Value.newLine (level + 1)
  gap := [' ']
  tail := Value.newLine level
  lead_blank := isBlank_of_mem_newLine (level + 1)
  gap_blank := by simp [Reader.isBlank]
  tail_blank := isBlank_of_mem_newLine level

end Layout

namespace Value

theorem compactList_cons (value : Value) (values : List Value) :
    compactList (value :: values) =
      value.compact ++ Layout.plain.further (values.map compact) := by
  induction values generalizing value with
  | nil => simp [compactList, Layout.further]
  | cons next values ih =>
      rw [compactList, ih, List.map_cons, Layout.further_cons]
      rfl

theorem compactMembers_cons (part : Text × Value) (parts : List (Text × Value)) :
    compactMembers (part :: parts) =
      Layout.plain.member part.1 part.2.compact ++
        Layout.plain.further
          (Layout.plain.members (parts.map fun part => (part.1, part.2.compact))) := by
  induction parts generalizing part with
  | nil => simp [compactMembers, Layout.further, Layout.members, Layout.member, Layout.plain]
  | cons next parts ih =>
      rw [compactMembers, ih, List.map_cons, Layout.members_cons, Layout.further_cons]
      simp [Layout.member, Layout.plain]

theorem prettyList_eq (level : Nat) (values : List Value) :
    prettyList (level + 1) values =
      (Layout.lines level).further (values.map (pretty (level + 1))) := by
  induction values with
  | nil => rfl
  | cons value values ih =>
      rw [prettyList, ih, List.map_cons, Layout.further_cons]
      rfl

theorem prettyMembers_eq (level : Nat) (parts : List (Text × Value)) :
    prettyMembers (level + 1) parts =
      (Layout.lines level).further
        ((Layout.lines level).members
          (parts.map fun part => (part.1, part.2.pretty (level + 1)))) := by
  induction parts with
  | nil => rfl
  | cons part parts ih =>
      rw [prettyMembers, ih, List.map_cons, Layout.members_cons, Layout.further_cons]
      simp [Layout.member, Layout.lines]

theorem isWriting_compact : IsWriting fun _ => compact where
  null _ := rfl
  boolean _ _ := rfl
  natural _ _ := rfl
  text _ _ := rfl
  list _ values := by
    refine ⟨.plain, ?_⟩
    cases values with
    | nil => rfl
    | cons value values =>
        simp [compact, compactList_cons, Layout.list, Layout.enclosed, Layout.plain]
  object _ members := by
    refine ⟨.plain, ?_⟩
    cases members with
    | nil => rfl
    | cons part parts =>
        rw [List.map_cons, Layout.object, Layout.members_cons]
        simp [compact, compactMembers_cons, Layout.enclosed, Layout.plain]

theorem isWriting_pretty : IsWriting pretty where
  null _ := rfl
  boolean _ value := by cases value <;> rfl
  natural _ _ := rfl
  text _ _ := rfl
  list level values := by
    refine ⟨.lines level, ?_⟩
    cases values with
    | nil => rfl
    | cons value values =>
        simp [pretty, prettyList_eq, Layout.list, Layout.enclosed, Layout.lines]
  object level members := by
    refine ⟨.lines level, ?_⟩
    cases members with
    | nil => rfl
    | cons part parts =>
        rw [List.map_cons, Layout.object, Layout.members_cons]
        simp [pretty, prettyMembers_eq, Layout.enclosed, Layout.member, Layout.lines]

end Value

end Json

end Typeset
