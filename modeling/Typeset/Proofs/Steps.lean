/-!
# Steps that can fail

A computation of several steps that succeeds has succeeded in each of them, and one that fails has
failed in the first step that does.
-/

namespace Typeset

variable {Error First Second : Type}

/-- If two steps succeed one after the other, then each of them does. -/
theorem exists_ok_of_bind_eq_ok {first : Except Error First}
    {next : First → Except Error Second} {result : Second} (done : first >>= next = .ok result) :
    ∃ value, first = .ok value ∧ next value = .ok result := by
  cases first with
  | error error => cases done
  | ok value => exact ⟨value, rfl, done⟩

theorem bind_eq_ok_iff {first : Except Error First} {next : First → Except Error Second}
    {result : Second} :
    first >>= next = .ok result ↔ ∃ value, first = .ok value ∧ next value = .ok result := by
  constructor
  · exact exists_ok_of_bind_eq_ok
  · rintro ⟨value, rfl, done⟩
    exact done

theorem bind_eq_error_iff {first : Except Error First} {next : First → Except Error Second}
    {error : Error} :
    first >>= next = .error error ↔
      first = .error error ∨ ∃ value, first = .ok value ∧ next value = .error error := by
  cases first with
  | error other =>
      constructor
      · rintro ⟨⟩
        exact .inl rfl
      · rintro (⟨⟨⟩⟩ | ⟨_, ⟨⟩, _⟩)
        rfl
  | ok value =>
      constructor
      · exact fun failed => .inr ⟨value, rfl, failed⟩
      · rintro (⟨⟨⟩⟩ | ⟨_, ⟨⟩, failed⟩)
        exact failed

theorem map_eq_error_iff {outcome : Except Error First} {change : First → Second} {error : Error} :
    outcome.map change = .error error ↔ outcome = .error error := by
  cases outcome with
  | error other => simp [Except.map]
  | ok value => simp [Except.map]

theorem map_eq_ok_iff {outcome : Except Error First} {change : First → Second} {result : Second} :
    outcome.map change = .ok result ↔ ∃ value, outcome = .ok value ∧ change value = result := by
  cases outcome with
  | error other => simp [Except.map]
  | ok value => simp [Except.map]

theorem mapError_eq_ok_iff {Changed : Type} {outcome : Except Error First}
    {change : Error → Changed} {result : First} :
    outcome.mapError change = .ok result ↔ outcome = .ok result := by
  cases outcome with
  | error other => exact ⟨nofun, nofun⟩
  | ok value =>
      constructor
      · rintro ⟨⟩
        rfl
      · rintro ⟨⟩
        rfl

theorem pure_ne_error {result : Second} {error : Error} :
    (pure result : Except Error Second) ≠ .error error :=
  nofun

/-- Checks that are made one after the other fail with the error of the first that does. -/
theorem forM_eq_error_iff {Item : Type} {items : List Item} {check : Item → Except Error PUnit}
    {error : Error} :
    forM items check = .error error ↔
      ∃ earlier item later, items = earlier ++ item :: later ∧
        (∀ other ∈ earlier, check other = .ok ()) ∧ check item = .error error := by
  induction items with
  | nil => simp [pure_ne_error]
  | cons first items ih =>
      rw [List.forM_cons, bind_eq_error_iff, ih]
      constructor
      · rintro (failed | ⟨_, passed, earlier, item, later, rfl, allPassed, failed⟩)
        · exact ⟨[], first, items, rfl, by simp, failed⟩
        · exact ⟨first :: earlier, item, later, rfl,
            List.forall_mem_cons.mpr ⟨passed, allPassed⟩, failed⟩
      · rintro ⟨_ | ⟨other, earlier⟩, item, later, split, allPassed, failed⟩
        · cases split
          exact .inl failed
        · cases split
          exact .inr ⟨(), allPassed first (List.mem_cons_self ..), earlier, item, later, rfl,
            fun other member => allPassed other (List.mem_cons_of_mem _ member), failed⟩

/-- A step that has but one error fails just if it has no result. -/
theorem eq_error_iff {outcome : Except Error First} {only error : Error}
    (single : ∀ other, outcome = .error other → other = only) :
    outcome = .error error ↔ error = only ∧ ∀ value, outcome ≠ .ok value := by
  cases outcome with
  | error other =>
      cases single other rfl
      simp [eq_comm]
  | ok value => simp

/-- If what comes after a guard succeeds, then the guard has let it pass. -/
theorem exists_ok_of_guard {error : Error} {isBad : Prop} [Decidable isBad]
    {refused : First → Except Error Second} {passed : Except Error Second} {result : Second}
    (done : (if isBad then throw error >>= refused else passed) = .ok result) :
    ¬isBad ∧ passed = .ok result := by
  split at done
  · cases done
  · exact ⟨‹_›, done⟩

theorem eq_ok_of_toOption {outcome : Except Error Second} {result : Second}
    (done : outcome.toOption = some result) : outcome = .ok result := by
  cases outcome with
  | error error => cases done
  | ok value => exact congrArg Except.ok (Option.some.inj done)

end Typeset
