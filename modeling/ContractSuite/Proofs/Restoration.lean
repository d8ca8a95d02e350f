import ContractSuite.EnvironmentScope

namespace ContractSuite

theorem VariableGuard.get?_restore (guard : VariableGuard) (e : Environment) (key : String) :
    (guard.restore e).get? key = if key = guard.key then guard.former else e.get? key :=
  Environment.get?_put e guard.key key guard.former

namespace EnvironmentScope

/-- The values that a variable has in the course of changes: the one from before, and one more for each change of it. -/
def valuesOf (key : String) (changes : List VariableChange) (e : Environment) : List (Option String) :=
  e.get? key :: (changes.filter (·.key = key)).map VariableChange.value

theorem get?_applyAll (changes : List VariableChange) (e : Environment) (key : String) :
    some ((applyAll changes e).2.get? key) = (valuesOf key changes e).getLast? := by
  induction changes generalizing e with
  | nil => rfl
  | cons change more ih =>
    have later := ih (e.put change.key change.value)
    unfold valuesOf at later ⊢
    rw [Environment.get?_put] at later
    by_cases here : change.key = key
    · rw [if_pos here.symm] at later
      rw [List.filter_cons_of_pos (by simpa using here), List.map_cons, List.getLast?_cons_cons]
      exact later
    · rw [if_neg (Ne.symm here)] at later
      rw [List.filter_cons_of_neg (by simpa using here)]
      exact later

/-- The guards of a variable hold the values that it has had, without the last one. -/
theorem formers_applyAll (changes : List VariableChange) (e : Environment) (key : String) :
    ((applyAll changes e).1.filter (·.key = key)).map VariableGuard.former = (valuesOf key changes e).dropLast := by
  induction changes generalizing e with
  | nil => rfl
  | cons change more ih =>
    have later := ih (e.put change.key change.value)
    have guards : (applyAll (change :: more) e).1 =
        ⟨change.key, e.get? change.key⟩ :: (applyAll more (e.put change.key change.value)).1 := rfl
    unfold valuesOf at later ⊢
    rw [Environment.get?_put] at later
    by_cases here : change.key = key
    · rw [if_pos here.symm] at later
      rw [guards, List.filter_cons_of_pos (by simpa using here), List.filter_cons_of_pos (by simpa using here),
        List.map_cons, List.map_cons, later, List.dropLast_cons_cons, here]
    · rw [if_neg (Ne.symm here)] at later
      rw [guards, List.filter_cons_of_neg (by simpa using here), List.filter_cons_of_neg (by simpa using here)]
      exact later

theorem get?_leave (guards : List VariableGuard) (e : Environment) (key : String) :
    (leave ⟨guards⟩ e).get? key =
      ((guards.filter (·.key = key)).map VariableGuard.former).getLast?.getD (e.get? key) := by
  unfold leave
  induction guards generalizing e with
  | nil => rfl
  | cons guard more ih =>
    have later := ih (guard.restore e)
    rw [VariableGuard.get?_restore] at later
    rw [List.foldl_cons, later]
    by_cases here : guard.key = key
    · rw [if_pos here.symm, List.filter_cons_of_pos (by simpa using here), List.map_cons, List.getLast?_cons,
        Option.getD_some]
    · rw [if_neg (Ne.symm here), List.filter_cons_of_neg (by simpa using here)]

/-- A variable is left with the last value that it has had but one, or with its only one. -/
theorem get?_leave_enter (changes : List VariableChange) (e : Environment) (key : String) :
    ((enter changes e).1.leave (enter changes e).2).get? key =
      (valuesOf key changes e).dropLast.getLast?.getD (e.get? key) := by
  have guarded : (enter changes e).1 = ⟨(applyAll changes e).1⟩ := rfl
  have changed : (enter changes e).2 = (applyAll changes e).2 := rfl
  rw [guarded, changed, get?_leave, formers_applyAll]
  have current := get?_applyAll changes e key
  unfold valuesOf at current ⊢
  cases values : (changes.filter (·.key = key)).map VariableChange.value with
  | nil =>
    rw [values, List.getLast?_singleton] at current
    rw [Option.some.inj current]
  | cons value more => rw [List.dropLast_cons_cons, List.getLast?_cons, Option.getD_some, Option.getD_some]

theorem get?_leave_enter_of_single {changes : List VariableChange} {key : String}
    (single : changes.countP (·.key = key) ≤ 1) (e : Environment) :
    ((enter changes e).1.leave (enter changes e).2).get? key = e.get? key := by
  rw [get?_leave_enter]
  rw [List.countP_eq_length_filter] at single
  unfold valuesOf
  generalize changes.filter (·.key = key) = own at single ⊢
  rcases own with _ | ⟨change, _ | ⟨second, more⟩⟩
  · rfl
  · rfl
  · simp only [List.length_cons] at single
    omega

/-- Guards that are given up one by one, the latest first, undo their changes. -/
theorem get?_foldr_restore (changes : List VariableChange) (e : Environment) (key : String) :
    ((applyAll changes e).1.foldr VariableGuard.restore (applyAll changes e).2).get? key = e.get? key := by
  induction changes generalizing e with
  | nil => rfl
  | cons change more ih =>
    have later := ih (e.put change.key change.value)
    rw [Environment.get?_put] at later
    have undone : (applyAll (change :: more) e).1.foldr VariableGuard.restore (applyAll (change :: more) e).2 =
        VariableGuard.restore ⟨change.key, e.get? change.key⟩
          ((applyAll more (e.put change.key change.value)).1.foldr VariableGuard.restore
            (applyAll more (e.put change.key change.value)).2) := rfl
    rw [undone, VariableGuard.get?_restore, later]
    by_cases here : key = change.key
    · rw [if_pos here, here]
    · rw [if_neg here, if_neg here]

/-- Closing a scope leaves each variable with the value from before its last change, and so restores those that have
been changed at most once. The same guards given up one by one, the latest first, restore all of them. -/
theorem leave_restores (changes : List VariableChange) (e : Environment) :
    (∀ key, ((enter changes e).1.leave (enter changes e).2).get? key =
      (valuesOf key changes e).dropLast.getLast?.getD (e.get? key)) ∧
    (∀ key, changes.countP (·.key = key) ≤ 1 →
      ((enter changes e).1.leave (enter changes e).2).get? key = e.get? key) ∧
    (∀ key, ((enter changes e).1.guards.foldr VariableGuard.restore (enter changes e).2).get? key = e.get? key) := by
  refine ⟨get?_leave_enter changes e, ?_, get?_foldr_restore changes e⟩
  intro key single
  exact get?_leave_enter_of_single single e

/-- A variable that was absent and is set twice in a scope keeps the first value when the scope is closed. -/
theorem leave_after_second_change :
    (enter [⟨"STEPS", some "first"⟩, ⟨"STEPS", some "second"⟩] []).2.get? "STEPS" = some "second" ∧
    ((enter [⟨"STEPS", some "first"⟩, ⟨"STEPS", some "second"⟩] []).1.leave
      (enter [⟨"STEPS", some "first"⟩, ⟨"STEPS", some "second"⟩] []).2).get? "STEPS" = some "first" ∧
    Environment.get? [] "STEPS" = none := by
  decide

end EnvironmentScope

end ContractSuite
