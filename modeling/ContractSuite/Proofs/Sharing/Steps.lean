import ContractSuite.Sharing
import Mathlib.Data.List.Basic
import Mathlib.Data.List.Nodup
import Mathlib.Data.List.Perm.Basic

namespace ContractSuite.Sharing

namespace Lock

variable {Thread : Type} [DecidableEq Thread] {thread other : Thread} {lock lock' : Lock Thread}

theorem cases_of_take? (taken : lock.take? thread = some lock') :
    lock = free ∧ lock' = held thread 0 ∨
      ∃ further, lock = held thread further ∧ lock' = held thread (further + 1) := by
  cases lock with
  | free =>
    cases taken
    exact .inl ⟨rfl, rfl⟩
  | held owner further =>
    rw [take?] at taken
    split at taken
    · next same =>
      subst same
      cases taken
      exact .inr ⟨further, rfl, rfl⟩
    · cases taken

theorem exists_of_depthOf_pos (held : 0 < lock.depthOf thread) : ∃ further, lock = .held thread further := by
  cases lock with
  | free => cases held
  | held owner further =>
    rw [depthOf] at held
    split at held
    · next same => exact ⟨further, by rw [same]⟩
    · cases held

theorem depthOf_take (taken : lock.take? thread = some lock') : lock'.depthOf thread = lock.depthOf thread + 1 := by
  obtain ⟨rfl, rfl⟩ | ⟨further, rfl, rfl⟩ := cases_of_take? taken <;> simp [depthOf]

theorem depthOf_take_of_ne (taken : lock.take? thread = some lock') (differs : other ≠ thread) :
    lock'.depthOf other = lock.depthOf other := by
  obtain ⟨rfl, rfl⟩ | ⟨further, rfl, rfl⟩ := cases_of_take? taken <;> simp [depthOf, differs.symm]

theorem depthOf_giveUp (held : 0 < lock.depthOf thread) :
    lock.giveUp.depthOf thread + 1 = lock.depthOf thread := by
  obtain ⟨further, rfl⟩ := exists_of_depthOf_pos held
  cases further <;> simp [giveUp, depthOf]

theorem depthOf_giveUp_of_ne (held : 0 < lock.depthOf thread) (differs : other ≠ thread) :
    lock.giveUp.depthOf other = lock.depthOf other := by
  obtain ⟨further, rfl⟩ := exists_of_depthOf_pos held
  cases further <;> simp [giveUp, depthOf, differs.symm]

theorem isSome_take?_of_pos (held : 0 < lock.depthOf thread) : (lock.take? thread).isSome = true := by
  obtain ⟨further, rfl⟩ := exists_of_depthOf_pos held
  rw [take?, if_pos rfl, Option.isSome_some]

/-- To take the lock and to give it up leaves it as it was. -/
theorem giveUp_of_take (taken : lock.take? thread = some lock') : lock'.giveUp = lock := by
  obtain ⟨rfl, rfl⟩ | ⟨further, rfl, rfl⟩ := cases_of_take? taken <;> rfl

/-- Only one thread holds the lock. -/
theorem eq_of_depthOf_pos (held : 0 < lock.depthOf thread) (heldToo : 0 < lock.depthOf other) : thread = other := by
  obtain ⟨further, rfl⟩ := exists_of_depthOf_pos held
  obtain ⟨furtherToo, same⟩ := exists_of_depthOf_pos heldToo
  exact (Lock.held.inj same).1

end Lock

section Advances

variable {Thread : Type} [DecidableEq Thread]

/-- All that a step of a thread can be: the state of the thread and what is shared, before it and after it. -/
inductive Advances (thread : Thread) (shared : Shared Thread) :
    Action → ThreadState → ThreadState → Shared Thread → Prop
  | enter {holdings : List Holding} {lock : Lock Thread} (atRest : ThreadState.isAtRest ⟨holdings, .idle⟩ = true)
      (taken : shared.lock.take? thread = some lock) :
      Advances thread shared .enter ⟨holdings, .idle⟩ ⟨.building [] :: holdings, .idle⟩ ⟨shared.environment, lock⟩
  | keep {change : VariableChange} {guards : List VariableGuard} {others : List Holding}
      (fresh : change.key ∉ guards.map VariableGuard.key) :
      Advances thread shared (.keep change) ⟨.building guards :: others, .idle⟩
        ⟨.building (guards ++ [(change.apply shared.environment).1]) :: others, .idle⟩
        ⟨(change.apply shared.environment).2, shared.lock⟩
  | finish {guards kept : List VariableGuard} {above below : List Holding} (perm : guards.Perm kept) :
      Advances thread shared (.finish guards) ⟨above ++ .building kept :: below, .idle⟩
        ⟨above ++ .scope ⟨guards⟩ :: below, .idle⟩ shared
  | guard {change : VariableChange} {holdings : List Holding} (atRest : ThreadState.isAtRest ⟨holdings, .idle⟩ = true) :
      Advances thread shared (.guard change) ⟨holdings, .idle⟩ ⟨holdings, .locking (.change change)⟩ shared
  | lend {change : VariableChange} {holdings : List Holding} (isBuilding : holdings.any Holding.isBuilding = true) :
      Advances thread shared (.lend change) ⟨holdings, .idle⟩
        ⟨.guard (change.apply shared.environment).1 :: holdings, .idle⟩
        ⟨(change.apply shared.environment).2, shared.lock⟩
  | dropGuard {guard : VariableGuard} {others : List Holding} :
      Advances thread shared .drop ⟨.guard guard :: others, .idle⟩ ⟨others, .locking (.restore guard)⟩ shared
  | dropScope {scope : EnvironmentScope} {others : List Holding} :
      Advances thread shared .drop ⟨.scope scope :: others, .idle⟩ ⟨.closing scope.guards :: others, .idle⟩ shared
  | lock {holdings : List Holding} {write : Write} {lock : Lock Thread} (taken : shared.lock.take? thread = some lock) :
      Advances thread shared .proceed ⟨holdings, .locking write⟩ ⟨holdings, .writing write⟩ ⟨shared.environment, lock⟩
  | change {holdings : List Holding} {change : VariableChange} :
      Advances thread shared .proceed ⟨holdings, .writing (.change change)⟩
        ⟨.guard (change.apply shared.environment).1 :: holdings, .unlocking⟩
        ⟨(change.apply shared.environment).2, shared.lock⟩
  | restore {holdings : List Holding} {guard : VariableGuard} :
      Advances thread shared .proceed ⟨holdings, .writing (.restore guard)⟩ ⟨holdings, .unlocking⟩
        ⟨guard.restore shared.environment, shared.lock⟩
  | unlock {holdings : List Holding} :
      Advances thread shared .proceed ⟨holdings, .unlocking⟩ ⟨holdings, .idle⟩
        ⟨shared.environment, shared.lock.giveUp⟩
  | close {guard : VariableGuard} {guards : List VariableGuard} {others : List Holding} :
      Advances thread shared .proceed ⟨.closing (guard :: guards) :: others, .idle⟩
        ⟨.closing guards :: others, .locking (.restore guard)⟩ shared
  | leave {others : List Holding} :
      Advances thread shared .proceed ⟨.closing [] :: others, .idle⟩ ⟨others, .idle⟩
        ⟨shared.environment, shared.lock.giveUp⟩

theorem ThreadState.phase_of_isAtRest {own : ThreadState} (atRest : own.isAtRest = true) : own.phase = .idle := by
  unfold isAtRest at atRest
  split at atRest
  · cases atRest
  · rfl
  · cases atRest

theorem exists_of_handOver? {guards : List VariableGuard} {holdings holdings' : List Holding}
    (handed : handOver? guards holdings = some holdings') :
    ∃ above kept below, guards.Perm kept ∧ holdings = above ++ .building kept :: below ∧
      holdings' = above ++ .scope ⟨guards⟩ :: below := by
  fun_induction handOver? guards holdings generalizing holdings' with
  | case1 => cases handed
  | case2 kept others same =>
    cases handed
    exact ⟨[], kept, others, List.isPerm_iff.mp same, rfl, rfl⟩
  | case3 => cases handed
  | case4 holding others _ ih =>
    obtain ⟨later, handedLater, rfl⟩ := Option.map_eq_some_iff.mp handed
    obtain ⟨above, kept, below, perm, rfl, rfl⟩ := ih handedLater
    exact ⟨holding :: above, kept, below, perm, rfl, rfl⟩

theorem advances_of_advance? {thread : Thread} {shared shared' : Shared Thread} {action : Action}
    {own own' : ThreadState} (step : advance? thread shared action own = some (own', shared')) :
    Advances thread shared action own own' shared' := by
  fun_cases advance? thread shared action own with
  | case1 own atRest =>
    simp only [advance?, if_pos atRest] at step
    obtain ⟨lock, taken, made⟩ := Option.map_eq_some_iff.mp step
    obtain ⟨holdings, phase⟩ := own
    obtain rfl : phase = .idle := ThreadState.phase_of_isAtRest atRest
    cases made
    exact .enter atRest taken
  | case4 change guards others guard environment made fresh =>
    simp only [advance?, if_neg fresh] at step
    cases step
    exact .keep fresh
  | case5 guards own atRest =>
    simp only [advance?, if_pos atRest] at step
    obtain ⟨holdings', handed, made⟩ := Option.map_eq_some_iff.mp step
    obtain ⟨holdings, phase⟩ := own
    obtain rfl : phase = .idle := ThreadState.phase_of_isAtRest atRest
    obtain ⟨above, kept, below, perm, rfl, rfl⟩ := exists_of_handOver? handed
    cases made
    exact .finish perm
  | case7 change own atRest =>
    simp only [advance?, if_pos atRest] at step
    obtain ⟨holdings, phase⟩ := own
    obtain rfl : phase = .idle := ThreadState.phase_of_isAtRest atRest
    cases step
    exact .guard atRest
  | case9 change own guard environment made lent =>
    simp only [advance?, if_pos lent] at step
    obtain ⟨atRest, isBuilding⟩ := Bool.and_eq_true_iff.mp lent
    obtain ⟨holdings, phase⟩ := own
    obtain rfl : phase = .idle := ThreadState.phase_of_isAtRest atRest
    cases step
    exact .lend isBuilding
  | case11 =>
    cases step
    exact .dropGuard
  | case12 =>
    cases step
    exact .dropScope
  | case13 holdings write =>
    obtain ⟨lock, taken, made⟩ := Option.map_eq_some_iff.mp step
    cases made
    exact .lock taken
  | case14 =>
    cases step
    exact .change
  | case15 =>
    cases step
    exact .restore
  | case16 =>
    cases step
    exact .unlock
  | case17 =>
    cases step
    exact .close
  | case18 =>
    cases step
    exact .leave
  | case2 _ refused | case3 _ _ _ _ _ _ refused | case6 _ _ refused | case8 _ _ refused | case10 _ _ _ _ _ refused =>
    simp [advance?, refused] at step
  | case19 => simp_all [advance?]

end Advances

theorem Holding.isScope_of_isBuilding {holding : Holding} (building : holding.isBuilding = true) :
    holding.isScope = true := by
  cases holding with
  | building => rfl
  | guard | scope | closing => cases building

/-- What all steps keep of a thread that holds the lock so many times. -/
structure ThreadState.IsSound (own : ThreadState) (depth : Nat) : Prop where
  /-- The lock is held once for each scope, and once more for a write that is under way. -/
  depth_eq : depth = own.holdings.countP Holding.isScope + own.phase.depth
  distinct : ∀ holding ∈ own.holdings, (holding.guards.map VariableGuard.key).Nodup

theorem ThreadState.IsSound.pos_of_isScope {own : ThreadState} {depth : Nat} (sound : own.IsSound depth)
    {holding : Holding} (has : holding ∈ own.holdings) (isScope : holding.isScope = true) : 0 < depth := by
  have counted : 0 < own.holdings.countP Holding.isScope := List.countP_pos_iff.mpr ⟨holding, has, isScope⟩
  have depth_eq := sound.depth_eq
  omega

namespace Advances

variable {Thread : Type} [DecidableEq Thread] {thread other : Thread} {shared shared' : Shared Thread} {action : Action}
  {own own' : ThreadState}

/-- A variable is written only under the lock. -/
theorem pos_of_written? (advances : Advances thread shared action own own' shared')
    (sound : own.IsSound (shared.lock.depthOf thread)) {key : String} (written : own.written? action = some key) :
    0 < shared.lock.depthOf thread := by
  have depth_eq := sound.depth_eq
  cases advances with
  | keep fresh => exact sound.pos_of_isScope List.mem_cons_self rfl
  | lend isBuilding =>
    obtain ⟨holding, has, building⟩ := List.any_eq_true.mp isBuilding
    exact sound.pos_of_isScope has (Holding.isScope_of_isBuilding building)
  | change | restore =>
    simp only [Phase.depth] at depth_eq
    omega
  | _ => cases written

/-- An action that writes no variable leaves the environment as it is. -/
theorem environment_of_written?_eq_none (advances : Advances thread shared action own own' shared')
    (written : own.written? action = none) : shared'.environment = shared.environment := by
  cases advances with
  | keep | lend | change | restore => cases written
  | _ => rfl

theorem environment_of_not_pos (advances : Advances thread shared action own own' shared')
    (sound : own.IsSound (shared.lock.depthOf thread)) (notHeld : ¬ 0 < shared.lock.depthOf thread) :
    shared'.environment = shared.environment := by
  refine advances.environment_of_written?_eq_none (Option.eq_none_iff_forall_ne_some.mpr fun key written => ?_)
  exact notHeld (advances.pos_of_written? sound written)

theorem get?_of_written?_ne (advances : Advances thread shared action own own' shared') {key : String}
    (spared : own.written? action ≠ some key) : shared'.environment.get? key = shared.environment.get? key := by
  have other {written : String} {value? : Option String} (differs : some written ≠ some key) :
      (shared.environment.put written value?).get? key = shared.environment.get? key := by
    rw [Environment.get?_put, if_neg]
    rintro rfl
    exact differs rfl
  cases advances with
  | keep | lend | change | restore => exact other spared
  | _ => rfl

theorem isSound (advances : Advances thread shared action own own' shared')
    (sound : own.IsSound (shared.lock.depthOf thread)) : own'.IsSound (shared'.lock.depthOf thread) := by
  obtain ⟨depth_eq, distinct⟩ := sound
  cases advances with
  | enter atRest taken =>
    refine ⟨?_, List.forall_mem_cons.mpr ⟨List.nodup_nil, distinct⟩⟩
    rw [Lock.depthOf_take taken, depth_eq, List.countP_cons_of_pos rfl]
    rfl
  | @keep change guards others fresh =>
    obtain ⟨apart, later⟩ := List.forall_mem_cons.mp distinct
    refine ⟨?_, List.forall_mem_cons.mpr ⟨?_, later⟩⟩
    · rw [depth_eq, List.countP_cons_of_pos rfl, List.countP_cons_of_pos rfl]
    · have added : ((guards ++ [(change.apply shared.environment).1]).map VariableGuard.key) =
          guards.map VariableGuard.key ++ [change.key] := List.map_append
      rw [Holding.guards, added]
      exact List.nodup_append.mpr ⟨apart, List.nodup_singleton _, by simpa using fresh⟩
  | @finish guards kept above below perm =>
    refine ⟨?_, ?_⟩
    · rw [depth_eq, List.countP_append, List.countP_append, List.countP_cons_of_pos rfl, List.countP_cons_of_pos rfl]
    · rw [List.forall_mem_append, List.forall_mem_cons] at distinct ⊢
      exact ⟨distinct.1, (perm.map VariableGuard.key).nodup_iff.mpr distinct.2.1, distinct.2.2⟩
  | guard => exact ⟨depth_eq, distinct⟩
  | lend =>
    refine ⟨?_, List.forall_mem_cons.mpr ⟨List.nodup_singleton _, distinct⟩⟩
    rw [depth_eq, List.countP_cons_of_neg Bool.false_ne_true]
  | dropGuard =>
    refine ⟨?_, (List.forall_mem_cons.mp distinct).2⟩
    rw [depth_eq, List.countP_cons_of_neg Bool.false_ne_true]
    rfl
  | dropScope =>
    refine ⟨?_, List.forall_mem_cons.mpr (List.forall_mem_cons.mp distinct)⟩
    rw [depth_eq, List.countP_cons_of_pos rfl, List.countP_cons_of_pos rfl]
  | lock taken =>
    refine ⟨?_, distinct⟩
    rw [Lock.depthOf_take taken, depth_eq]
    rfl
  | change =>
    refine ⟨?_, List.forall_mem_cons.mpr ⟨List.nodup_singleton _, distinct⟩⟩
    rw [depth_eq, List.countP_cons_of_neg Bool.false_ne_true]
    rfl
  | restore => exact ⟨depth_eq, distinct⟩
  | unlock =>
    refine ⟨?_, distinct⟩
    simp only [Phase.depth] at depth_eq ⊢
    have held : 0 < shared.lock.depthOf thread := by omega
    have given := Lock.depthOf_giveUp held
    omega
  | close =>
    obtain ⟨apart, later⟩ := List.forall_mem_cons.mp distinct
    refine ⟨?_, List.forall_mem_cons.mpr ⟨(List.nodup_cons.mp apart).2, later⟩⟩
    rw [depth_eq, List.countP_cons_of_pos rfl, List.countP_cons_of_pos rfl]
    rfl
  | leave =>
    refine ⟨?_, (List.forall_mem_cons.mp distinct).2⟩
    rw [List.countP_cons_of_pos rfl] at depth_eq
    simp only [Phase.depth] at depth_eq ⊢
    have held : 0 < shared.lock.depthOf thread := by omega
    have given := Lock.depthOf_giveUp held
    omega

theorem depthOf_of_ne (advances : Advances thread shared action own own' shared')
    (sound : own.IsSound (shared.lock.depthOf thread)) (differs : other ≠ thread) :
    shared'.lock.depthOf other = shared.lock.depthOf other := by
  have depth_eq := sound.depth_eq
  cases advances with
  | enter atRest taken => exact Lock.depthOf_take_of_ne taken differs
  | lock taken => exact Lock.depthOf_take_of_ne taken differs
  | unlock =>
    refine Lock.depthOf_giveUp_of_ne ?_ differs
    simp only [Phase.depth] at depth_eq
    omega
  | leave => exact Lock.depthOf_giveUp_of_ne (sound.pos_of_isScope List.mem_cons_self rfl) differs
  | _ => rfl

end Advances

namespace State

variable {Thread : Type} [DecidableEq Thread] {thread : Thread} {action : Action} {s s' : State Thread}

theorem exists_of_step? (step : s.step? thread action = some s') :
    Advances thread s.toShared action (s.threads thread) (s'.threads thread) s'.toShared ∧
      ∀ other, other ≠ thread → s'.threads other = s.threads other := by
  obtain ⟨⟨own, shared⟩, advanced, rfl⟩ := Option.map_eq_some_iff.mp step
  refine ⟨?_, fun other differs => if_neg differs⟩
  show Advances thread s.toShared action (s.threads thread) (if thread = thread then own else s.threads thread) shared
  rw [if_pos rfl]
  exact advances_of_advance? advanced

/-- What all steps keep of all threads. -/
def IsSound (s : State Thread) : Prop :=
  ∀ thread, (s.threads thread).IsSound (s.lock.depthOf thread)

theorem isSound_start (e : Environment) : (start e : State Thread).IsSound := fun _ =>
  ⟨rfl, fun _ has => absurd has List.not_mem_nil⟩

theorem IsSound.step (sound : s.IsSound) (step : s.step? thread action = some s') : s'.IsSound := by
  obtain ⟨advances, same⟩ := exists_of_step? step
  intro other
  by_cases here : other = thread
  · rw [here]
    exact advances.isSound (sound thread)
  · rw [same other here, advances.depthOf_of_ne (sound thread) here]
    exact sound other

end State

/-- The states to which allowed steps lead. -/
inductive Reaches {Thread : Type} [DecidableEq Thread] (allowed : State Thread → Thread → Action → Prop)
    (s : State Thread) : State Thread → Prop
  | start : Reaches allowed s s
  | step {s' s'' : State Thread} {thread : Thread} {action : Action} (before : Reaches allowed s s')
      (allows : allowed s' thread action) (step : s'.step? thread action = some s'') : Reaches allowed s s''

theorem Reaches.trans {Thread : Type} [DecidableEq Thread] {allowed : State Thread → Thread → Action → Prop}
    {s s' s'' : State Thread} (reached : Reaches allowed s s') (further : Reaches allowed s' s'') :
    Reaches allowed s s'' := by
  induction further with
  | start => exact reached
  | step _ allows step ih => exact ih.step allows step

theorem Reaches.mono {Thread : Type} [DecidableEq Thread] {allowed allowed' : State Thread → Thread → Action → Prop}
    {s s' : State Thread} (weaker : ∀ m thread action, allowed m thread action → allowed' m thread action)
    (reached : Reaches allowed s s') : Reaches allowed' s s' := by
  induction reached with
  | start => exact .start
  | step _ allows step ih => exact ih.step (weaker _ _ _ allows) step

theorem Reaches.isSound {Thread : Type} [DecidableEq Thread] {allowed : State Thread → Thread → Action → Prop}
    {s s' : State Thread} (reached : Reaches allowed s s') (sound : s.IsSound) : s'.IsSound := by
  induction reached with
  | start => exact sound
  | step _ _ step ih => exact ih.step step

/-- The steps of one thread leave the others as they are. -/
theorem Reaches.threads_of_ne {Thread : Type} [DecidableEq Thread] {allowed : State Thread → Thread → Action → Prop}
    {s s' : State Thread} {thread other : Thread} (only : ∀ m actor action, allowed m actor action → actor = thread)
    (differs : other ≠ thread) (reached : Reaches allowed s s') : s'.threads other = s.threads other := by
  induction reached with
  | start => rfl
  | step _ allows step ih =>
    obtain rfl := only _ _ _ allows
    exact ((State.exists_of_step? step).2 other differs).trans ih

end ContractSuite.Sharing
