import ContractSuite.Proofs.Restoration
import ContractSuite.Proofs.Sharing.Progress

namespace ContractSuite

namespace EnvironmentScope

theorem leave_append (guards more : List VariableGuard) (e : Environment) :
    leave ⟨guards ++ more⟩ e = leave ⟨more⟩ (leave ⟨guards⟩ e) :=
  List.foldl_append

theorem get?_leave_congr {guards : List VariableGuard} {e e' : Environment}
    (agree : ∀ key, e.get? key = e'.get? key) (key : String) :
    (leave ⟨guards⟩ e).get? key = (leave ⟨guards⟩ e').get? key := by
  rw [get?_leave, get?_leave, agree key]

theorem get?_leave_append_congr {guards guards' : List VariableGuard} {e e' : Environment}
    (agree : ∀ key, (leave ⟨guards⟩ e).get? key = (leave ⟨guards'⟩ e').get? key) (more : List VariableGuard)
    (key : String) : (leave ⟨guards ++ more⟩ e).get? key = (leave ⟨guards' ++ more⟩ e').get? key := by
  rw [leave_append, leave_append]
  exact get?_leave_congr agree key

/-- The guard of the latest change undoes it behind guards of other variables. -/
theorem get?_leave_apply {guards : List VariableGuard} {change : VariableChange}
    (fresh : change.key ∉ guards.map VariableGuard.key) (e : Environment) (key : String) :
    (leave ⟨guards ++ [(change.apply e).1]⟩ (change.apply e).2).get? key = (leave ⟨guards⟩ e).get? key := by
  have changed : (change.apply e).2.get? key = if key = change.key then change.value else e.get? key :=
    Environment.get?_put e change.key key change.value
  rw [get?_leave, get?_leave, List.filter_append, changed]
  by_cases here : change.key = key
  · have spared : guards.filter (·.key = key) = [] := by
      rw [List.filter_eq_nil_iff]
      intro guard has same
      exact fresh (List.mem_map.mpr ⟨guard, has, (of_decide_eq_true same).trans here.symm⟩)
    have own : [(change.apply e).1].filter (·.key = key) = [(change.apply e).1] :=
      List.filter_cons_of_pos (decide_eq_true here)
    rw [spared, own, ← here]
    rfl
  · have own : [(change.apply e).1].filter (·.key = key) = [] :=
      List.filter_cons_of_neg fun same => here (of_decide_eq_true same)
    rw [own, List.append_nil, if_neg (Ne.symm here)]

theorem get?_leave_single (change : VariableChange) (e : Environment) (key : String) :
    (leave ⟨[(change.apply e).1]⟩ (change.apply e).2).get? key = (leave ⟨[]⟩ e).get? key :=
  have fresh : change.key ∉ ([] : List VariableGuard).map VariableGuard.key := List.not_mem_nil
  get?_leave_apply fresh e key

/-- Guards of different variables may be restored in any order. -/
theorem get?_leave_of_perm {guards guards' : List VariableGuard} (perm : guards.Perm guards')
    (distinct : (guards'.map VariableGuard.key).Nodup) (e : Environment) (key : String) :
    (leave ⟨guards⟩ e).get? key = (leave ⟨guards'⟩ e).get? key := by
  have single : (guards'.filter (·.key = key)).length ≤ 1 := by
    have counted := List.nodup_iff_count_le_one.mp distinct key
    rw [List.count_eq_countP, List.countP_map, List.countP_eq_length_filter] at counted
    exact counted
  have same : guards.filter (·.key = key) = guards'.filter (·.key = key) := by
    have permuted := perm.filter (·.key = key)
    generalize guards'.filter (·.key = key) = own at permuted single ⊢
    rcases own with _ | ⟨guard, _ | ⟨second, more⟩⟩
    · exact permuted.eq_nil
    · exact List.perm_singleton.mp permuted
    · rw [List.length_cons, List.length_cons] at single
      omega
  rw [get?_leave, get?_leave, same]

end EnvironmentScope

namespace Sharing

open EnvironmentScope (leave_append get?_leave_append_congr get?_leave_apply get?_leave_single get?_leave_of_perm)

namespace ThreadState

/-- The guards that a thread restores, in this order, until only so many of its holdings are left. -/
def owedAbove (height : Nat) (own : ThreadState) : List VariableGuard :=
  own.phase.guards ++ (own.holdings.take (own.holdings.length - height)).flatMap Holding.guards

theorem owedAbove_cons {height : Nat} {others : List Holding} (below : height ≤ others.length) (holding : Holding)
    (phase : Phase) : owedAbove height ⟨holding :: others, phase⟩ =
      phase.guards ++ (holding.guards ++ owedAbove height ⟨others, .idle⟩) := by
  unfold owedAbove
  rw [List.length_cons, Nat.succ_sub below, List.take_succ_cons, List.flatMap_cons]
  rfl

end ThreadState

variable {Thread : Type} [DecidableEq Thread] {thread : Thread}

/-- No step of a thread changes where the guards lead that it owes: a change adds a guard which undoes it, and a
restoration takes away the guard that it restores. -/
theorem Advances.get?_leave_owedAbove {shared shared' : Shared Thread} {action : Action} {own own' : ThreadState}
    {height : Nat} (advances : Advances thread shared action own own' shared')
    (sound : own.IsSound (shared.lock.depthOf thread)) (below : height ≤ own.holdings.length)
    (above : action.isMaking = false → own.IsAbove height) (key : String) :
    (EnvironmentScope.leave ⟨own'.owedAbove height⟩ shared'.environment).get? key =
      (EnvironmentScope.leave ⟨own.owedAbove height⟩ shared.environment).get? key := by
  have onTop {holding : Holding} {others : List Holding}
      (isAbove : ThreadState.IsAbove height ⟨holding :: others, .idle⟩) : height ≤ others.length := by
    rcases isAbove with more | ⟨_, busy⟩
    · exact Nat.le_of_lt_succ more
    · exact absurd rfl busy
  cases advances with
  | enter atRest taken => rw [ThreadState.owedAbove_cons below]; rfl
  | keep fresh =>
    rw [ThreadState.owedAbove_cons (onTop (above rfl)), ThreadState.owedAbove_cons (onTop (above rfl))]
    exact get?_leave_append_congr (get?_leave_apply fresh shared.environment) _ key
  | @finish guards kept upper lower perm =>
    have distinct := sound.distinct (.building kept) (List.mem_append_right _ List.mem_cons_self)
    unfold ThreadState.owedAbove
    simp only [List.length_append, List.length_cons, List.take_append]
    -- The builder may stand above the height or below it.
    generalize upper.length + (lower.length + 1) - height = count
    cases count - upper.length with
    | zero => rfl
    | succ more =>
      simp only [List.take_succ_cons, List.flatMap_append, List.flatMap_cons, Phase.guards, List.nil_append]
      rw [leave_append, leave_append ((upper.take count).flatMap Holding.guards)]
      exact get?_leave_append_congr (get?_leave_of_perm perm distinct _) _ key
  | guard => rfl
  | lend isBuilding =>
    rw [ThreadState.owedAbove_cons below]
    exact get?_leave_append_congr (get?_leave_single _ shared.environment) _ key
  | dropGuard => rw [ThreadState.owedAbove_cons (onTop (above rfl))]; rfl
  | dropScope =>
    rw [ThreadState.owedAbove_cons (onTop (above rfl)), ThreadState.owedAbove_cons (onTop (above rfl))]
    rfl
  | lock taken => rfl
  | change =>
    rw [ThreadState.owedAbove_cons below]
    exact get?_leave_append_congr (get?_leave_single _ shared.environment) _ key
  | restore => rfl
  | unlock => rfl
  | close =>
    rw [ThreadState.owedAbove_cons (onTop (above rfl)), ThreadState.owedAbove_cons (onTop (above rfl))]
    rfl
  | leave => rw [ThreadState.owedAbove_cons (onTop (above rfl))]; rfl

namespace State

variable {s s' : State Thread} {action : Action}

/-- The same for a step of any thread, if other threads write nothing. -/
theorem get?_leave_owedAbove {other : Thread} {height : Nat} (sound : s.IsSound) (step : s.step? other action = some s')
    (below : height ≤ (s.threads thread).holdings.length)
    (above : action.isMaking = false → (s.threads thread).IsAbove height)
    (silent : other ≠ thread → (s.threads other).written? action = none) (key : String) :
    (EnvironmentScope.leave ⟨(s'.threads thread).owedAbove height⟩ s'.environment).get? key =
      (EnvironmentScope.leave ⟨(s.threads thread).owedAbove height⟩ s.environment).get? key := by
  obtain ⟨advances, same⟩ := exists_of_step? step
  by_cases here : other = thread
  · subst here
    exact advances.get?_leave_owedAbove (sound other) below above key
  · rw [same thread (Ne.symm here), advances.environment_of_written?_eq_none (silent here)]

end State

/-- Holds of the steps before a thread has dropped all that it has made above so many holdings, if no other thread
writes meanwhile. -/
def IsBeforeDrop (thread : Thread) (height : Nat) (s : State Thread) (other : Thread) (action : Action) : Prop :=
  (s.threads thread).IsAbove height ∧ (other ≠ thread → (s.threads other).written? action = none)

theorem Reaches.get?_leave_owedAbove {s s' : State Thread} {height : Nat}
    (reached : Reaches (IsBeforeDrop thread height) s s') (sound : s.IsSound) (key : String) :
    (EnvironmentScope.leave ⟨(s'.threads thread).owedAbove height⟩ s'.environment).get? key =
      (EnvironmentScope.leave ⟨(s.threads thread).owedAbove height⟩ s.environment).get? key := by
  induction reached with
  | start => rfl
  | step before allows step ih =>
    obtain ⟨above, silent⟩ := allows
    exact (State.get?_leave_owedAbove (before.isSound sound) step above.le (fun _ => above) silent key).trans ih

theorem ThreadState.owedAbove_of_idle {own : ThreadState} {height : Nat} (level : own.holdings.length = height)
    (idle : own.phase = .idle) : own.owedAbove height = [] := by
  rw [owedAbove, level, Nat.sub_self, idle]
  rfl

/-- A thread begins to make something only when it is idle. -/
theorem Advances.phase_of_isMaking {shared shared' : Shared Thread} {action : Action} {own own' : ThreadState}
    (advances : Advances thread shared action own own' shared') (making : action.isMaking = true) :
    own.phase = .idle := by
  cases advances with
  | enter | guard | lend => rfl
  | _ => cases making

theorem State.get?_of_dropped {s begun s' : State Thread} {action : Action} (sound : s.IsSound)
    (making : action.isMaking = true) (begins : s.step? thread action = some begun)
    (run : Reaches (IsBeforeDrop thread (s.threads thread).holdings.length) begun s')
    (level : (s'.threads thread).holdings.length = (s.threads thread).holdings.length)
    (idle : (s'.threads thread).phase = .idle) (key : String) :
    s'.environment.get? key = s.environment.get? key := by
  have begunIdle := (exists_of_step? begins).1.phase_of_isMaking making
  have undone := run.get?_leave_owedAbove (sound.step begins) key
  have begunSame := get?_leave_owedAbove sound begins (Nat.le_refl _)
    (fun notMaking => absurd (notMaking.symm.trans making) Bool.false_ne_true) (fun differs => absurd rfl differs) key
  rw [begunSame, ThreadState.owedAbove_of_idle level idle, ThreadState.owedAbove_of_idle rfl begunIdle] at undone
  exact undone

/-- Whatever a thread makes, a guard or a scope with guards of different variables: when that has been dropped, the
environment is as it was before, whatever else the thread has made and dropped in between. The drop of a scope comes to
its end, and that of a guard does if the thread need not wait for the lock. No variable is written without the lock. -/
theorem dropped_is_undone {e : Environment} {s : State Thread} (reached : Reaches (fun _ _ _ => True) (.start e) s)
    (thread : Thread) :
    (∀ action begun s', action.isMaking = true → s.step? thread action = some begun →
      Reaches (IsBeforeDrop thread (s.threads thread).holdings.length) begun s' →
      (s'.threads thread).holdings.length = (s.threads thread).holdings.length → (s'.threads thread).phase = .idle →
      ∀ key, s'.environment.get? key = s.environment.get? key) ∧
    (∀ holding others, s.threads thread = ⟨holding :: others, .idle⟩ → holding.isLive = true →
      (holding.isScope = true ∨ (s.lock.take? thread).isSome = true) →
      ∃ dropped s', s.step? thread .drop = some dropped ∧ Reaches (IsDropping thread others.length) dropped s' ∧
        s'.threads thread = ⟨others, .idle⟩ ∧
        s'.environment = EnvironmentScope.leave ⟨holding.guards⟩ s.environment) ∧
    (∀ action s', s.step? thread action = some s' →
      ((s.threads thread).written? action = none → s'.environment = s.environment) ∧
      ((s.threads thread).written? action ≠ none → 0 < s.lock.depthOf thread)) := by
  have sound : s.IsSound := reached.isSound (State.isSound_start e)
  refine ⟨?_, ?_, ?_⟩
  · intro action begun s' making begins run level idle key
    exact State.get?_of_dropped sound making begins run level idle key
  · intro holding others has live inTurn
    refine State.exists_dropped has live (inTurn.elim (fun isScope => ?_) id)
    refine Lock.isSome_take?_of_pos ((sound thread).pos_of_isScope ?_ isScope)
    rw [has]
    exact List.mem_cons_self
  · intro action s' step
    have advances := (State.exists_of_step? step).1
    refine ⟨advances.environment_of_written?_eq_none, fun written => ?_⟩
    obtain ⟨key, written⟩ := Option.ne_none_iff_exists'.mp written
    exact advances.pos_of_written? (sound thread) written

/-- In the builder of a scope that sets a variable, an inner scope removes it, and is dropped. -/
theorem dropped_is_undone_inner_scope :
    ∃ s begun inner s' : State Unit, Reaches (fun _ _ _ => True) (.start [("STEPS", "first")]) s ∧
      s.environment.get? "STEPS" = some "second" ∧ s.step? () .enter = some begun ∧
      Reaches (IsBeforeDrop () 1) begun inner ∧ inner.environment.get? "STEPS" = none ∧
      Reaches (IsBeforeDrop () 1) inner s' ∧ (s'.threads ()).holdings.length = 1 ∧
      s'.environment.get? "STEPS" = some "second" := by
  let e : Environment := [("STEPS", "first")]
  let outerHolding : Holding := .building [⟨"STEPS", some "first"⟩]
  let guard : VariableGuard := ⟨"STEPS", some "second"⟩
  have enters : advance? () ⟨e, .free⟩ .enter {} = some (⟨[.building []], .idle⟩, ⟨e, .held () 0⟩) := rfl
  obtain ⟨entered, enterStep, enteredOwn, enteredShared⟩ := State.exists_step? (s := .start e) rfl rfl enters
  have sets : advance? () ⟨e, .held () 0⟩ (.keep ⟨"STEPS", some "second"⟩) ⟨[.building []], .idle⟩ =
      some (⟨[outerHolding], .idle⟩, ⟨[("STEPS", "second")], .held () 0⟩) := rfl
  obtain ⟨s, setStep, own, shared⟩ := State.exists_step? enteredOwn enteredShared sets
  have reached : Reaches (fun _ _ _ => True) (.start e) s :=
    .step (.step .start trivial enterStep) trivial setStep
  have begins : advance? () ⟨[("STEPS", "second")], .held () 0⟩ .enter ⟨[outerHolding], .idle⟩ =
      some (⟨[.building [], outerHolding], .idle⟩, ⟨[("STEPS", "second")], .held () 1⟩) := rfl
  obtain ⟨begun, beginStep, begunOwn, begunShared⟩ := State.exists_step? own shared begins
  have removes : advance? () ⟨[("STEPS", "second")], .held () 1⟩ (.keep ⟨"STEPS", none⟩)
      ⟨[.building [], outerHolding], .idle⟩ = some (⟨[.building [guard], outerHolding], .idle⟩, ⟨[], .held () 1⟩) := rfl
  obtain ⟨removed, removeStep, removedOwn, removedShared⟩ := State.exists_step? begunOwn begunShared removes
  have finishes : advance? () ⟨[], .held () 1⟩ (.finish [guard]) ⟨[.building [guard], outerHolding], .idle⟩ =
      some (⟨[.scope ⟨[guard]⟩, outerHolding], .idle⟩, ⟨[], .held () 1⟩) := rfl
  obtain ⟨inner, finishStep, innerOwn, innerShared⟩ := State.exists_step? removedOwn removedShared finishes
  have alone {m : State Unit} {action : Action} (above : (m.threads ()).IsAbove 1) : IsBeforeDrop () 1 m () action :=
    ⟨above, fun differs => absurd rfl differs⟩
  have built : Reaches (IsBeforeDrop () 1) begun inner :=
    .step (.step .start (alone (.of_cons begunOwn)) removeStep) (alone (.of_cons removedOwn)) finishStep
  have innerReached : Reaches (fun _ _ _ => True) (.start e) inner :=
    (reached.step trivial beginStep).trans (built.mono fun _ _ _ _ => trivial)
  obtain ⟨dropped, s', dropStep, dropping, lastOwn, _⟩ :=
    (dropped_is_undone innerReached ()).2.1 _ _ innerOwn rfl (.inl rfl)
  have dropRun : Reaches (IsBeforeDrop () 1) inner s' :=
    (Reaches.step .start (alone (.of_cons innerOwn)) dropStep).trans
      (dropping.mono fun _ _ _ allows => ⟨allows.2.2, fun differs => absurd allows.1 differs⟩)
  have level : (s.threads ()).holdings.length = 1 := by rw [own]; rfl
  have lastLevel : (s'.threads ()).holdings.length = 1 := by rw [lastOwn]; rfl
  have lastIdle : (s'.threads ()).phase = .idle := by rw [lastOwn]
  have former : s.environment.get? "STEPS" = some "second" := by rw [shared]; rfl
  have undone := (dropped_is_undone reached ()).1 .enter begun s' rfl beginStep
    (level ▸ built.trans dropRun) (lastLevel.trans level.symm) lastIdle "STEPS"
  refine ⟨s, begun, inner, s', reached, former, beginStep, built, ?_, dropRun, lastLevel, undone.trans former⟩
  rw [innerShared]
  rfl

end Sharing

end ContractSuite
