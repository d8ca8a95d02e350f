import ContractSuite.Proofs.Sharing.Steps

namespace ContractSuite.Sharing

namespace ThreadState

/-- Holds while a thread has more holdings than so many, or is busy with one that it makes or drops above them. -/
def IsAbove (height : Nat) (own : ThreadState) : Prop :=
  height < own.holdings.length ∨ height = own.holdings.length ∧ own.phase ≠ .idle

theorem IsAbove.le {height : Nat} {own : ThreadState} (above : own.IsAbove height) : height ≤ own.holdings.length := by
  rcases above with above | ⟨same, _⟩
  · exact Nat.le_of_lt above
  · exact Nat.le_of_eq same

theorem IsAbove.of_cons {holding : Holding} {others : List Holding} {phase : Phase} {own : ThreadState}
    (has : own = ⟨holding :: others, phase⟩) : own.IsAbove others.length := by
  subst has
  exact .inl (Nat.lt_succ_self _)

theorem IsAbove.of_busy {height : Nat} {holdings : List Holding} {phase : Phase} {own : ThreadState}
    (has : own = ⟨holdings, phase⟩) (busy : phase ≠ .idle) (below : height ≤ holdings.length) :
    own.IsAbove height := by
  subst has
  rcases Nat.lt_or_eq_of_le below with more | same
  · exact .inl more
  · exact .inr ⟨same, busy⟩

end ThreadState

variable {Thread : Type} [DecidableEq Thread] {thread : Thread}

/-- Holds of what a thread can drop: guards on their own and live scopes. -/
def Holding.isLive : Holding → Bool
  | .guard _ | .scope _ => true
  | .building _ | .closing _ => false

/-- Holds of the steps by which a thread goes on with a drop above so many holdings. -/
def IsDropping (thread : Thread) (height : Nat) (s : State Thread) (other : Thread) (action : Action) : Prop :=
  other = thread ∧ action = .proceed ∧ (s.threads thread).IsAbove height

namespace State

variable {s : State Thread} {action : Action}

theorem exists_step? {own own' : ThreadState} {shared shared' : Shared Thread} (own_eq : s.threads thread = own)
    (shared_eq : s.toShared = shared) (advances : advance? thread shared action own = some (own', shared')) :
    ∃ s', s.step? thread action = some s' ∧ s'.threads thread = own' ∧ s'.toShared = shared' := by
  rw [← own_eq, ← shared_eq] at advances
  refine ⟨_, Option.map_eq_some_iff.mpr ⟨(own', shared'), advances, rfl⟩, ?_, rfl⟩
  exact if_pos rfl

/-- A thread that need not wait for the lock puts back the value of a guard. -/
theorem exists_restored {holdings : List Holding} {guard : VariableGuard} {height : Nat}
    (below : height ≤ holdings.length) (locking : s.threads thread = ⟨holdings, .locking (.restore guard)⟩)
    (takes : (s.lock.take? thread).isSome = true) :
    ∃ s', Reaches (IsDropping thread height) s s' ∧ s'.threads thread = ⟨holdings, .idle⟩ ∧
      s'.toShared = ⟨guard.restore s.environment, s.lock⟩ := by
  obtain ⟨lock, taken⟩ := Option.isSome_iff_exists.mp takes
  have locks : advance? thread s.toShared .proceed ⟨holdings, .locking (.restore guard)⟩ =
      some (⟨holdings, .writing (.restore guard)⟩, ⟨s.environment, lock⟩) := by
    rw [advance?, taken]
    rfl
  obtain ⟨locked, lockStep, lockedOwn, lockedShared⟩ := exists_step? locking rfl locks
  have writes : advance? thread ⟨s.environment, lock⟩ .proceed ⟨holdings, .writing (.restore guard)⟩ =
      some (⟨holdings, .unlocking⟩, ⟨guard.restore s.environment, lock⟩) := rfl
  obtain ⟨written, writeStep, writtenOwn, writtenShared⟩ := exists_step? lockedOwn lockedShared writes
  have unlocks : advance? thread ⟨guard.restore s.environment, lock⟩ .proceed ⟨holdings, .unlocking⟩ =
      some (⟨holdings, .idle⟩, ⟨guard.restore s.environment, s.lock⟩) := by
    rw [advance?, Lock.giveUp_of_take taken]
  obtain ⟨s', unlockStep, own, shared⟩ := exists_step? writtenOwn writtenShared unlocks
  have waited : Reaches (IsDropping thread height) s locked :=
    .step .start ⟨rfl, rfl, .of_busy locking Phase.noConfusion below⟩ lockStep
  have wrote := waited.step ⟨rfl, rfl, .of_busy lockedOwn Phase.noConfusion below⟩ writeStep
  exact ⟨s', wrote.step ⟨rfl, rfl, .of_busy writtenOwn Phase.noConfusion below⟩ unlockStep, own, shared⟩

/-- A scope that is being dropped puts back the values of its guards and is gone. -/
theorem exists_closed {guards : List VariableGuard} {others : List Holding}
    (closing : s.threads thread = ⟨.closing guards :: others, .idle⟩) (takes : (s.lock.take? thread).isSome = true) :
    ∃ s', Reaches (IsDropping thread others.length) s s' ∧ s'.threads thread = ⟨others, .idle⟩ ∧
      s'.environment = EnvironmentScope.leave ⟨guards⟩ s.environment := by
  induction guards generalizing s with
  | nil =>
    have leaves : advance? thread s.toShared .proceed ⟨.closing [] :: others, .idle⟩ =
        some (⟨others, .idle⟩, ⟨s.environment, s.lock.giveUp⟩) := rfl
    obtain ⟨s', step, own, shared⟩ := exists_step? closing rfl leaves
    refine ⟨s', .step .start ⟨rfl, rfl, .of_cons closing⟩ step, own, ?_⟩
    rw [shared]
    rfl
  | cons guard guards ih =>
    have begins : advance? thread s.toShared .proceed ⟨.closing (guard :: guards) :: others, .idle⟩ =
        some (⟨.closing guards :: others, .locking (.restore guard)⟩, s.toShared) := rfl
    obtain ⟨begun, beginStep, begunOwn, begunShared⟩ := exists_step? closing rfl begins
    rw [← begunShared] at takes
    obtain ⟨restored, restoring, restoredOwn, restoredShared⟩ :=
      exists_restored (Nat.le_succ others.length) begunOwn takes
    have lock_eq : restored.lock = begun.lock := by rw [restoredShared]
    rw [← lock_eq] at takes
    obtain ⟨s', later, own, environment⟩ := ih restoredOwn takes
    refine ⟨s', (Reaches.step .start ⟨rfl, rfl, .of_cons closing⟩ beginStep).trans (restoring.trans later), own, ?_⟩
    rw [environment, restoredShared, begunShared]
    rfl

/-- What a thread has made last can be dropped, and the drop comes to its end, if the thread need not wait. -/
theorem exists_dropped {holding : Holding} {others : List Holding} (has : s.threads thread = ⟨holding :: others, .idle⟩)
    (live : holding.isLive = true) (takes : (s.lock.take? thread).isSome = true) :
    ∃ dropped s', s.step? thread .drop = some dropped ∧ Reaches (IsDropping thread others.length) dropped s' ∧
      s'.threads thread = ⟨others, .idle⟩ ∧
      s'.environment = EnvironmentScope.leave ⟨holding.guards⟩ s.environment := by
  cases holding with
  | guard guard =>
    have drops : advance? thread s.toShared .drop ⟨.guard guard :: others, .idle⟩ =
        some (⟨others, .locking (.restore guard)⟩, s.toShared) := rfl
    obtain ⟨dropped, step, droppedOwn, droppedShared⟩ := exists_step? has rfl drops
    rw [← droppedShared] at takes
    obtain ⟨s', restoring, own, shared⟩ := exists_restored (Nat.le_refl _) droppedOwn takes
    refine ⟨dropped, s', step, restoring, own, ?_⟩
    rw [shared, droppedShared]
    rfl
  | scope scope =>
    have drops : advance? thread s.toShared .drop ⟨.scope scope :: others, .idle⟩ =
        some (⟨.closing scope.guards :: others, .idle⟩, s.toShared) := rfl
    obtain ⟨dropped, step, droppedOwn, droppedShared⟩ := exists_step? has rfl drops
    rw [← droppedShared] at takes
    obtain ⟨s', closing, own, environment⟩ := exists_closed droppedOwn takes
    refine ⟨dropped, s', step, closing, own, ?_⟩
    rw [environment, droppedShared]
    rfl
  | building | closing => cases live

end State

end ContractSuite.Sharing
