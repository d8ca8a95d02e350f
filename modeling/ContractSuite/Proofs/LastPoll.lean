import ContractSuite.Supervision.Wait

namespace ContractSuite.Supervision

/-- The time of the last poll in a wait for a program that does not end, from a time on. -/
def lastPollFrom (lag : Nat → Nat) (budget seen now : Nat) : Nat :=
  let looked := now + lag seen + lag (seen + 1)
  if budget < looked then looked + lag (seen + 2)
  else lastPollFrom lag budget (seen + 2) (looked + pollInterval)
  termination_by budget + 1 - now
  decreasing_by
    have _inTime : ¬budget < now + lag seen + lag (seen + 1) := ‹_›
    simp only [pollInterval]
    omega

/-- The time of the last poll in a wait for a program that does not end. -/
def lastPoll (lag : Nat → Nat) (budget : Nat) : Nat :=
  lastPollFrom lag budget 0 0

theorem lt_lastPollFrom (lag : Nat → Nat) (budget seen now : Nat) : budget < lastPollFrom lag budget seen now := by
  fun_induction lastPollFrom lag budget seen now with
  | case1 seen now looked late => omega
  | case2 seen now looked inTime ih => exact ih

/-- No poll is made once the budget is used up, but for the last one. -/
theorem budget_lt_lastPoll (lag : Nat → Nat) (budget : Nat) : budget < lastPoll lag budget :=
  lt_lastPollFrom lag budget 0 0

theorem polled_le_lastPollFrom (lag : Nat → Nat) (budget seen now : Nat) :
    now + lag seen ≤ lastPollFrom lag budget seen now := by
  fun_induction lastPollFrom lag budget seen now with
  | case1 seen now looked late => omega
  | case2 seen now looked inTime ih => omega

namespace Child

/-- Holds when the program has ended by a time. -/
def HasEndedBy (child : Child) (time : Nat) : Prop :=
  ∃ ended, child.endsAt = some ended ∧ ended ≤ time

theorem HasEndedBy.mono {child : Child} {earlier later : Nat} (ended : child.HasEndedBy earlier)
    (le : earlier ≤ later) : child.HasEndedBy later := by
  obtain ⟨time, endsAt, inTime⟩ := ended
  exact ⟨time, endsAt, Nat.le_trans inTime le⟩

theorem hasEndedBy_iff {child : Child} {time : Nat} :
    child.HasEndedBy time ↔ child.endsAt.any (· ≤ time) = true := by
  unfold HasEndedBy
  cases child.endsAt with
  | none => simp
  | some ended => simp

theorem statusAt_eq_some_iff {child : Child} {time : Nat} {status : ExitStatus} :
    child.statusAt time = some status ↔ child.HasEndedBy time ∧ child.status = status := by
  unfold statusAt
  rw [hasEndedBy_iff, Option.ite_none_right_eq_some, Option.some_inj]

theorem statusAt_eq_none_iff {child : Child} {time : Nat} : child.statusAt time = none ↔ ¬child.HasEndedBy time := by
  unfold statusAt
  rw [hasEndedBy_iff]
  simp

/-- What a wait makes of a program, told by the time of the last poll. -/
structure EndsAsPolled (child : Child) (last : Nat) (outcome : WaitOutcome) : Prop where
  exited_iff : ∀ status, outcome = .exited status ↔ child.HasEndedBy last ∧ child.status = status
  timedOut_iff : outcome = .timedOut ↔ ¬child.HasEndedBy last

theorem endsAsPolled_exited {child : Child} {last : Nat} (ended : child.HasEndedBy last) :
    child.EndsAsPolled last (.exited child.status) := by
  refine ⟨fun status => ⟨fun same => ⟨ended, WaitOutcome.exited.inj same⟩, ?_⟩, nofun, fun runs => absurd ended runs⟩
  rintro ⟨-, rfl⟩
  rfl

theorem endsAsPolled_timedOut {child : Child} {last : Nat} (runs : ¬child.HasEndedBy last) :
    child.EndsAsPolled last .timedOut := by
  refine ⟨fun status => ⟨nofun, ?_⟩, fun _ => runs, fun _ => rfl⟩
  rintro ⟨ended, -⟩
  exact absurd ended runs

theorem waitFrom_endsAsPolled (child : Child) (lag : Nat → Nat) (budget seen now : Nat) :
    child.EndsAsPolled (lastPollFrom lag budget seen now) (child.waitFrom lag budget seen now).outcome := by
  fun_induction child.waitFrom lag budget seen now with
  | case1 seen now polled status found =>
    obtain ⟨ended, rfl⟩ := statusAt_eq_some_iff.mp found
    exact endsAsPolled_exited (ended.mono (polled_le_lastPollFrom lag budget seen now))
  | case2 seen now polled runs looked late =>
    have last : lastPollFrom lag budget seen now = looked + lag (seen + 2) := by
      rw [lastPollFrom]
      exact if_pos late
    rw [last, Wait.outcome_after]
    unfold giveUp
    cases found : child.statusAt (looked + lag (seen + 2)) with
    | some status =>
      obtain ⟨ended, rfl⟩ := statusAt_eq_some_iff.mp found
      exact endsAsPolled_exited ended
    | none => exact endsAsPolled_timedOut (statusAt_eq_none_iff.mp found)
  | case3 seen now polled runs looked inTime ih =>
    have last : lastPollFrom lag budget seen now = lastPollFrom lag budget (seen + 2) (looked + pollInterval) := by
      rw [lastPollFrom]
      exact if_neg inTime
    rw [last, Wait.outcome_after]
    exact ih

/-- A program is reported with its status exactly if it has ended by the last poll, and it is given up otherwise. -/
theorem wait_endsAsPolled (child : Child) (lag : Nat → Nat) (budget : Nat) :
    child.EndsAsPolled (lastPoll lag budget) (child.wait lag budget).outcome :=
  child.waitFrom_endsAsPolled lag budget 0 0

end Child

end ContractSuite.Supervision
