import ContractSuite.Proofs.LastPoll

namespace ContractSuite.Supervision

variable {lag : Nat → Nat} {budget : Nat}

/-- When a round begins, if no earlier one ends the wait. -/
def roundStart (lag : Nat → Nat) : Nat → Nat
  | 0 => 0
  | round + 1 => roundStart lag round + lag (2 * round) + lag (2 * round + 1) + pollInterval

/-- When a round polls the program. -/
def pollTime (lag : Nat → Nat) (round : Nat) : Nat :=
  roundStart lag round + lag (2 * round)

/-- When a round looks at the clock. -/
def lookTime (lag : Nat → Nat) (round : Nat) : Nat :=
  pollTime lag round + lag (2 * round + 1)

/-- When a round polls the program once more, because the clock says that it is late. -/
def recheckTime (lag : Nat → Nat) (round : Nat) : Nat :=
  lookTime lag round + lag (2 * round + 2)

theorem pollInterval_mul_le_lookTime (lag : Nat → Nat) (round : Nat) : pollInterval * round ≤ lookTime lag round := by
  have begun : pollInterval * round ≤ roundStart lag round := by
    induction round with
    | zero => exact Nat.zero_le _
    | succ round ih =>
      rw [roundStart, Nat.mul_succ]
      omega
  unfold lookTime pollTime
  omega

/-- The rounds that are in time, and one more, are no more than fit into the budget, and two. -/
theorem round_le_of_inTime {last : Nat} (inTime : ∀ round < last, lookTime lag round ≤ budget) :
    last + 1 ≤ budget / pollInterval + 2 := by
  cases last with
  | zero => exact Nat.le_add_left 1 _
  | succ round =>
    have spaced := pollInterval_mul_le_lookTime lag round
    have looked := inTime round (Nat.lt_succ_self round)
    have fits : round ≤ budget / pollInterval := by
      rw [Nat.le_div_iff_mul_le (by decide), Nat.mul_comm]
      exact Nat.le_trans spaced looked
    exact Nat.add_le_add_right fits 2

namespace Child

variable {child : Child}

/-- Holds of a round that does not end the wait: the program runs on, and it is not late. -/
structure GoesOn (child : Child) (lag : Nat → Nat) (budget round : Nat) : Prop where
  runs : ¬child.HasEndedBy (pollTime lag round)
  inTime : lookTime lag round ≤ budget

/-- How a wait ends in a round, with one poll behind it for each round and one more if it is late. -/
inductive EndsIn (child : Child) (lag : Nat → Nat) (budget last : Nat) : Wait → Prop
  | polled : child.HasEndedBy (pollTime lag last) →
      EndsIn child lag budget last ⟨.exited child.status, List.replicate (last + 1) .poll⟩
  | rechecked : ¬child.HasEndedBy (pollTime lag last) → budget < lookTime lag last →
      child.HasEndedBy (recheckTime lag last) →
      EndsIn child lag budget last ⟨.exited child.status, List.replicate (last + 2) .poll⟩
  | killed : budget < lookTime lag last → ¬child.HasEndedBy (recheckTime lag last) →
      EndsIn child lag budget last ⟨.timedOut, List.replicate (last + 2) .poll ++ [.kill, .reap]⟩

theorem replicate_poll_after (first : Nat) (wait : Wait) :
    List.replicate first .poll ++ (wait.after .poll).actions = List.replicate (first + 1) .poll ++ wait.actions := by
  rw [List.replicate_succ', List.append_assoc]
  rfl

/-- A late round polls once more. -/
theorem endsIn_giveUp {round : Nat} (runs : ¬child.HasEndedBy (pollTime lag round)) (late : budget < lookTime lag round) :
    child.EndsIn lag budget round ⟨(child.giveUp (recheckTime lag round)).outcome,
      List.replicate (round + 1) .poll ++ (child.giveUp (recheckTime lag round)).actions⟩ := by
  unfold giveUp
  cases again : child.statusAt (recheckTime lag round) with
  | some status =>
    obtain ⟨ended, rfl⟩ := statusAt_eq_some_iff.mp again
    dsimp only
    rw [← List.replicate_succ']
    exact .rechecked runs late ended
  | none =>
    have polls : List.replicate (round + 1) Action.poll ++ [.poll, .kill, .reap] =
        List.replicate (round + 2) .poll ++ [.kill, .reap] := by
      rw [List.replicate_succ' (n := round + 1), List.append_assoc]
      rfl
    dsimp only
    rw [polls]
    exact .killed late (statusAt_eq_none_iff.mp again)

/-- Each round that goes on adds its poll in front of the rest of the wait. -/
theorem exists_endsIn_of_waitFrom (child : Child) (lag : Nat → Nat) (budget seen now : Nat) : ∀ first,
    seen = 2 * first → now = roundStart lag first → (∀ round < first, child.GoesOn lag budget round) →
    ∃ last, (∀ round < last, child.GoesOn lag budget round) ∧
      child.EndsIn lag budget last ⟨(child.waitFrom lag budget seen now).outcome,
        List.replicate first .poll ++ (child.waitFrom lag budget seen now).actions⟩ := by
  -- The number of rounds behind a state of the loop fixes what has been seen in it and when it is reached.
  fun_induction child.waitFrom lag budget seen now with
  | case1 seen now polled status found =>
    rintro first rfl rfl before
    obtain ⟨ended, rfl⟩ := statusAt_eq_some_iff.mp found
    refine ⟨first, before, ?_⟩
    rw [← List.replicate_succ']
    exact .polled ended
  | case2 seen now polled found looked late =>
    rintro first rfl rfl before
    refine ⟨first, before, ?_⟩
    rw [replicate_poll_after, Wait.outcome_after]
    exact endsIn_giveUp (statusAt_eq_none_iff.mp found) late
  | case3 seen now polled found looked inTime ih =>
    rintro first rfl rfl before
    have goesOn : child.GoesOn lag budget first := ⟨statusAt_eq_none_iff.mp found, Nat.le_of_not_lt inTime⟩
    have further : ∀ round < first + 1, child.GoesOn lag budget round := by
      intro round earlier
      rcases Nat.lt_succ_iff_lt_or_eq.mp earlier with earlier | rfl
      · exact before round earlier
      · exact goesOn
    rw [replicate_poll_after, Wait.outcome_after]
    exact ih (first + 1) (Nat.mul_succ 2 first).symm rfl further

/-- Every wait has a last round, in which it ends, and all rounds before it go on. -/
theorem exists_endsIn (child : Child) (lag : Nat → Nat) (budget : Nat) : ∃ last,
    (∀ round < last, child.GoesOn lag budget round) ∧ child.EndsIn lag budget last (child.wait lag budget) :=
  exists_endsIn_of_waitFrom child lag budget 0 0 0 rfl rfl (by simp)

namespace EndsIn

variable {last : Nat} {wait : Wait}

/-- The last poll is made when the budget is used up, so that it finds what has ended within the budget. -/
theorem outcome_eq (ends : child.EndsIn lag budget last wait) (inBudget : child.HasEndedBy budget) :
    wait.outcome = .exited child.status := by
  cases ends with
  | polled => rfl
  | rechecked => rfl
  | killed late runs =>
    have rechecked : budget ≤ recheckTime lag last := by
      unfold recheckTime
      omega
    exact absurd (inBudget.mono rechecked) runs

theorem exited (ends : child.EndsIn lag budget last wait) {status : ExitStatus} (outcome : wait.outcome = .exited status) :
    status = child.status ∧ .kill ∉ wait.actions := by
  cases ends with
  | polled =>
    cases outcome
    exact ⟨rfl, by simp⟩
  | rechecked =>
    cases outcome
    exact ⟨rfl, by simp⟩
  | killed => cases outcome

theorem timedOut (ends : child.EndsIn lag budget last wait) (outcome : wait.outcome = .timedOut) :
    budget < lookTime lag last ∧ ¬child.HasEndedBy (recheckTime lag last) ∧
      wait.actions.count .kill = 1 ∧ wait.actions.count .reap = 1 := by
  cases ends with
  | polled => cases outcome
  | rechecked => cases outcome
  | killed late runs =>
    refine ⟨late, runs, ?_, ?_⟩
    · simp [List.count_append, List.count_replicate]
    · simp [List.count_append, List.count_replicate]

end EndsIn

/-- A wait ends in one of the rounds that fit into the budget, or in one of the next two. A program that has ended within
the budget is never killed, however late it is polled; one that is killed was polled in vain when the clock said that
the budget was used up, and it is killed and reaped once. -/
theorem wait_keeps_budget (child : Child) (lag : Nat → Nat) (budget : Nat) : ∃ last,
    last + 1 ≤ budget / pollInterval + 2 ∧
    (∀ round < last, child.GoesOn lag budget round) ∧ child.EndsIn lag budget last (child.wait lag budget) ∧
    (child.HasEndedBy budget →
      (child.wait lag budget).outcome = .exited child.status ∧ .kill ∉ (child.wait lag budget).actions) ∧
    ((child.wait lag budget).outcome = .timedOut →
      budget < lookTime lag last ∧ ¬child.HasEndedBy (recheckTime lag last) ∧
        (child.wait lag budget).actions.count .kill = 1 ∧ (child.wait lag budget).actions.count .reap = 1) ∧
    ∀ status, (child.wait lag budget).outcome = .exited status →
      status = child.status ∧ .kill ∉ (child.wait lag budget).actions := by
  obtain ⟨last, before, ends⟩ := child.exists_endsIn lag budget
  have rounds := round_le_of_inTime fun round earlier => (before round earlier).inTime
  refine ⟨last, rounds, before, ends, ?_, ends.timedOut, fun status => ends.exited⟩
  intro inBudget
  have outcome := ends.outcome_eq inBudget
  exact ⟨outcome, (ends.exited outcome).2⟩

end Child

end ContractSuite.Supervision
