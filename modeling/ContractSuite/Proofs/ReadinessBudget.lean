import ContractSuite.Supervision.Readiness

namespace ContractSuite.Supervision

/-- A pause between two rounds: the time at which it begins, and how long it is. -/
structure Pause where
  time : Nat
  length : Nat
  deriving DecidableEq, Repr

namespace Surroundings

variable {κ : Type} {world : Surroundings κ} {budget : Nat}

/-- The pause behind a round that came to nothing. -/
def pauseBehind (world : Surroundings κ) (budget : Nat) (p : Progress) : Pause :=
  ⟨(world.look p).now, min pollInterval (budget - (world.look p).now)⟩

/-- How far a wait has come behind that pause. -/
def rest (world : Surroundings κ) (budget : Nat) (p : Progress) : Progress :=
  { world.look p with now := (world.pauseBehind budget p).time + (world.pauseBehind budget p).length }

/-- The course of a wait from a round on: the pauses in it, and its result. A round is late, or a candidate accepts in
it, or it is followed by a pause and by the next one. -/
inductive Course (world : Surroundings κ) (budget : Nat) : Nat → Progress → List Pause → Bool × Progress → Prop
  | late {resolutions p} : budget ≤ (world.look p).now → Course world budget resolutions p [] (false, world.look p)
  | reached {resolutions p q} : (world.look p).now < budget →
      world.round budget resolutions (world.look p) = (true, q) → Course world budget resolutions p [] (true, q)
  | again {resolutions p q pauses result} : (world.look p).now < budget →
      world.round budget resolutions (world.look p) = (false, q) →
      Course world budget (resolutions + 1) (world.rest budget q) pauses result →
      Course world budget resolutions p (world.pauseBehind budget q :: pauses) result

theorem exists_course (world : Surroundings κ) (budget resolutions : Nat) (p : Progress) :
    ∃ pauses, world.Course budget resolutions p pauses (world.awaitFrom budget resolutions p) := by
  fun_induction world.awaitFrom budget resolutions p with
  | case1 resolutions p looked late => exact ⟨[], .late late⟩
  | case2 resolutions p looked inTime called accepted =>
    have reached : called = (true, called.2) := Prod.ext accepted rfl
    rw [reached]
    exact ⟨[], .reached (Nat.lt_of_not_le inTime) reached⟩
  | case3 resolutions p looked inTime called refused rested ih =>
    have nothing : called = (false, called.2) := Prod.ext (Bool.eq_false_iff.mpr refused) rfl
    obtain ⟨pauses, course⟩ := ih
    exact ⟨_, .again (Nat.lt_of_not_le inTime) nothing course⟩

namespace Course

variable {resolutions : Nat} {p : Progress} {pauses : List Pause} {result : Bool × Progress}

/-- Each pause is a full one, or else it uses the budget up and is the last. -/
theorem length_pauses (course : world.Course budget resolutions p pauses result) :
    pauses = [] ∨ p.now + pollInterval * pauses.length < budget + pollInterval := by
  induction course with
  | late => exact Or.inl rfl
  | reached => exact Or.inl rfl
  | @again resolutions p q pauses result inTime nothing course ih =>
    right
    have before := world.now_le_look p
    have behind : (world.look p).now ≤ q.now := by
      simpa only [nothing] using world.now_le_round budget resolutions (world.look p)
    have rested := world.now_le_look q
    rw [List.length_cons, Nat.mul_succ]
    -- A pause is shortened only if less than a whole one is left, and then no other one comes behind it.
    rcases ih with rfl | bound
    · simp only [List.length_nil, pollInterval]
      omega
    · simp only [rest, pauseBehind, pollInterval] at bound ⊢
      omega

theorem rounds_le (course : world.Course budget 0 {} pauses result) : pauses.length + 1 ≤ budget / pollInterval + 2 := by
  rcases course.length_pauses with rfl | bound
  · exact Nat.le_add_left 1 _
  · simp only [pollInterval] at bound ⊢
    omega

theorem pause_le (course : world.Course budget resolutions p pauses result) :
    ∀ pause ∈ pauses, pause.length ≤ budget - pause.time := by
  induction course with
  | late => simp
  | reached => simp
  | again _ _ _ ih => exact List.forall_mem_cons.mpr ⟨Nat.min_le_right _ _, ih⟩

theorem budget_le_now (course : world.Course budget resolutions p pauses result) (refused : result.1 = false) :
    budget ≤ result.2.now := by
  induction course with
  | late late => exact late
  | reached => cases refused
  | again _ _ _ ih => exact ih refused

end Course

/-- What is told of the calls behind a result: they were made in time, and with no more time than was left, and the
result is that one of them was accepted. -/
structure Accounts (budget : Nat) (result : Bool × Progress) : Prop where
  inBudget : ∀ attempt ∈ result.2.attempts, attempt.time < budget ∧ attempt.limit ≤ budget - attempt.time
  accepted_iff : result.1 = true ↔ ∃ attempt ∈ result.2.attempts, attempt.isAccepted = true

namespace Accounts

variable {p : Progress}

theorem look (accounts : Accounts budget (false, p)) (world : Surroundings κ) : Accounts budget (false, world.look p) :=
  ⟨accounts.inBudget, accounts.accepted_iff⟩

theorem callOne (accounts : Accounts budget (false, p)) (world : Surroundings κ) (candidate : κ) :
    Accounts budget (world.callOne budget candidate p) := by
  have refused : ¬∃ attempt ∈ p.attempts, attempt.isAccepted = true := fun accepted =>
    Bool.false_ne_true (accounts.accepted_iff.mpr accepted)
  simp only [Surroundings.callOne]
  split
  · exact accounts.look world
  · next inTime =>
    refine ⟨List.forall_mem_cons.mpr ⟨⟨Nat.lt_of_not_le inTime, Nat.le_refl _⟩, accounts.inBudget⟩, ?_⟩
    constructor
    · intro accepted
      exact ⟨_, List.mem_cons_self, accepted⟩
    · rintro ⟨attempt, member, accepted⟩
      rcases List.mem_cons.mp member with rfl | earlier
      · exact accepted
      · exact absurd ⟨attempt, earlier, accepted⟩ refused

theorem callEach (accounts : Accounts budget (false, p)) (world : Surroundings κ) (candidates : List κ) :
    Accounts budget (world.callEach budget candidates p) := by
  induction candidates generalizing p with
  | nil => exact accounts
  | cons candidate more ih =>
    have called := accounts.callOne world candidate
    simp only [Surroundings.callEach]
    split
    · exact called
    · next refused =>
      have same : (false, (world.callOne budget candidate p).2) = world.callOne budget candidate p :=
        Prod.ext (Bool.eq_false_iff.mpr refused).symm rfl
      rw [← same] at called
      exact ih called

theorem round (accounts : Accounts budget (false, p)) (world : Surroundings κ) (resolutions : Nat) :
    Accounts budget (world.round budget resolutions p) := by
  unfold Surroundings.round
  split
  · exact accounts
  · exact accounts.callEach world _

theorem of_course {resolutions : Nat} {pauses : List Pause} {result : Bool × Progress}
    (course : world.Course budget resolutions p pauses result) (accounts : Accounts budget (false, p)) :
    Accounts budget result := by
  induction course with
  | late => exact accounts.look world
  | @reached resolutions p q _ accepted =>
    have called := (accounts.look world).round world resolutions
    rwa [accepted] at called
  | @again resolutions p q pauses result _ nothing _ ih =>
    have called := (accounts.look world).round world resolutions
    rw [nothing] at called
    exact ih ⟨called.inBudget, called.accepted_iff⟩

end Accounts

theorem accounts_await (world : Surroundings κ) (budget : Nat) : Accounts budget (world.await budget) := by
  obtain ⟨pauses, course⟩ := world.exists_course budget 0 {}
  exact .of_course course ⟨by simp, by simp⟩

theorem await_without_budget (world : Surroundings κ) : world.await 0 = (false, world.look {}) := by
  unfold await
  rw [awaitFrom]
  exact if_pos (Nat.zero_le _)

/-- An address that does not resolve ends a round, but not the wait. -/
theorem awaitFrom_of_unresolved {resolutions : Nat} {p : Progress} (inTime : (world.look p).now < budget)
    (unresolved : world.resolve resolutions = none) :
    world.awaitFrom budget resolutions p =
      world.awaitFrom budget (resolutions + 1) (world.rest budget (world.look p)) := by
  have nothing : world.round budget resolutions (world.look p) = (false, world.look p) := by
    unfold round
    rw [unresolved]
  rw [awaitFrom, nothing]
  exact if_neg (Nat.not_le_of_lt inTime)

/-- Holds of candidates that refuse calls in no time, when they are called one after another from a look at the clock
on. -/
def RefuseAtOnce (world : Surroundings κ) (looks : Nat) (candidates : List κ) : Prop :=
  ∀ i candidate, candidates[i]? = some candidate → world.call candidate (looks + i) = ⟨false, 0⟩

theorem RefuseAtOnce.tail {looks : Nat} {first : κ} {more : List κ}
    (refuse : world.RefuseAtOnce looks (first :: more)) : world.RefuseAtOnce (looks + 1) more := by
  intro i candidate found
  rw [Nat.add_right_comm, Nat.add_assoc]
  exact refuse (i + 1) candidate (by simpa using found)

theorem look_of_prompt (prompt : ∀ i, world.lag i = 0) (p : Progress) :
    world.look p = { p with looks := p.looks + 1 } := by
  unfold look
  rw [prompt, Nat.add_zero]

theorem callOne_of_prompt (prompt : ∀ i, world.lag i = 0) {p : Progress} (inTime : p.now < budget) (candidate : κ) :
    world.callOne budget candidate p = ((world.call candidate (p.looks + 1)).isAccepted,
      { now := p.now + min (world.call candidate (p.looks + 1)).duration (budget - p.now), looks := p.looks + 1,
        attempts := ⟨p.now, budget - p.now, (world.call candidate (p.looks + 1)).isAccepted⟩ :: p.attempts }) := by
  unfold callOne
  rw [look_of_prompt prompt]
  exact if_neg (Nat.not_le_of_lt inTime)

theorem callEach_accepted (prompt : ∀ i, world.lag i = 0) {quiet : List κ} {candidate : κ} {more : List κ} {p : Progress}
    (inTime : p.now < budget) (refuse : world.RefuseAtOnce (p.looks + 1) quiet)
    (accepts : (world.call candidate (p.looks + 1 + quiet.length)).isAccepted = true) :
    (world.callEach budget (quiet ++ candidate :: more) p).1 = true := by
  induction quiet generalizing p with
  | nil =>
    have accepted : (world.callOne budget candidate p).1 = true := by
      rw [callOne_of_prompt prompt inTime]
      exact accepts
    rw [List.nil_append, callEach, if_pos accepted]
    exact accepted
  | cons first quiet ih =>
    have refused : world.call first (p.looks + 1) = ⟨false, 0⟩ := refuse 0 first rfl
    rw [List.length_cons, ← Nat.add_assoc, Nat.add_right_comm] at accepts
    rw [List.cons_append, callEach, callOne_of_prompt prompt inTime, refused, if_neg Bool.false_ne_true]
    refine ih ?_ refuse.tail accepts
    rwa [Nat.zero_min]

/-- Rounds in which the address does not resolve only take the time of their pauses. -/
theorem await_of_unresolved (prompt : ∀ i, world.lag i = 0) {failures : Nat} (inTime : pollInterval * failures < budget)
    (unresolved : ∀ i < failures, world.resolve i = none) :
    world.await budget = world.awaitFrom budget failures { now := pollInterval * failures, looks := 2 * failures } := by
  induction failures with
  | zero => rfl
  | succ failures ih =>
    rw [Nat.mul_succ] at inTime
    have begun : pollInterval * failures < budget := Nat.lt_of_le_of_lt (Nat.le_add_right _ _) inTime
    have fits : min pollInterval (budget - pollInterval * failures) = pollInterval := by omega
    rw [ih begun fun i earlier => unresolved i (Nat.lt_succ_of_lt earlier)]
    rw [awaitFrom_of_unresolved _ (unresolved failures (Nat.lt_succ_self failures))]
    · unfold rest pauseBehind
      simp only [look_of_prompt prompt, fits]
      rfl
    · rw [look_of_prompt prompt]
      exact begun

/-- However often the address has not resolved before, a candidate that accepts is found in time. -/
theorem await_accepted (prompt : ∀ i, world.lag i = 0) {failures : Nat} {quiet : List κ} {candidate : κ} {more : List κ}
    (inTime : pollInterval * failures < budget) (unresolved : ∀ i < failures, world.resolve i = none)
    (resolved : world.resolve failures = some (quiet ++ candidate :: more))
    (refuse : world.RefuseAtOnce (2 * failures + 2) quiet)
    (accepts : (world.call candidate (2 * failures + 2 + quiet.length)).isAccepted = true) :
    (world.await budget).1 = true := by
  rw [await_of_unresolved prompt inTime unresolved, awaitFrom, look_of_prompt prompt]
  have accepted : (world.round budget failures
      { now := pollInterval * failures, looks := 2 * failures + 1 }).1 = true := by
    unfold round
    rw [resolved]
    exact callEach_accepted prompt inTime refuse accepts
  rw [if_neg (Nat.not_le_of_lt inTime), if_pos accepted]
  exact accepted

/-- A wait for a listener ends in one of the rounds that fit into the budget, or in one of the next two. It tells whether
a call was accepted. No call and no pause is given more time than is left, no call is made when nothing is left, and
the wait is not given up before. -/
theorem await_keeps_budget (world : Surroundings κ) (budget : Nat) :
    (∃ pauses, world.Course budget 0 {} pauses (world.await budget) ∧
      pauses.length + 1 ≤ budget / pollInterval + 2 ∧ ∀ pause ∈ pauses, pause.length ≤ budget - pause.time) ∧
    ((world.await budget).1 = true ↔ ∃ attempt ∈ (world.await budget).2.attempts, attempt.isAccepted = true) ∧
    (∀ attempt ∈ (world.await budget).2.attempts, attempt.time < budget ∧ attempt.limit ≤ budget - attempt.time) ∧
    ((world.await budget).1 = false → budget ≤ (world.await budget).2.now) ∧
    (∀ (resolve : Nat → Option (List κ)) (call : κ → Nat → Call),
      await ⟨world.lag, resolve, call⟩ 0 = (false, { now := world.lag 0, looks := 1 })) ∧
    (∀ resolutions p, (world.look p).now < budget → world.resolve resolutions = none →
      world.awaitFrom budget resolutions p =
        world.awaitFrom budget (resolutions + 1) (world.rest budget (world.look p))) ∧
    ∀ failures quiet candidate more, (∀ i, world.lag i = 0) → pollInterval * failures < budget →
      (∀ i < failures, world.resolve i = none) → world.resolve failures = some (quiet ++ candidate :: more) →
      world.RefuseAtOnce (2 * failures + 2) quiet →
      (world.call candidate (2 * failures + 2 + quiet.length)).isAccepted = true → (world.await budget).1 = true := by
  obtain ⟨pauses, course⟩ := world.exists_course budget 0 {}
  have accounts := world.accounts_await budget
  refine ⟨⟨pauses, course, course.rounds_le, course.pause_le⟩, accounts.accepted_iff, accounts.inBudget,
    course.budget_le_now, ?_, fun resolutions p => awaitFrom_of_unresolved, ?_⟩
  · intro resolve call
    rw [await_without_budget]
    simp only [look, Nat.zero_add]
  · intro failures quiet candidate more prompt inTime unresolved resolved refuse accepts
    exact await_accepted prompt inTime unresolved resolved refuse accepts

end Surroundings

end ContractSuite.Supervision
