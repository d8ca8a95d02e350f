import ContractSuite.Supervision.Wait

namespace ContractSuite.Supervision

/-- What comes of a call. -/
structure Call where
  isAccepted : Bool
  /-- How long the call takes, if it is given enough time. -/
  duration : Nat
  deriving DecidableEq, Repr

/-- What a wait for a listener meets. -/
structure Surroundings (κ : Type) where
  /-- How much time passes before each look at the clock. -/
  lag : Nat → Nat
  /-- The candidates that each resolution of the address gives, if it gives any. -/
  resolve : Nat → Option (List κ)
  /-- What comes of a call to a candidate, after so many looks at the clock. -/
  call : κ → Nat → Call

/-- A call that was made: when, and how much time it was given. -/
structure Attempt where
  time : Nat
  limit : Nat
  isAccepted : Bool
  deriving DecidableEq, Repr

/-- How far a wait has come: the time, the number of looks at the clock, and the calls, the latest first. -/
structure Progress where
  now : Nat := 0
  looks : Nat := 0
  attempts : List Attempt := []
  deriving DecidableEq, Repr

namespace Surroundings

variable {κ : Type}

/-- A look at the clock. -/
def look (world : Surroundings κ) (p : Progress) : Progress :=
  { p with now := p.now + world.lag p.looks, looks := p.looks + 1 }

/-- Calls a candidate, unless no time is left. -/
def callOne (world : Surroundings κ) (budget : Nat) (candidate : κ) (p : Progress) :
    Bool × Progress :=
  let p := world.look p
  if budget ≤ p.now then (false, p)
  else
    let limit := budget - p.now
    let call := world.call candidate p.looks
    (call.isAccepted, { p with
      now := p.now + min call.duration limit
      attempts := ⟨p.now, limit, call.isAccepted⟩ :: p.attempts })

/-- Calls candidates one after another until one accepts. -/
def callEach (world : Surroundings κ) (budget : Nat) : List κ → Progress → Bool × Progress
  | [], p => (false, p)
  | candidate :: more, p =>
    let called := world.callOne budget candidate p
    if called.1 then called else callEach world budget more called.2

/-- Resolves the address and calls its candidates. -/
def round (world : Surroundings κ) (budget : Nat) (resolutions : Nat) (p : Progress) :
    Bool × Progress :=
  match world.resolve resolutions with
  | none => (false, p)
  | some candidates => world.callEach budget candidates p

theorem now_le_look (world : Surroundings κ) (p : Progress) : p.now ≤ (world.look p).now := by
  simp [look]

theorem now_le_callOne (world : Surroundings κ) (budget : Nat) (candidate : κ) (p : Progress) :
    p.now ≤ (world.callOne budget candidate p).2.now := by
  simp only [callOne]
  split
  · exact now_le_look world p
  · exact Nat.le_trans (now_le_look world p) (Nat.le_add_right _ _)

theorem now_le_callEach (world : Surroundings κ) (budget : Nat) (candidates : List κ)
    (p : Progress) : p.now ≤ (world.callEach budget candidates p).2.now := by
  induction candidates generalizing p with
  | nil => exact Nat.le_refl _
  | cons candidate more ih =>
    have first := now_le_callOne world budget candidate p
    simp only [callEach]
    split
    · exact first
    · exact Nat.le_trans first (ih _)

theorem now_le_round (world : Surroundings κ) (budget : Nat) (resolutions : Nat)
    (p : Progress) : p.now ≤ (world.round budget resolutions p).2.now := by
  unfold round
  split
  · exact Nat.le_refl _
  · exact now_le_callEach world budget _ p

/-- Waits on for a listener. -/
def awaitFrom (world : Surroundings κ) (budget : Nat) (resolutions : Nat) (p : Progress) :
    Bool × Progress :=
  let looked := world.look p
  if budget ≤ looked.now then (false, looked)
  else
    let called := world.round budget resolutions looked
    if called.1 then called
    else
      let rested := world.look called.2
      awaitFrom world budget (resolutions + 1)
        { rested with now := rested.now + min pollInterval (budget - rested.now) }
  termination_by budget - p.now
  decreasing_by
    have first := now_le_look world p
    have second := now_le_round world budget resolutions (world.look p)
    have third := now_le_look world (world.round budget resolutions (world.look p)).2
    have _inTime : ¬budget ≤ (world.look p).now := ‹_›
    simp only [pollInterval]
    omega

/-- Waits until some candidate accepts a call. -/
def await (world : Surroundings κ) (budget : Nat) : Bool × Progress :=
  world.awaitFrom budget 0 {}

end Surroundings

end ContractSuite.Supervision
