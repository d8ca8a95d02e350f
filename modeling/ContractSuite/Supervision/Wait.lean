import ContractSuite.OsError

namespace ContractSuite.Supervision

/-- The pause between two polls. Lengths of time are numbers of nanoseconds. -/
def pollInterval : Nat := 25000000

/-- How a program ended. -/
inductive ExitStatus
  | code (n : Nat)
  | signal (n : Nat)
  deriving DecidableEq, Repr

/-- A program that runs: the time of its end, if it ever ends of itself, and how it will have ended. Times are counted
from the start of the wait. -/
structure Child where
  endsAt : Option Nat
  status : ExitStatus
  deriving DecidableEq, Repr

/-- How the program has ended, if it has ended by now. -/
def Child.statusAt (child : Child) (now : Nat) : Option ExitStatus :=
  if child.endsAt.any (· ≤ now) then some child.status else none

/-- The result of a wait. -/
inductive WaitOutcome
  | exited (status : ExitStatus)
  /-- The budget was used up; the program has been killed. -/
  | timedOut
  deriving DecidableEq, Repr

/-- What a wait does to the program. -/
inductive Action
  /-- Asks whether it has ended, and takes note of its end if so. -/
  | poll
  | kill
  /-- Takes note of its end. -/
  | reap
  deriving DecidableEq, Repr

/-- A wait: its result and what was done, in order. -/
structure Wait where
  outcome : WaitOutcome
  actions : List Action
  deriving DecidableEq, Repr

/-- The first action of a wait that fails: how many others come before it, and its error. -/
structure Fault where
  position : Nat
  error : OsError
  deriving DecidableEq, Repr

/-- The failure with which a wait breaks off, unless the wait is over before it gets there. -/
def Wait.failure? (wait : Wait) (fault? : Option Fault) : Option Fault :=
  fault?.filter fun fault => fault.position < wait.actions.length

/-- What a wait has done, up to the failure with which it breaks off, if it does. -/
def Wait.performed (wait : Wait) (failure? : Option Fault) : List Action :=
  match failure? with
  | some failure => wait.actions.take failure.position
  | none => wait.actions

/-- The wait with an action in front of it. -/
def Wait.after (action : Action) (wait : Wait) : Wait :=
  { wait with actions := action :: wait.actions }

@[simp] theorem Wait.outcome_after (action : Action) (wait : Wait) : (wait.after action).outcome = wait.outcome := rfl

/-- The end of a wait whose budget is used up. -/
def Child.giveUp (child : Child) (now : Nat) : Wait :=
  match child.statusAt now with
  | some status => ⟨.exited status, [.poll]⟩
  | none => ⟨.timedOut, [.poll, .kill, .reap]⟩

/-- Waits from a time on. Time passes in the pauses, and apart from them by arbitrary lags: `lag` says how much passes
before each observation, which is a poll or a look at the clock and of which `seen` have been made. -/
def Child.waitFrom (child : Child) (lag : Nat → Nat) (budget : Nat) (seen : Nat)
    (now : Nat) : Wait :=
  let polled := now + lag seen
  match child.statusAt polled with
  | some status => ⟨.exited status, [.poll]⟩
  | none =>
    let looked := polled + lag (seen + 1)
    if budget < looked then
      (child.giveUp (looked + lag (seen + 2))).after .poll
    else (child.waitFrom lag budget (seen + 2) (looked + pollInterval)).after .poll
  termination_by budget + 1 - now
  decreasing_by
    have _inTime : ¬budget < now + lag seen + lag (seen + 1) := ‹_›
    simp only [pollInterval]
    omega

/-- Waits for a program that has just been started. -/
def Child.wait (child : Child) (lag : Nat → Nat) (budget : Nat) : Wait :=
  child.waitFrom lag budget 0 0

end ContractSuite.Supervision
