import ContractSuite.EnvironmentScope

namespace ContractSuite.Sharing

/-- The lock of the environment. -/
inductive Lock (Thread : Type)
  | free
  /-- One thread holds the lock, and has taken it so many times after the first. -/
  | held (owner : Thread) (further : Nat)
  deriving DecidableEq, Repr

namespace Lock

variable {Thread : Type} [DecidableEq Thread]

/-- The lock when a thread has taken it. While another thread holds it, the thread has to wait. -/
def take? (thread : Thread) : Lock Thread → Option (Lock Thread)
  | free => some (held thread 0)
  | held owner further => if owner = thread then some (held owner (further + 1)) else none

/-- The lock when its owner has given it up once. -/
def giveUp : Lock Thread → Lock Thread
  | free => free
  | held _ 0 => free
  | held owner (further + 1) => held owner further

/-- How many times a thread holds the lock. -/
def depthOf (thread : Thread) : Lock Thread → Nat
  | free => 0
  | held owner further => if owner = thread then further + 1 else 0

end Lock

/-- What all threads share. -/
structure Shared (Thread : Type) where
  environment : Environment
  lock : Lock Thread := .free
  deriving DecidableEq, Repr

/-- What a guard on its own does under the lock: it is made by a change, and dropped by a restoration. -/
inductive Write
  | change (change : VariableChange)
  | restore (guard : VariableGuard)
  deriving DecidableEq, Repr

namespace Write

/-- The variable that is written. -/
def key : Write → String
  | .change made => made.key
  | .restore guard => guard.key

/-- The guards that a write still has to restore. -/
def guards : Write → List VariableGuard
  | .change _ => []
  | .restore guard => [guard]

end Write

/-- How far a thread is with a write for which it takes the lock. -/
inductive Phase
  | idle
  | locking (write : Write)
  | writing (write : Write)
  | unlocking
  deriving DecidableEq, Repr

namespace Phase

/-- How many times the lock is held for the write. -/
def depth : Phase → Nat
  | .idle | .locking _ => 0
  | .writing _ | .unlocking => 1

/-- The guards that are still to be restored. -/
def guards : Phase → List VariableGuard
  | .idle | .unlocking => []
  | .locking write | .writing write => write.guards

end Phase

/-- What a thread has made and not dropped yet. -/
inductive Holding
  /-- A guard on its own. -/
  | guard (guard : VariableGuard)
  /-- A scope whose builder runs and has kept these guards. -/
  | building (guards : List VariableGuard)
  /-- A live scope. -/
  | scope (scope : EnvironmentScope)
  /-- A scope that is being dropped, with the guards that have not been dropped yet. -/
  | closing (guards : List VariableGuard)
  deriving DecidableEq, Repr

namespace Holding

/-- The guards that are still to be restored. -/
def guards : Holding → List VariableGuard
  | .guard alone => [alone]
  | .building kept => kept
  | .scope live => live.guards
  | .closing rest => rest

/-- Holds of scopes, from the moment at which they take the lock to the one at which they give it up. -/
def isScope : Holding → Bool
  | .guard _ => false
  | .building _ | .scope _ | .closing _ => true

/-- Holds of the scopes whose builder runs. -/
def isBuilding : Holding → Bool
  | .building _ => true
  | _ => false

end Holding

/-- What one thread has made, the latest first, and how far it is with a write. -/
structure ThreadState where
  holdings : List Holding := []
  phase : Phase := .idle
  deriving DecidableEq, Repr

namespace ThreadState

/-- Holds when nothing is under way, so that the thread can begin something. -/
def isAtRest : ThreadState → Bool
  | ⟨.closing _ :: _, _⟩ => false
  | ⟨_, .idle⟩ => true
  | _ => false

end ThreadState

/-- What a thread can do in one step. -/
inductive Action
  /-- Takes the lock for a scope, whose builder begins to run. -/
  | enter
  /-- Changes a variable for the scope that is being built. -/
  | keep (change : VariableChange)
  /-- Ends the builder that has begun last; it hands over its guards in this order. -/
  | finish (guards : List VariableGuard)
  /-- Begins to change a variable under a guard on its own. -/
  | guard (change : VariableChange)
  /-- Changes a variable under a guard on its own, through the lock of a builder that runs. -/
  | lend (change : VariableChange)
  /-- Begins to drop what has been made last. -/
  | drop
  /-- Goes on with what is under way. -/
  | proceed
  deriving DecidableEq, Repr

namespace Action

/-- Holds of the actions that make something which can be dropped. -/
def isMaking : Action → Bool
  | .enter | .guard _ | .lend _ => true
  | _ => false

/-- Holds of the actions that make no guard outside of a scope. -/
def isScoped : Action → Bool
  | .guard _ | .lend _ => false
  | _ => true

end Action

/-- The holdings when the builder that has begun last hands over the guards that it has kept. -/
def handOver? (guards : List VariableGuard) : List Holding → Option (List Holding)
  | [] => none
  | .building kept :: others => if guards.isPerm kept then some (.scope ⟨guards⟩ :: others) else none
  | holding :: others => (handOver? guards others).map (holding :: ·)

/-- The variable that a thread writes by an action, if it writes one. -/
def ThreadState.written? (own : ThreadState) : Action → Option String
  | .keep change | .lend change => some change.key
  | .proceed => match own.phase with
    | .writing write => some write.key
    | _ => none
  | _ => none

section

variable {Thread : Type} [DecidableEq Thread]

/-- What an action makes of the state of its thread and of what is shared, if the thread can do it. -/
def advance? (thread : Thread) (shared : Shared Thread) :
    Action → ThreadState → Option (ThreadState × Shared Thread)
  | .enter, own =>
    if own.isAtRest then
      (shared.lock.take? thread).map fun lock =>
        (⟨.building [] :: own.holdings, .idle⟩, ⟨shared.environment, lock⟩)
    else none
  | .keep change, ⟨.building guards :: others, .idle⟩ =>
    let (guard, environment) := change.apply shared.environment
    if change.key ∈ guards.map VariableGuard.key then none
    else some (⟨.building (guards ++ [guard]) :: others, .idle⟩, ⟨environment, shared.lock⟩)
  | .finish guards, own =>
    if own.isAtRest then (handOver? guards own.holdings).map fun holdings => (⟨holdings, .idle⟩, shared)
    else none
  | .guard change, own =>
    if own.isAtRest then some (⟨own.holdings, .locking (.change change)⟩, shared) else none
  | .lend change, own =>
    let (guard, environment) := change.apply shared.environment
    if own.isAtRest && own.holdings.any Holding.isBuilding then
      some (⟨.guard guard :: own.holdings, .idle⟩, ⟨environment, shared.lock⟩)
    else none
  | .drop, ⟨.guard guard :: others, .idle⟩ => some (⟨others, .locking (.restore guard)⟩, shared)
  | .drop, ⟨.scope scope :: others, .idle⟩ => some (⟨.closing scope.guards :: others, .idle⟩, shared)
  | .proceed, ⟨holdings, .locking write⟩ =>
    (shared.lock.take? thread).map fun lock => (⟨holdings, .writing write⟩, ⟨shared.environment, lock⟩)
  | .proceed, ⟨holdings, .writing (.change change)⟩ =>
    let (guard, environment) := change.apply shared.environment
    some (⟨.guard guard :: holdings, .unlocking⟩, ⟨environment, shared.lock⟩)
  | .proceed, ⟨holdings, .writing (.restore guard)⟩ =>
    some (⟨holdings, .unlocking⟩, ⟨guard.restore shared.environment, shared.lock⟩)
  | .proceed, ⟨holdings, .unlocking⟩ => some (⟨holdings, .idle⟩, ⟨shared.environment, shared.lock.giveUp⟩)
  | .proceed, ⟨.closing (guard :: guards) :: others, .idle⟩ =>
    some (⟨.closing guards :: others, .locking (.restore guard)⟩, shared)
  | .proceed, ⟨.closing [] :: others, .idle⟩ => some (⟨others, .idle⟩, ⟨shared.environment, shared.lock.giveUp⟩)
  | _, _ => none

end

/-- The state of all threads and of what they share. -/
structure State (Thread : Type) extends Shared Thread where
  threads : Thread → ThreadState

namespace State

variable {Thread : Type} [DecidableEq Thread]

/-- No thread has made anything yet. -/
def start (e : Environment) : State Thread where
  environment := e
  threads _ := {}

/-- One step: an action of one thread. -/
def step? (s : State Thread) (thread : Thread) (action : Action) : Option (State Thread) :=
  (advance? thread s.toShared action (s.threads thread)).map fun (own, shared) =>
    { shared with threads := fun other => if other = thread then own else s.threads other }

end State

end ContractSuite.Sharing
