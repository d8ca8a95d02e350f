import ContractSuite.Report
import ContractSuite.Scan

namespace ContractSuite

/-- A call that a scan makes. -/
inductive Call
  | initContract (name : String)
  | runScenario (name : String)
  | checkExpectations
  deriving DecidableEq, Repr

/-- Holds of the calls that initialise a contract. -/
def Call.isInit : Call → Bool
  | .initContract _ => true
  | _ => false

/-- Scripted answers. The n-th call takes the n-th answer and calls past the end the last one; without
answers every call succeeds. A scenario that is not listed passes. -/
structure Rehearsal where
  initAnswers : List (Except SuiteError Unit) := []
  checkAnswers : List (Except SuiteError Unit) := []
  scenarioAnswers : List (String × Except SuiteError ScenarioStatus) := []

namespace Rehearsal

/-- The answer to a call before which `earlier` calls of its kind were made. -/
def answer (answers : List (Except SuiteError Unit)) (earlier : Nat) : Except SuiteError Unit :=
  (answers[earlier]?.or answers.getLast?).getD (.ok ())

/-- The server of a rehearsal. -/
def server (script : Rehearsal) : ContractServer (List Call) where
  initContract name := fun calls =>
    (answer script.initAnswers (calls.countP Call.isInit), .initContract name :: calls)
  checkExpectations := fun calls =>
    (answer script.checkAnswers (calls.countP (· == .checkExpectations)), .checkExpectations :: calls)

/-- The executor of a rehearsal. -/
def executor (script : Rehearsal) : ScenarioExecutor (List Call) where
  runScenario name := fun calls =>
    ((script.scenarioAnswers.lookup name).getD (.ok .passed), .runScenario name :: calls)

end Rehearsal

end ContractSuite
