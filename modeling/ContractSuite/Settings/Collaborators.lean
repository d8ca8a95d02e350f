import ContractSuite.ContractClient
import ContractSuite.Executor
import ContractSuite.Settings.Basic

namespace ContractSuite.Settings

/-- The client of the contract server. -/
def client (s : Settings) : ContractClient where
  host := s.host
  port := s.port
  timeout := s.httpTimeout.toNanoseconds

/-- The programs and limits for running scenarios. -/
def executorConfig (s : Settings) : ExecutorConfig where
  runner := s.runner
  featuresDir := s.featuresDir
  reportFormat := s.reportFormat
  resultsDir := s.resultsDir
  steps := s.steps
  runnerTimeout := s.runnerTimeout.toNanoseconds
  readiness := s.stepsReadyAddress.map fun address => ⟨address, s.stepsReadyTimeout.toNanoseconds⟩

end ContractSuite.Settings
