import ContractSuite.Digest.Hex
import ContractSuite.Digest.Sha256
import ContractSuite.Path

namespace ContractSuite

/-- The name of a scenario as 64 hexadecimal digits. -/
def scenarioDigest (scenario : String) : String :=
  String.ofList (Digest.hexText (Digest.Sha256.digest scenario.toUTF8).toList)

/-- The path of a scenario's report. -/
def reportLocation (resultsDir scenario : String) : String :=
  Path.join resultsDir (scenarioDigest scenario)

end ContractSuite
