import ContractSuite.Executor
import ContractSuite.Proofs.Path.Components

namespace ContractSuite

namespace Digest

/-- The digits in which digests are written. -/
def hexDigits : List Char :=
  ['0', '1', '2', '3', '4', '5', '6', '7', '8', '9', 'a', 'b', 'c', 'd', 'e', 'f']

theorem lowerHex_mem : ∀ n < 16, lowerHex n ∈ hexDigits := by
  decide

theorem lowerHex_inj : ∀ m < 16, ∀ n < 16, lowerHex m = lowerHex n → m = n := by
  decide

theorem halves_lt (byte : UInt8) : byte.toNat / 16 < 16 ∧ byte.toNat % 16 < 16 := by
  have small : byte.toNat < 256 := byte.toNat_lt
  omega

theorem hexByte_inj {a b : UInt8} (same : hexByte a = hexByte b) : a = b := by
  obtain ⟨aHigh, aLow⟩ := halves_lt a
  obtain ⟨bHigh, bLow⟩ := halves_lt b
  simp only [hexByte, List.cons.injEq, and_true] at same
  obtain ⟨high, low⟩ := same
  have sameHigh := lowerHex_inj _ aHigh _ bHigh high
  have sameLow := lowerHex_inj _ aLow _ bLow low
  apply UInt8.toNat_inj.mp
  omega

theorem length_hexText (bytes : List UInt8) : (hexText bytes).length = 2 * bytes.length := by
  induction bytes with
  | nil => rfl
  | cons byte more ih =>
    rw [hexText, List.flatMap_cons, List.length_append]
    rw [hexText] at ih
    rw [ih, List.length_cons, Nat.mul_succ, Nat.add_comm]
    rfl

theorem mem_hexText {bytes : List UInt8} {c : Char} (inside : c ∈ hexText bytes) : c ∈ hexDigits := by
  obtain ⟨byte, -, isDigit⟩ := List.mem_flatMap.mp inside
  obtain ⟨high, low⟩ := halves_lt byte
  rcases List.mem_pair.mp isDigit with rfl | rfl
  · exact lowerHex_mem _ high
  · exact lowerHex_mem _ low

/-- No digit is left out, so that the digits of each byte stand at a place of their own. -/
theorem hexText_inj {a b : List UInt8} (same : hexText a = hexText b) : a = b := by
  induction a generalizing b with
  | nil =>
    cases b with
    | nil => rfl
    | cons second others => cases same
  | cons first more ih =>
    cases b with
    | nil => cases same
    | cons second others =>
      obtain ⟨here, later⟩ := List.append_inj (same : hexByte first ++ hexText more = hexByte second ++ hexText others) rfl
      obtain rfl := hexByte_inj here
      rw [ih later]

end Digest

theorem toList_scenarioDigest (scenario : String) :
    (scenarioDigest scenario).toList = Digest.hexText (Digest.Sha256.digest scenario.toUTF8).toList :=
  String.toList_ofList

theorem length_scenarioDigest (scenario : String) : (scenarioDigest scenario).length = 64 := by
  rw [← String.length_toList, toList_scenarioDigest, Digest.length_hexText, Vector.length_toList]

theorem mem_scenarioDigest {scenario : String} {c : Char} (inside : c ∈ (scenarioDigest scenario).toList) :
    c ∈ Digest.hexDigits := by
  rw [toList_scenarioDigest] at inside
  exact Digest.mem_hexText inside

theorem scenarioDigest_eq_iff {scenario other : String} : scenarioDigest scenario = scenarioDigest other ↔
    Digest.Sha256.digest scenario.toUTF8 = Digest.Sha256.digest other.toUTF8 := by
  constructor
  · intro same
    have written := congrArg String.toList same
    rw [toList_scenarioDigest, toList_scenarioDigest] at written
    exact Vector.toList_inj.mp (Digest.hexText_inj written)
  · intro same
    unfold scenarioDigest
    rw [same]

theorem scenarioDigest_ne (scenario text : String) (short : text.length ≠ 64) : scenarioDigest scenario ≠ text := by
  rintro rfl
  exact short (length_scenarioDigest scenario)

/-- Digits make a name, which is too long to stand for a directory itself or for the one above it. -/
theorem isEntryName_scenarioDigest (scenario : String) : Path.IsEntryName (scenarioDigest scenario) where
  notIdle := by
    unfold Path.isIdle
    rw [Bool.or_eq_false_iff, beq_eq_false_iff_ne, beq_eq_false_iff_ne]
    constructor
    · intro empty
      exact scenarioDigest_ne scenario "" (by decide) (String.toList_inj.mp empty)
    · intro dot
      exact scenarioDigest_ne scenario "." (by decide) (String.toList_inj.mp dot)
  notParent := scenarioDigest_ne scenario ".." (by decide)
  noSlash slash := absurd (mem_scenarioDigest slash) (by decide)

theorem components_reportLocation (resultsDir scenario : String) :
    Path.components (reportLocation resultsDir scenario) =
      Path.components resultsDir ++ [.name (scenarioDigest scenario)] :=
  (isEntryName_scenarioDigest scenario).components_join resultsDir

/-- The report of a scenario is placed directly inside the results directory, under 64 hexadecimal digits, and two
scenarios share a place exactly if their digests are equal. The runner is given the place and the scenario's name, each
as one argument and as it is. -/
theorem reportLocation_inside (resultsDir scenario : String) :
    Path.components (reportLocation resultsDir scenario) =
      Path.components resultsDir ++ [.name (scenarioDigest scenario)] ∧
    (scenarioDigest scenario).length = 64 ∧ (∀ c ∈ (scenarioDigest scenario).toList, c ∈ Digest.hexDigits) ∧
    scenarioDigest scenario ≠ "." ∧ scenarioDigest scenario ≠ ".." ∧
    (∀ other, reportLocation resultsDir scenario = reportLocation resultsDir other ↔
      Digest.Sha256.digest scenario.toUTF8 = Digest.Sha256.digest other.toUTF8) ∧
    (∀ other, Path.components (reportLocation resultsDir scenario) = Path.components (reportLocation resultsDir other) ↔
      Digest.Sha256.digest scenario.toUTF8 = Digest.Sha256.digest other.toUTF8) ∧
    ∀ config : ExecutorConfig, config.runnerArguments scenario = [config.featuresDir, "-n", scenario, "-f",
      config.reportFormat, "-o", reportLocation config.resultsDir scenario] := by
  have isName := isEntryName_scenarioDigest scenario
  have places (other : String) :
      Path.components (reportLocation resultsDir scenario) = Path.components (reportLocation resultsDir other) ↔
        Digest.Sha256.digest scenario.toUTF8 = Digest.Sha256.digest other.toUTF8 := by
    rw [components_reportLocation, components_reportLocation, List.append_cancel_left_eq, ← scenarioDigest_eq_iff]
    simp
  refine ⟨components_reportLocation resultsDir scenario, length_scenarioDigest scenario,
    fun c => mem_scenarioDigest, isName.ne_dot, isName.notParent, ?_, places, fun config => rfl⟩
  intro other
  constructor
  · intro same
    exact (places other).mp (congrArg Path.components same)
  · intro same
    unfold reportLocation
    rw [scenarioDigest_eq_iff.mpr same]

end ContractSuite
