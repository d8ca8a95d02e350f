import ContractSuite.Proofs.SettingKeys

namespace ContractSuite.Settings

open Config

/-- Holds of the contents that a setting may have: those of a number are below its limit. -/
def Key.IsWithinLimit : (key : Key) → key.Content → Prop
  | .port, number => number < Network.portLimit
  | .httpTimeout, number | .runnerTimeout, number | .stepsReadyTimeout, number => number < timeLimit
  | .host, _ | .runner, _ | .featuresDir, _ | .reportFormat, _ | .resultsDir, _ | .steps, _
  | .stepsReadyAddress, _ => True

instance (key : Key) (content : key.Content) : Decidable (key.IsWithinLimit content) :=
  match key with
  | .port => inferInstanceAs (Decidable (content < Network.portLimit))
  | .httpTimeout | .runnerTimeout | .stepsReadyTimeout => inferInstanceAs (Decidable (content < timeLimit))
  | .host | .runner | .featuresDir | .reportFormat | .resultsDir | .steps | .stepsReadyAddress => .isTrue trivial

/-- Holds when a value is of the right type for a setting and stands for this content of it. -/
def Key.Denotes : (key : Key) → Value → key.Content → Prop
  | .port, value, number => value = .integer number ∧ number < Network.portLimit
  | .httpTimeout, value, number | .runnerTimeout, value, number | .stepsReadyTimeout, value, number =>
    value = .integer number ∧ number < timeLimit
  | .stepsReadyAddress, value, address? => value = address?.elim .null .text
  | .host, value, text | .runner, value, text | .featuresDir, value, text | .reportFormat, value, text
  | .resultsDir, value, text | .steps, value, text => value = .text text

/-- An object gives these settings: its values denote them, and what it leaves out is as in the defaults. -/
structure IsGivenBy (s : Settings) (entries : Record) : Prop where
  given : ∀ (key : Key) value, (key.name, value) ∈ entries → key.Denotes value (key.get s)
  missing : ∀ key : Key, key.name ∉ entries.map Prod.fst → key.get s = key.get {}

theorem asText_eq_ok_iff {value : Value} {text : String} : asText value = .ok text ↔ value = .text text := by
  cases value <;> simp [asText]

theorem asNatural_eq_ok_iff {limit number : Nat} {value : Value} :
    asNatural limit value = .ok number ↔ value = .integer number ∧ number < limit := by
  cases value with
  | integer i =>
    simp only [asNatural, Value.integer.injEq]
    split
    · simp only [Except.ok.injEq]
      omega
    · simp only [reduceCtorEq, false_iff]
      omega
  | _ => simp [asNatural]

theorem asOptionalText_eq_ok_iff {value : Value} {text? : Option String} :
    asOptionalText value = .ok text? ↔ value = text?.elim .null .text := by
  cases value <;> cases text? <;> simp [asOptionalText]

theorem Key.read_eq_ok_iff {key : Key} {value : Value} {content : key.Content} :
    key.read value = .ok content ↔ key.Denotes value content := by
  cases key with
  | port | httpTimeout | runnerTimeout | stepsReadyTimeout => exact asNatural_eq_ok_iff
  | stepsReadyAddress => exact asOptionalText_eq_ok_iff
  | host | runner | featuresDir | reportFormat | resultsDir | steps => exact asText_eq_ok_iff

theorem mem_of_get? {entries : Record} {name : String} {value : Value} (found : entries.get? name = some value) :
    (name, value) ∈ entries := by
  obtain ⟨before, after, rfl, -⟩ := List.lookup_eq_some_iff.mp found
  exact List.mem_append_right before List.mem_cons_self

theorem not_mem_names_of_get? {entries : Record} {name : String} (absent : entries.get? name = none) :
    name ∉ entries.map Prod.fst := by
  intro member
  obtain ⟨entry, inside, same⟩ := List.mem_map.mp member
  have differs := List.lookup_eq_none_iff.mp absent entry inside
  simp [same] at differs

theorem IsGivenBy.ofValue?_eq {s : Settings} {entries : Record} (gives : s.IsGivenBy entries) :
    ofValue? (.table entries) = some s := by
  have read : ofRecord entries = .ok s := by
    refine ofRecord_eq_ok_iff.mpr fun key => ?_
    cases found : entries.get? key.name with
    | none => rw [gives.missing key (not_mem_names_of_get? found), Key.settle]
    | some value => exact Key.read_eq_ok_iff.mpr (gives.given key value (mem_of_get? found))
  rw [ofValue?, read]
  rfl

/-- Where no name stands twice, the value that is found for a name is the one that stands there. -/
theorem get?_of_mem {entries : Record} (distinct : (entries.map Prod.fst).Nodup) {name : String} {value : Value}
    (member : (name, value) ∈ entries) : entries.get? name = some value := by
  obtain ⟨before, after, rfl⟩ := List.append_of_mem member
  refine List.lookup_eq_some_iff.mpr ⟨before, after, rfl, fun entry inside => ?_⟩
  rw [List.map_append, List.map_cons, List.nodup_append] at distinct
  have apart := distinct.2.2 entry.1 (List.mem_map_of_mem inside) name List.mem_cons_self
  rw [bne_iff_ne]
  exact apart.symm

/-- An object without a name twice, all of whose values are of the right types, gives some settings. -/
theorem exists_isGivenBy {entries : Record} (distinct : (entries.map Prod.fst).Nodup)
    (typed : ∀ (key : Key) value, (key.name, value) ∈ entries → ∃ content, key.Denotes value content) :
    ∃ s : Settings, s.IsGivenBy entries := by
  refine ⟨Key.settings fun key => key.contentOf (entries.get? key.name), ?_, ?_⟩
  · intro key value member
    obtain ⟨content, denotes⟩ := typed key value member
    have settled : key.settle (entries.get? key.name) = .ok content := by
      rw [get?_of_mem distinct member]
      exact Key.read_eq_ok_iff.mpr denotes
    rw [Key.get_settings, Key.contentOf_of_settle settled]
    exact denotes
  · intro key absent
    have nothing : entries.get? key.name = none := by
      by_contra something
      obtain ⟨value, found⟩ := Option.ne_none_iff_exists'.mp something
      exact absent (List.mem_map_of_mem (mem_of_get? found))
    rw [Key.get_settings, nothing]
    rfl

theorem Key.Denotes.isWithinLimit {key : Key} {value : Value} {content : key.Content}
    (denotes : key.Denotes value content) : key.IsWithinLimit content := by
  cases key with
  | port | httpTimeout | runnerTimeout | stepsReadyTimeout => exact denotes.2
  | _ => trivial

theorem Key.isWithinLimit_default : ∀ key : Key, key.IsWithinLimit (key.get {}) := by
  decide

theorem IsGivenBy.isWithinLimit {s : Settings} {entries : Record} (gives : s.IsGivenBy entries) (key : Key) :
    key.IsWithinLimit (key.get s) := by
  by_cases named : key.name ∈ entries.map Prod.fst
  · obtain ⟨⟨_, value⟩, member, rfl⟩ := List.mem_map.mp named
    exact (gives.given key value member).isWithinLimit
  · rw [gives.missing key named]
    exact key.isWithinLimit_default

/-- The value that a setting is written as; an address that is unset is left out. -/
def Key.written? : (key : Key) → key.Content → Option Value
  | .port, number | .httpTimeout, number | .runnerTimeout, number | .stepsReadyTimeout, number =>
    some (.integer (number : Nat))
  | .stepsReadyAddress, address? => address?.map .text
  | .host, text | .runner, text | .featuresDir, text | .reportFormat, text | .resultsDir, text | .steps, text =>
    some (.text text)

theorem Key.denotes_of_written? {key : Key} {content : key.Content} {value : Value}
    (written : key.written? content = some value) (limit : key.IsWithinLimit content) : key.Denotes value content := by
  cases key with
  | port | httpTimeout | runnerTimeout | stepsReadyTimeout =>
    cases written
    exact ⟨rfl, limit⟩
  | stepsReadyAddress =>
    obtain ⟨address, rfl, rfl⟩ := Option.map_eq_some_iff.mp written
    rfl
  | host | runner | featuresDir | reportFormat | resultsDir | steps =>
    cases written
    rfl

/-- Only an address that is unset is left out, which is the default. -/
theorem Key.eq_default_of_written? {key : Key} {content : key.Content} (unwritten : key.written? content = none) :
    content = key.get {} := by
  cases key with
  | stepsReadyAddress => exact Option.map_eq_none_iff.mp unwritten
  | _ => cases unwritten

theorem get?_toRecord (s : Settings) (key : Key) : s.toRecord.get? key.name = key.written? (key.get s) := by
  obtain ⟨_, _, _, _, _, _, _, _, _, address?, _⟩ := s
  cases address? <;> cases key <;> rfl

theorem nodup_names : names.Nodup := by
  decide

theorem names_toRecord_sublist (s : Settings) : (s.toRecord.map Prod.fst).Sublist names := by
  obtain ⟨_, _, _, _, _, _, _, _, _, address?, _⟩ := s
  cases address? with
  | none => exact (List.erase_sublist : (names.erase "steps_ready_address").Sublist names)
  | some address => exact .refl names

/-- Settings are given by the object that they are written as. -/
theorem isGivenBy_toRecord {s : Settings} (limits : ∀ key : Key, key.IsWithinLimit (key.get s)) :
    s.IsGivenBy s.toRecord where
  given key value member := by
    have written := get?_of_mem (nodup_names.sublist s.names_toRecord_sublist) member
    rw [get?_toRecord] at written
    exact Key.denotes_of_written? written (limits key)
  missing key absent := by
    refine Key.eq_default_of_written? ?_
    rw [← get?_toRecord]
    by_contra something
    obtain ⟨value, found⟩ := Option.ne_none_iff_exists'.mp something
    exact absent (List.mem_map_of_mem (mem_of_get? found))

/-- An address is set exactly if a text is given for it, be it an empty one. -/
theorem IsGivenBy.stepsReadyAddress_eq_some_iff {s : Settings} {entries : Record} (gives : s.IsGivenBy entries)
    {address : String} :
    s.stepsReadyAddress = some address ↔ (Key.stepsReadyAddress.name, .text address) ∈ entries := by
  constructor
  · intro set
    have named : Key.stepsReadyAddress.name ∈ entries.map Prod.fst := by
      by_contra absent
      have unset : s.stepsReadyAddress = none := gives.missing .stepsReadyAddress absent
      rw [set] at unset
      cases unset
    obtain ⟨⟨_, value⟩, member, rfl⟩ := List.mem_map.mp named
    have denotes : value = s.stepsReadyAddress.elim .null .text := gives.given .stepsReadyAddress value member
    rw [set] at denotes
    cases denotes
    exact member
  · intro member
    have denotes : Value.text address = s.stepsReadyAddress.elim .null .text := gives.given .stepsReadyAddress _ member
    cases set : s.stepsReadyAddress with
    | none => rw [set] at denotes; cases denotes
    | some other => rw [set] at denotes; cases denotes; rfl

/-- Settings survive being written and read. An object is read as the defaults with what its values denote laid over
them, and the settings that come of it survive as well; both times a readiness address is set exactly if a text stands
for it, the empty one included. -/
theorem written_settings_survive {s : Settings} (limits : ∀ key : Key, key.IsWithinLimit (key.get s)) {entries : Record}
    (distinct : (entries.map Prod.fst).Nodup)
    (typed : ∀ (key : Key) value, (key.name, value) ∈ entries → ∃ content, key.Denotes value content) :
    ofValue? (.table s.toRecord) = some s ∧
    (∀ address, s.stepsReadyAddress = some address ↔ (Key.stepsReadyAddress.name, .text address) ∈ s.toRecord) ∧
    ∃ read : Settings, ofValue? (.table entries) = some read ∧
      (∀ (key : Key) value, (key.name, value) ∈ entries → key.Denotes value (key.get read)) ∧
      (∀ key : Key, key.name ∉ entries.map Prod.fst → key.get read = key.get {}) ∧
      (∀ address, read.stepsReadyAddress = some address ↔ (Key.stepsReadyAddress.name, .text address) ∈ entries) ∧
      ofValue? (.table read.toRecord) = some read := by
  have written := isGivenBy_toRecord limits
  obtain ⟨read, gives⟩ := exists_isGivenBy distinct typed
  have again := isGivenBy_toRecord gives.isWithinLimit
  refine ⟨written.ofValue?_eq, fun address => written.stepsReadyAddress_eq_some_iff, read, gives.ofValue?_eq,
    gives.given, gives.missing, fun address => gives.stepsReadyAddress_eq_some_iff, again.ofValue?_eq⟩

/-- An object that leaves out most settings, gives others out of their order, and has a name that no setting has. -/
def looseObject : Record :=
  [("steps_ready_address", .text ""), ("colour", .list [.null, .fraction]), ("steps", .text "./serve"),
    ("runner_timeout_ms", .integer 18446744073709551615)]

/-- Settings at the limits of their numbers and with an unset address, and an object with an empty one. -/
theorem written_settings_survive_looseObject :
    ofValue? (.table (toRecord { host := "", port := 65535, httpTimeout := 18446744073709551615 })) =
        some { host := "", port := 65535, httpTimeout := 18446744073709551615 } ∧
      ∃ read : Settings, ofValue? (.table looseObject) = some read ∧ read.steps = "./serve" ∧
        read.runnerTimeout = 18446744073709551615 ∧ read.stepsReadyAddress = some "" ∧ read.host = "localhost" ∧
        ofValue? (.table read.toRecord) = some read := by
  have typed (key : Key) (value : Value) (member : (key.name, value) ∈ looseObject) :
      ∃ content, key.Denotes value content := by
    simp only [looseObject, List.mem_cons, Prod.mk.injEq, List.not_mem_nil, or_false] at member
    rcases member with ⟨named, rfl⟩ | ⟨named, rfl⟩ | ⟨named, rfl⟩ | ⟨named, rfl⟩
    · obtain rfl : key = .stepsReadyAddress := Key.name_injective named
      exact ⟨some "", rfl⟩
    · exact absurd named (by revert key; decide)
    · obtain rfl : key = .steps := Key.name_injective named
      exact ⟨"./serve", rfl⟩
    · obtain rfl : key = .runnerTimeout := Key.name_injective named
      exact ⟨(18446744073709551615 : Nat), rfl, by decide⟩
  have limits (key : Key) :
      key.IsWithinLimit (key.get { host := "", port := 65535, httpTimeout := 18446744073709551615 }) := by
    revert key
    decide
  have distinct : (looseObject.map Prod.fst).Nodup := by decide
  obtain ⟨survives, -, read, found, given, missing, address, again⟩ := written_settings_survive limits distinct typed
  refine ⟨survives, read, found, ?_, ?_, ?_, ?_, again⟩
  · exact (Value.text.inj (given .steps (.text "./serve") (by simp [looseObject, Key.name]))).symm
  · have denotes := given .runnerTimeout (.integer 18446744073709551615) (by simp [looseObject, Key.name])
    exact (Int.ofNat.inj (Value.integer.inj denotes.1)).symm
  · exact (address "").mpr (by simp [looseObject, Key.name])
  · exact missing .host (by decide)

end ContractSuite.Settings
