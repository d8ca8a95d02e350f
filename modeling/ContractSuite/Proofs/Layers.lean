import ContractSuite.Proofs.SettingKeys
import ContractSuite.Settings.Layers

namespace ContractSuite

open Config Settings

namespace Config

/-- Holds when a variable of this name gives the setting. -/
def gives (variableName setting : String) : Bool :=
  (settingPath? variableName).bind List.head? == some setting

theorem gives_of_given {variableName text setting : String} {value : Value}
    (given : ofEnvironment.entry? (variableName, text) = some (setting, value)) :
    gives variableName setting = true := by
  unfold ofEnvironment.entry? at given
  unfold gives
  cases path : settingPath? variableName with
  | none => rw [path] at given; cases given
  | some names =>
    rw [path] at given
    cases names with
    | nil => cases given
    | cons name more =>
      cases given
      simp

/-- One more variable comes somewhere among the entries of the others. -/
theorem ofEnvironment_cons (entry : String × String) (e : Environment) :
    ∃ before after, ofEnvironment e = before ++ after ∧
      ofEnvironment (entry :: e) = before ++ ((ofEnvironment.entry? entry).toList ++ after) := by
  have trans (a b c : String × String) (first : decide (a.1 ≤ b.1) = true) (second : decide (b.1 ≤ c.1) = true) :
      decide (a.1 ≤ c.1) = true :=
    decide_eq_true (String.le_trans (of_decide_eq_true first) (of_decide_eq_true second))
  have total (a b : String × String) : (decide (a.1 ≤ b.1) || decide (b.1 ≤ a.1)) = true := by
    rcases String.le_total a.1 b.1 with le | le <;> simp [le]
  obtain ⟨below, above, whole, rest, _⟩ := List.mergeSort_cons trans total entry e
  refine ⟨(above.filterMap ofEnvironment.entry?).reverse, (below.filterMap ofEnvironment.entry?).reverse, ?_, ?_⟩
  · rw [ofEnvironment, rest, List.filterMap_append, List.reverse_append]
  · rw [ofEnvironment, whole, List.filterMap_append, List.reverse_append, List.filterMap_cons]
    cases ofEnvironment.entry? entry <;> simp

theorem get?_append (first second : Record) (name : String) :
    Record.get? (first ++ second) name = (first.get? name).or (second.get? name) :=
  Record.get?_laidOver first second name

/-- A variable that gives another setting has no influence on this one. -/
theorem get?_ofEnvironment_cons_of_not_gives {variableName setting : String}
    (other : gives variableName setting = false) (text : String) (e : Environment) :
    (ofEnvironment ((variableName, text) :: e)).get? setting = (ofEnvironment e).get? setting := by
  obtain ⟨before, after, rest, whole⟩ := ofEnvironment_cons (variableName, text) e
  have nothing : Record.get? (ofEnvironment.entry? (variableName, text)).toList setting = none := by
    cases given : ofEnvironment.entry? (variableName, text) with
    | none => rfl
    | some found =>
      obtain ⟨name, value⟩ := found
      have differs : (setting == name) = false := by
        rw [beq_eq_false_iff_ne]
        rintro rfl
        rw [gives_of_given given] at other
        cases other
      simp [Record.get?, List.lookup_cons, differs]
  rw [whole, rest, get?_append, get?_append, get?_append, nothing, Option.none_or]

theorem get?_ofEnvironment_put_of_not_gives {variableName setting : String}
    (other : gives variableName setting = false) (e : Environment) (value? : Option String) :
    (ofEnvironment (e.put variableName value?)).get? setting = (ofEnvironment (e.remove variableName)).get? setting := by
  cases value? with
  | none => rfl
  | some value => exact get?_ofEnvironment_cons_of_not_gives other value (e.remove variableName)

theorem get?_ofEnvironment_of_not_gives {e : Environment} {setting : String}
    (others : ∀ entry ∈ e, gives entry.1 setting = false) : (ofEnvironment e).get? setting = none := by
  induction e with
  | nil => simp [ofEnvironment, Record.get?]
  | cons entry more ih =>
    rw [List.forall_mem_cons] at others
    rw [get?_ofEnvironment_cons_of_not_gives others.1 entry.2, ih others.2]

theorem get?_ofEnvironment_cons_of_given {entry : String × String} {setting : String} {value : Value}
    (given : ofEnvironment.entry? entry = some (setting, value)) {e : Environment}
    (others : ∀ other ∈ e, gives other.1 setting = false) :
    (ofEnvironment (entry :: e)).get? setting = some value := by
  obtain ⟨before, after, rest, whole⟩ := ofEnvironment_cons entry e
  have absent := get?_ofEnvironment_of_not_gives others
  rw [rest, get?_append, Option.or_eq_none_iff] at absent
  rw [whole, get?_append, get?_append, absent.1, absent.2, given]
  simp [Record.get?]

end Config

namespace Settings

namespace Key

/-- The name of the variable that is named after a setting. -/
def variableName (key : Key) : String :=
  variableStart ++ String.ofList (key.name.toList.map Char.toUpper)

theorem settingPath?_variableName (key : Key) : settingPath? key.variableName = some [key.name] := by
  cases key <;> decide

theorem entry?_variableName (key : Key) (text : String) :
    ofEnvironment.entry? (key.variableName, text) = some (key.name, Literal.read text) := by
  rw [ofEnvironment.entry?, settingPath?_variableName]
  rfl

theorem not_gives_variableName {key other : Key} (differs : other ≠ key) : gives key.variableName other.name = false := by
  rw [gives, settingPath?_variableName, beq_eq_false_iff_ne]
  rintro same
  exact differs (name_injective (Option.some.inj same).symm)

end Key

/-- Holds when a setting is given by no variable but the one that is named after it. -/
def OnlyByVariable (e : Environment) (key : Key) : Prop :=
  ∀ entry ∈ e, gives entry.1 key.name = true → entry.1 = key.variableName

/-- Holds when a setting is given by no variable but the one that is named after it, which stands once. -/
structure NamedPlainly (e : Environment) (key : Key) : Prop where
  named : OnlyByVariable e key
  single : e.countP (·.1 == key.variableName) ≤ 1

instance (e : Environment) (key : Key) : Decidable (NamedPlainly e key) :=
  decidable_of_iff ((∀ entry ∈ e, gives entry.1 key.name = true → entry.1 = key.variableName) ∧
    e.countP (·.1 == key.variableName) ≤ 1) ⟨fun both => ⟨both.1, both.2⟩, fun plain => ⟨plain.named, plain.single⟩⟩

theorem NamedPlainly.tail {entry : String × String} {e : Environment} {key : Key}
    (plain : NamedPlainly (entry :: e) key) : NamedPlainly e key where
  named other member := plain.named other (List.mem_cons_of_mem entry member)
  single := (List.sublist_cons_self entry e).countP_le.trans plain.single

theorem NamedPlainly.get?_ofEnvironment {e : Environment} {key : Key} (plain : NamedPlainly e key) :
    (ofEnvironment e).get? key.name = (e.get? key.variableName).map Literal.read := by
  induction e with
  | nil => simp [ofEnvironment, Record.get?, Environment.get?]
  | cons entry more ih =>
    obtain ⟨name, text⟩ := entry
    rw [Environment.get?_cons]
    by_cases same : key.variableName = name
    · subst same
      have others : ∀ other ∈ more, gives other.1 key.name = false := by
        intro other member
        by_contra given
        have again := plain.named other (List.mem_cons_of_mem _ member) (by simpa using given)
        have twice := plain.single
        have found : 0 < more.countP (·.1 == key.variableName) :=
          List.countP_pos_iff.mpr ⟨other, member, by simp [again]⟩
        rw [List.countP_cons_of_pos (by simp)] at twice
        omega
      rw [get?_ofEnvironment_cons_of_given (key.entry?_variableName text) others, if_pos rfl]
      rfl
    · have other : gives name key.name = false := by
        by_contra given
        exact same (plain.named (name, text) List.mem_cons_self (by simpa using given)).symm
      rw [get?_ofEnvironment_cons_of_not_gives other text, ih plain.tail, if_neg same]

end Settings

namespace Overrides

/-- The value that the command line gives for a setting. -/
def given? (o : Overrides) : Key → Option Value
  | .host => o.host.map .text
  | .port => o.port.map fun p : Nat => .integer p
  | .resultsDir => o.resultsDir.map .text
  | .runner => o.runner.map .text
  | .steps => o.steps.map .text
  | _ => none

theorem get?_optional {α : Type} (name other : String) (toValue : α → Value) (value? : Option α) :
    Record.get? (value?.toList.map fun a => (name, toValue a)) other =
      if other = name then value?.map toValue else none := by
  cases value? with
  | none => simp [Record.get?]
  | some a =>
    by_cases same : other = name
    · simp [Record.get?, same]
    · have differs : (other == name) = false := beq_eq_false_iff_ne.mpr same
      simp [Record.get?, List.lookup_cons, differs, same]

theorem get?_toRecord (o : Overrides) (key : Key) : o.toRecord.get? key.name = o.given? key := by
  unfold toRecord
  simp only [get?_append, get?_optional]
  cases key <;> simp [Key.name, given?]

end Overrides

namespace Settings

/-- The value of the topmost layer that gives a setting: the command line, the environment, or else the file. -/
def chosen? (file : Record) (e : Environment) (o : Overrides) (key : Key) : Option Value :=
  ((o.given? key).or ((e.get? key.variableName).map Literal.read)).or (file.get? key.name)

/-- The value of the topmost layer that gives a setting, where the layers are records. -/
def topmost? (file environment : Record) (o : Overrides) (key : Key) : Option Value :=
  ((o.given? key).or (environment.get? key.name)).or (file.get? key.name)

theorem Key.settle_defaults (key : Key) : key.settle (({} : Settings).toRecord.get? key.name) = key.settle none := by
  cases key <;> rfl

theorem Key.settle_or {key : Key} {lower : Option Value} (same : key.settle lower = key.settle none)
    (upper : Option Value) : key.settle (upper.or lower) = key.settle upper := by
  cases upper with
  | none => exact same
  | some value => rfl

theorem settle_layers (file environment : Record) (o : Overrides) (key : Key) :
    key.settle ((o.toRecord.laidOver (lowerLayers file environment)).get? key.name) =
      key.settle (topmost? file environment o key) := by
  rw [topmost?, lowerLayers, Record.get?_laidOver, Record.get?_laidOver, Record.get?_laidOver, o.get?_toRecord, ← Option.or_assoc,
    ← Option.or_assoc, Key.settle_or key.settle_defaults]

theorem validate_eq_ok_iff {s : Settings} : s.validate = .ok () ↔ ∀ key : Key, key.offends s = false := by
  have none_iff : Key.inspectionOrder.find? (·.offends s) = none ↔ ∀ key : Key, key.offends s = false := by
    rw [List.find?_eq_none]
    constructor
    · intro fine key
      by_contra offending
      rw [Bool.not_eq_false] at offending
      exact fine key (Key.mem_inspectionOrder_of_offends offending) offending
    · intro fine key _ offending
      rw [fine key] at offending
      cases offending
  rw [← none_iff, validate_eq]
  cases Key.inspectionOrder.find? (·.offends s) <;> simp

theorem validate_eq_error_iff {s : Settings} {setting : InvalidSetting} :
    s.validate = .error setting ↔
      ∃ key, Key.inspectionOrder.find? (·.offends s) = some key ∧ key.complaint = setting := by
  rw [validate_eq]
  cases Key.inspectionOrder.find? (·.offends s) <;> simp

section Layers

variable {file environment overrides : Record}

theorem ofLayers_eq_ok_iff {s : Settings} :
    ofLayers file environment overrides = .ok s ↔
      ofRecord (overrides.laidOver (lowerLayers file environment)) = .ok s ∧ s.validate = .ok () := by
  unfold ofLayers
  cases ofRecord (overrides.laidOver (lowerLayers file environment)) with
  | error mismatch => simp
  | ok found =>
    dsimp only
    cases checked : found.validate with
    | error setting =>
      simp only [reduceCtorEq, false_iff, not_and]
      intro same valid
      cases same
      rw [checked] at valid
      cases valid
    | ok nothing =>
      constructor
      · intro same
        cases same
        exact ⟨rfl, checked⟩
      · rintro ⟨same, -⟩
        cases same
        rfl

theorem ofLayers_eq_invalidSetting_iff {setting : InvalidSetting} :
    ofLayers file environment overrides = .error (.invalidSetting setting) ↔
      ∃ s, ofRecord (overrides.laidOver (lowerLayers file environment)) = .ok s ∧ s.validate = .error setting := by
  unfold ofLayers
  cases ofRecord (overrides.laidOver (lowerLayers file environment)) with
  | error mismatch => simp
  | ok found => cases checked : found.validate <;> simp [checked]

theorem ofLayers_eq_configuration_iff {cause : ConfigError} :
    ofLayers file environment overrides = .error (.configuration cause) ↔
      ∃ mismatch, ofRecord (overrides.laidOver (lowerLayers file environment)) = .error mismatch ∧
        cause = .mismatch mismatch.name mismatch.kind := by
  unfold ofLayers
  cases ofRecord (overrides.laidOver (lowerLayers file environment)) with
  | error mismatch => simp [eq_comm]
  | ok found => cases checked : found.validate <;> simp [checked]

end Layers

/-- Layers that come to the same settings are not told apart. -/
theorem ofLayers_congr {file file' environment environment' : Record} {o o' : Overrides}
    (same : ∀ key : Key, key.settle (topmost? file environment o key) = key.settle (topmost? file' environment' o' key)) :
    ofLayers file environment o.toRecord = ofLayers file' environment' o'.toRecord := by
  unfold ofLayers
  rw [ofRecord_congr fun key => ?_]
  rw [settle_layers, settle_layers, same key]

section Load

variable {t : FileTree} {e : Environment} {configPath : Option String} {file? : Option Record}

theorem load_eq_ofLayers (found : discover t e configPath = .ok file?) (o : Overrides) :
    load t e o configPath = ofLayers (file?.getD []) (ofEnvironment e) o.toRecord := by
  rw [load, found]

theorem load_congr {t' : FileTree} {e' : Environment} {configPath' : Option String} {o o' : Overrides}
    (searched : discover t' e' configPath' = discover t e configPath)
    (same : ∀ (key : Key) (file : Record), key.settle (topmost? file (ofEnvironment e') o' key) =
      key.settle (topmost? file (ofEnvironment e) o key)) :
    load t' e' o' configPath' = load t e o configPath := by
  rw [load, load, searched]
  cases discover t e configPath with
  | error cause => rfl
  | ok file? => exact ofLayers_congr fun key => same key (file?.getD [])

theorem settle_of_load {o : Overrides} {s : Settings} (loaded : load t e o configPath = .ok s) (key : Key) :
    ∃ file, key.settle (topmost? file (ofEnvironment e) o key) = .ok (key.get s) := by
  cases found : discover t e configPath with
  | error cause => rw [load, found] at loaded; cases loaded
  | ok file? =>
    rw [load_eq_ofLayers found, ofLayers_eq_ok_iff, ofRecord_eq_ok_iff] at loaded
    exact ⟨file?.getD [], (settle_layers _ _ o key).symm.trans (loaded.1 key)⟩

/-- A value that does not fit is refused, whatever the other layers and the other settings are. -/
theorem load_of_misfit {o : Overrides} (key : Key)
    (misfit : ∀ file s, key.settle (topmost? file (ofEnvironment e) o key) ≠ .ok (key.get s)) :
    ∃ cause, load t e o configPath = .error (.configuration cause) := by
  cases found : discover t e configPath with
  | error cause => exact ⟨cause, by rw [load, found]⟩
  | ok file? =>
    rw [load_eq_ofLayers found]
    cases read : ofRecord (o.toRecord.laidOver (lowerLayers (file?.getD []) (ofEnvironment e))) with
    | error mismatch => exact ⟨_, ofLayers_eq_configuration_iff.mpr ⟨mismatch, read, rfl⟩⟩
    | ok s =>
      have settled := ofRecord_eq_ok_iff.mp read key
      rw [settle_layers] at settled
      exact absurd settled (misfit _ _)

theorem chosen?_eq {e : Environment} (plain : ∀ key, NamedPlainly e key) (file : Record) (o : Overrides) (key : Key) :
    chosen? file e o key = topmost? file (ofEnvironment e) o key := by
  rw [chosen?, topmost?, (plain key).get?_ofEnvironment]

/-- Each setting comes from the topmost layer that gives it, and nothing else about the layers counts. Settings are
loaded exactly if every chosen value fits and every setting makes sense; otherwise the first that does not fit is
reported, or if all fit, the first that makes no sense. -/
theorem load_follows_layers (found : discover t e configPath = .ok file?) (plain : ∀ key, NamedPlainly e key)
    (o : Overrides) :
    (∀ s, load t e o configPath = .ok s ↔
      (∀ key : Key, key.settle (chosen? (file?.getD []) e o key) = .ok (key.get s)) ∧
        ∀ key : Key, key.offends s = false) ∧
    (∀ setting, load t e o configPath = .error (.invalidSetting setting) ↔
      ∃ s, (∀ key : Key, key.settle (chosen? (file?.getD []) e o key) = .ok (key.get s)) ∧
        ∃ key, Key.inspectionOrder.find? (·.offends s) = some key ∧ key.complaint = setting) ∧
    (∀ cause, load t e o configPath = .error (.configuration cause) ↔
      ∃ mismatch, Key.firstMismatch? (chosen? (file?.getD []) e o) Key.readingOrder = some mismatch ∧
        cause = .mismatch mismatch.name mismatch.kind) ∧
    ∀ t' e' configPath' file?' o', discover t' e' configPath' = .ok file?' → (∀ key, NamedPlainly e' key) →
      (∀ key, chosen? (file?'.getD []) e' o' key = chosen? (file?.getD []) e o key) →
        load t' e' o' configPath' = load t e o configPath := by
  have settled (key : Key) : key.settle ((o.toRecord.laidOver
      (lowerLayers (file?.getD []) (ofEnvironment e))).get? key.name) =
      key.settle (chosen? (file?.getD []) e o key) := by
    rw [settle_layers, chosen?_eq plain]
  refine ⟨fun s => ?_, fun setting => ?_, fun cause => ?_, ?_⟩
  · rw [load_eq_ofLayers found, ofLayers_eq_ok_iff, ofRecord_eq_ok_iff, validate_eq_ok_iff]
    simp only [settled]
  · rw [load_eq_ofLayers found, ofLayers_eq_invalidSetting_iff]
    simp only [ofRecord_eq_ok_iff, validate_eq_error_iff, settled]
  · rw [load_eq_ofLayers found, ofLayers_eq_configuration_iff]
    have mismatches (key : Key) := Key.mismatch?_congr (settled key)
    simp only [ofRecord_eq_error_iff, Key.firstMismatch?, mismatches]
  · intro t' e' configPath' file?' o' found' plain' same
    rw [load_eq_ofLayers found, load_eq_ofLayers found']
    refine ofLayers_congr fun key => ?_
    rw [← chosen?_eq plain, ← chosen?_eq plain', same key]

/-- A file that gives the port as no number. -/
def layeredTree : FileTree where
  nodes := [([".contract_runner.toml"],
    .file "host = \"file-host\"\nport = true\nrunner = \"file-runner\"\n".toUTF8.toList)]

/-- The port of the file lies beneath one in the environment, its host beneath one on the command line. -/
theorem load_layeredTree :
    load layeredTree [("CONTRACT_RUNNER_PORT", "7100")] { host := some "cli-host" } none =
      .ok { host := "cli-host", port := 7100, runner := "file-runner" } := by
  have found : discover layeredTree [("CONTRACT_RUNNER_PORT", "7100")] none =
      .ok (discover layeredTree [("CONTRACT_RUNNER_PORT", "7100")] none).toOption.join := by
    have readable : (discover layeredTree [("CONTRACT_RUNNER_PORT", "7100")] none).toOption.isSome := by
      decide +kernel
    cases result : discover layeredTree [("CONTRACT_RUNNER_PORT", "7100")] none with
    | error cause => rw [result] at readable; cases readable
    | ok file? => rfl
  obtain ⟨loaded, -⟩ := load_follows_layers found (by decide +kernel) { host := some "cli-host" }
  exact (loaded _).mpr ⟨by decide +kernel, by decide +kernel⟩

end Load

end Settings

end ContractSuite
