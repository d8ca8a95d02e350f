import ContractSuite.Proofs.FileChain
import ContractSuite.Proofs.Layers

namespace ContractSuite

namespace Config

open FileTree (Location KeepsWays)

theorem findSome?_filter_of_eq_none {α β : Type} {f : α → Option β} {p : α → Bool} {l : List α}
    (idle : ∀ a ∈ l, p a = false → f a = none) : (l.filter p).findSome? f = l.findSome? f := by
  induction l with
  | nil => rfl
  | cons a more ih =>
    rw [List.forall_mem_cons] at idle
    cases kept : p a with
    | true => rw [List.filter_cons_of_pos kept, List.findSome?_cons, List.findSome?_cons, ih idle.2]
    | false => rw [List.filter_cons_of_neg (by simp [kept]), List.findSome?_cons, idle.1 kept, ih idle.2]

/-- What is found first is found before it comes again. -/
theorem findSome?_eraseDups {α β : Type} [BEq α] [LawfulBEq α] (f : α → Option β) :
    (l : List α) → l.eraseDups.findSome? f = l.findSome? f
  | [] => rfl
  | a :: more => by
    rw [List.eraseDups_cons, List.findSome?_cons, List.findSome?_cons, findSome?_eraseDups]
    cases here : f a with
    | some b => rfl
    | none =>
      -- What is taken away has been asked already, in vain.
      refine findSome?_filter_of_eq_none fun b _ same => ?_
      rw [Bool.not_eq_false', beq_iff_eq] at same
      rw [same, here]
termination_by l => l.length
decreasing_by exact Nat.lt_succ_of_le (List.length_filter_le _ _)

variable {t : FileTree}

/-- Holds when a path leads to no file that can be read with all that it extends. -/
def Fails (t : FileTree) (path : String) : Prop :=
  ∀ files record, ¬ Loads t path files record

/-- Holds when nothing is found behind a path. -/
def Missing (t : FileTree) (path : String) : Prop :=
  ∃ error, t.resolve path = .error error ∧ error.kind = .notFound

instance (t : FileTree) (path : String) : Decidable (Missing t path) :=
  match led : t.resolve path with
  | .error error => decidable_of_iff (error.kind = .notFound) (by simp [Missing, led])
  | .ok place => isFalse (by simp [Missing, led])

/-- The record that a path leads to. -/
def loaded? (t : FileTree) (path : String) : Option Record :=
  match readFile? t path with
  | .ok record? => record?
  | .error _ => none

/-- Why what a path leads to cannot be read. -/
def fault? (t : FileTree) (path : String) : Option ConfigError :=
  match readFile? t path with
  | .ok _ => none
  | .error cause => some cause

theorem readFile?_eq_ok_none_iff {path : String} : readFile? t path = .ok none ↔ Missing t path := by
  unfold readFile? Missing
  cases led : t.resolve path with
  | error error =>
    by_cases missing : error.kind = .notFound <;> simp [missing]
  | ok place =>
    have refused : (if isRegular t place = true then (readChain t (t.nodes.length + 1) [] place).map some
        else .error (.file path (.refused notRegular))) ≠ .ok none := by
      split
      · cases readChain t (t.nodes.length + 1) [] place <;> simp [Except.map]
      · simp
    simpa using refused

theorem loaded?_eq_some_iff {path : String} {record : Record} :
    loaded? t path = some record ↔ ∃ files, Loads t path files record := by
  rw [← readFile?_eq_ok_some_iff, loaded?]
  cases readFile? t path <;> simp

theorem loaded?_eq_none_iff {path : String} : loaded? t path = none ↔ Fails t path := by
  constructor
  · intro nothing files record loads
    rw [loaded?_eq_some_iff.mpr ⟨files, loads⟩] at nothing
    cases nothing
  · intro nothing
    cases found : loaded? t path with
    | none => rfl
    | some record =>
      obtain ⟨files, loads⟩ := loaded?_eq_some_iff.mp found
      exact absurd loads (nothing files record)

theorem fault?_eq_none_iff {path : String} (nothing : loaded? t path = none) :
    fault? t path = none ↔ Missing t path := by
  rw [← readFile?_eq_ok_none_iff]
  unfold loaded? at nothing
  unfold fault?
  cases read : readFile? t path with
  | error cause => simp
  | ok record? => rw [read] at nothing; cases nothing; simp

/-- The search goes through the candidates once; what it has gathered counts only in the end. -/
theorem firstReadable_eq (t : FileTree) (failures : List ConfigError) (paths : List String) :
    firstReadable t failures paths = match paths.findSome? (loaded? t) with
      | some record => .ok (some record)
      | none => (ConfigError.gather? (failures ++ paths.filterMap (fault? t))).elim (.ok none) .error := by
  induction paths generalizing failures with
  | nil =>
    rw [firstReadable, List.findSome?_nil, List.filterMap_nil, List.append_nil]
    cases ConfigError.gather? failures <;> rfl
  | cons path more ih =>
    rw [firstReadable, List.findSome?_cons, List.filterMap_cons, loaded?, fault?]
    cases readFile? t path with
    | error cause => simp [ih]
    | ok record? => cases record? <;> simp [ih]

theorem gather?_eq_none_iff {errors : List ConfigError} : ConfigError.gather? errors = none ↔ errors = [] := by
  match errors with
  | [] => simp [ConfigError.gather?]
  | [error] => simp [ConfigError.gather?]
  | error :: next :: more => simp [ConfigError.gather?]

section Search

variable {e : Environment}

theorem discover_of_first {before after : List String} {path : String} {files : List Location} {record : Record}
    (candidates : optionalCandidates t e = before ++ path :: after)
    (skipped : ∀ earlier ∈ before, Fails t earlier) (loads : Loads t path files record) :
    discover t e none = .ok (some record) := by
  have found : (optionalCandidates t e).findSome? (loaded? t) = some record := by
    rw [List.findSome?_eq_some_iff]
    refine ⟨before, path, after, candidates, loaded?_eq_some_iff.mpr ⟨files, loads⟩, fun earlier member => ?_⟩
    exact loaded?_eq_none_iff.mpr (skipped earlier member)
  have searched := firstReadable_eq t [] (optionalCandidates t e).eraseDups
  rw [findSome?_eraseDups, found] at searched
  exact searched

theorem discover_of_none (nothing : ∀ path ∈ optionalCandidates t e, Fails t path) :
    discover t e none =
      (ConfigError.gather? ((optionalCandidates t e).eraseDups.filterMap (fault? t))).elim (.ok none) .error := by
  have found : (optionalCandidates t e).findSome? (loaded? t) = none := by
    rw [List.findSome?_eq_none_iff]
    exact fun path member => loaded?_eq_none_iff.mpr (nothing path member)
  have searched := firstReadable_eq t [] (optionalCandidates t e).eraseDups
  rw [findSome?_eraseDups, found] at searched
  exact searched

/-- If no candidate loads, the search succeeds without a file exactly if nothing is found behind any of them. -/
theorem discover_eq_ok_none_iff
    (nothing : ∀ path ∈ optionalCandidates t e, Fails t path) :
    discover t e none = .ok none ↔ ∀ path ∈ optionalCandidates t e, Missing t path := by
  have missing : (optionalCandidates t e).eraseDups.filterMap (fault? t) = [] ↔
      ∀ path ∈ optionalCandidates t e, Missing t path := by
    rw [List.filterMap_eq_nil_iff]
    simp only [List.mem_eraseDups]
    refine forall₂_congr fun path member => ?_
    exact fault?_eq_none_iff (loaded?_eq_none_iff.mpr (nothing path member))
  rw [discover_of_none nothing, ← missing, ← gather?_eq_none_iff]
  cases ConfigError.gather? ((optionalCandidates t e).eraseDups.filterMap (fault? t)) <;> simp

theorem discover_ne_ok_some
    (nothing : ∀ path ∈ optionalCandidates t e, Fails t path) (record : Record) :
    discover t e none ≠ .ok (some record) := by
  rw [discover_of_none nothing]
  cases ConfigError.gather? ((optionalCandidates t e).eraseDups.filterMap (fault? t)) <;> simp

end Search

section Asked

variable {path : String}

theorem discover_asked (asked : path ≠ "") (t : FileTree) (e : Environment) :
    discover t e (some path) = match readFile? t path with
      | .ok (some record) => .ok (some record)
      | .ok none => .error (.file path (.refused requiredMissing))
      | .error error => .error error := by
  have kept : (some path).filter (· ≠ "") = some path := Option.filter_some_pos (by simpa using asked)
  unfold discover
  cases read : readFile? t path with
  | error cause => simp only [kept, read]
  | ok record? => cases record? <;> simp only [kept, read]

theorem discover_of_loads (asked : path ≠ "") {files : List Location} {record : Record}
    (loads : Loads t path files record) (e : Environment) : discover t e (some path) = .ok (some record) := by
  rw [discover_asked asked, readFile?_eq_ok_some_iff.mpr ⟨files, loads⟩]

theorem discover_of_not_loads (asked : path ≠ "") (fails : Fails t path) :
    ∃ cause, ∀ e, discover t e (some path) = .error cause := by
  simp only [discover_asked asked]
  cases read : readFile? t path with
  | error cause => exact ⟨cause, fun _ => rfl⟩
  | ok record? =>
    cases record? with
    | none => exact ⟨_, fun _ => rfl⟩
    | some record =>
      obtain ⟨files, loads⟩ := readFile?_eq_ok_some_iff.mp read
      exact absurd loads (fails files record)

end Asked

/-- The variables that the search looks at. -/
def consulted : List String :=
  ["HOME", pathVariable, "XDG_CONFIG_HOME", "XDG_CONFIG_DIRS"]

theorem discover_congr {e e' : Environment} (same : ∀ name ∈ consulted, e'.get? name = e.get? name) (t : FileTree)
    (configPath : Option String) : discover t e' configPath = discover t e configPath := by
  have home := same "HOME" (by simp [consulted])
  have byVariable := same pathVariable (by simp [consulted])
  have ofUser := same "XDG_CONFIG_HOME" (by simp [consulted])
  have ofAll := same "XDG_CONFIG_DIRS" (by simp [consulted])
  unfold discover optionalCandidates sharedDirectories nonEmpty?
  rw [home, byVariable, ofUser, ofAll]

end Config

namespace Settings

open Config
open FileTree (KeepsWays)

theorem not_gives_pathVariable (key : Key) : gives pathVariable key.name = false := by
  cases key <;> decide

section Load

variable {t : FileTree}

theorem load_of_error {e : Environment} {configPath : Option String} {cause : ConfigError}
    (refused : discover t e configPath = .error cause) (o : Overrides) :
    load t e o configPath = .error (.configuration cause) := by
  rw [load, refused]

theorem load_asked_congr {t' : FileTree} {path : String} {files : List FileTree.Location} {record : Record}
    (asked : path ≠ "") (loads : Loads t path files record) (loads' : Loads t' path files record) (e : Environment)
    (o : Overrides) (value? value?' : Option String) :
    load t' (e.put pathVariable value?) o (some path) = load t (e.put pathVariable value?') o (some path) := by
  rw [load_eq_ofLayers (discover_of_loads asked loads _), load_eq_ofLayers (discover_of_loads asked loads' _)]
  refine ofLayers_congr fun key => ?_
  have unread := get?_ofEnvironment_put_of_not_gives (not_gives_pathVariable key) e
  rw [topmost?, topmost?, unread, unread]

/-- A file that is asked for alone decides: if it fails to load, so do the settings; if it loads, it is the file layer,
and other files and the variable that names a file have no influence. If none is asked for, the first candidate that
loads is the file layer. If none loads, the search fails exactly if looking for one of them ends otherwise than by
finding nothing, and no file is taken if it does not. -/
theorem load_by_discovery (t : FileTree) :
    (∀ path, path ≠ "" → Fails t path → ∃ cause, ∀ e o, load t e o (some path) = .error (.configuration cause)) ∧
    (∀ path files record, path ≠ "" → Loads t path files record →
      (∀ e o, load t e o (some path) = ofLayers record (ofEnvironment e) o.toRecord) ∧
      ∀ t', KeepsWays t t' → (∀ file ∈ files, t'.node? file = t.node? file) →
        ∀ (e : Environment) o value? value?',
          load t' (e.put pathVariable value?) o (some path) = load t (e.put pathVariable value?') o (some path)) ∧
    (∀ e before path after files record, optionalCandidates t e = before ++ path :: after →
      (∀ earlier ∈ before, Fails t earlier) → Loads t path files record →
        ∀ o, load t e o none = ofLayers record (ofEnvironment e) o.toRecord) ∧
    ∀ e, (∀ path ∈ optionalCandidates t e, Fails t path) →
      ((∃ cause, discover t e none = .error cause) ↔ ∃ path ∈ optionalCandidates t e, ¬ Missing t path) ∧
      (∀ cause, discover t e none = .error cause → ∀ o, load t e o none = .error (.configuration cause)) ∧
      ((∀ path ∈ optionalCandidates t e, Missing t path) →
        ∀ o, load t e o none = ofLayers [] (ofEnvironment e) o.toRecord) := by
  refine ⟨fun path asked fails => ?_, fun path files record asked loads => ⟨fun e o => ?_, ?_⟩, ?_, ?_⟩
  · obtain ⟨cause, refused⟩ := discover_of_not_loads asked fails
    exact ⟨cause, fun e o => load_of_error (refused e) o⟩
  · exact load_eq_ofLayers (discover_of_loads asked loads e) o
  · intro t' ways same e o value? value?'
    exact load_asked_congr asked loads (loads.frame ways same) e o value? value?'
  · intro e before path after files record candidates skipped loads o
    exact load_eq_ofLayers (discover_of_first candidates skipped loads) o
  · intro e nothing
    have missing := discover_eq_ok_none_iff nothing
    refine ⟨?_, fun cause refused => load_of_error refused, fun all o => load_eq_ofLayers (missing.mpr all) o⟩
    constructor
    · rintro ⟨cause, refused⟩
      by_contra all
      push Not at all
      rw [missing.mpr all] at refused
      cases refused
    · rintro ⟨path, candidate, found⟩
      cases result : discover t e none with
      | error cause => exact ⟨cause, rfl⟩
      | ok record? =>
        cases record? with
        | none => exact absurd (missing.mp result path candidate) found
        | some record => exact absurd result (discover_ne_ok_some nothing record)

/-- A file that is found without being asked for. -/
def hiddenTree : FileTree where
  nodes := [([".contract_runner.toml"], .file "host = \"dot\"\n".toUTF8.toList)]

/-- A file that extends another one. -/
def extendingTree : FileTree where
  nodes := [(["custom.toml"], .file "extends = \"base.toml\"\nport = 7000\n".toUTF8.toList),
    (["base.toml"], .file "host = \"base\"\n".toUTF8.toList)]

/-- A file that is asked for and missing is missed although another one loads; one that loads is not affected by a
broken one that turns up. -/
theorem load_hiddenTree_extendingTree :
    (∃ cause, ∀ e o, load hiddenTree e o (some "absent.toml") = .error (.configuration cause)) ∧
    (∀ value? value?' o, load (extendingTree.add [".contract_runner.toml"] (.file "port = ".toUTF8.toList))
      (Environment.put [] pathVariable value?) o (some "custom.toml") =
        load extendingTree (Environment.put [] pathVariable value?') o (some "custom.toml")) ∧
    (∃ record, loaded? hiddenTree "/.contract_runner.toml" = some record ∧
      ∀ o : Overrides, load hiddenTree [] o none = ofLayers record (ofEnvironment []) o.toRecord) ∧
    ∀ o : Overrides, load {} [] o none = ofLayers [] (ofEnvironment []) o.toRecord := by
  have failing {t : FileTree} {path : String} (nothing : (loaded? t path).isNone) : Fails t path :=
    loaded?_eq_none_iff.mp (Option.isNone_iff_eq_none.mp nothing)
  obtain ⟨refused, -, first, -⟩ := load_by_discovery hiddenTree
  obtain ⟨-, taken, -, -⟩ := load_by_discovery extendingTree
  obtain ⟨-, -, -, without⟩ := load_by_discovery {}
  refine ⟨refused _ (by decide) (failing (by decide +kernel)), ?_, ?_, ?_⟩
  · intro value? value?' o
    obtain ⟨record, found⟩ := Option.isSome_iff_exists.mp
      (by decide +kernel : (loaded? extendingTree "custom.toml").isSome = true)
    obtain ⟨files, loads⟩ := loaded?_eq_some_iff.mp found
    obtain ⟨-, unaffected⟩ := taken _ _ _ (by decide) loads
    refine unaffected _ (KeepsWays.add _ _ _) (fun file member => ?_) [] o value? value?'
    exact FileTree.node?_add_of_isSome (node?_isSome_of_isRegular (loads.regular file member))
  · obtain ⟨record, found⟩ := Option.isSome_iff_exists.mp
      (by decide +kernel : (loaded? hiddenTree "/.contract_runner.toml").isSome = true)
    obtain ⟨files, loads⟩ := loaded?_eq_some_iff.mp found
    refine ⟨record, found, first [] ["/etc/xdg/contract_runner/config.toml", "/etc/xdg/.contract_runner.toml"] _ [] files
      record (by decide +kernel) (List.forall_mem_cons.mpr ⟨failing ?_, List.forall_mem_singleton.mpr (failing ?_)⟩) loads⟩
    · decide +kernel
    · decide +kernel
  · obtain ⟨-, -, empty⟩ := without [] fun path member => failing (by revert path; decide +kernel)
    exact empty (by decide +kernel)

/-- A file that stands where a directory is looked for. -/
def plainTree : FileTree where
  nodes := [(["plain"], .file "x".toUTF8.toList)]

/-- The search can fail although no candidate is there. An empty path that is asked for counts as none. -/
theorem load_plainTree_hiddenTree :
    ((∀ path ∈ optionalCandidates plainTree [("XDG_CONFIG_HOME", "plain")],
        (plainTree.resolve path).toOption = none) ∧
      ∃ cause, load plainTree [("XDG_CONFIG_HOME", "plain")] {} none = .error (.configuration cause)) ∧
    Fails hiddenTree "" ∧ (load hiddenTree [] {} (some "")).toOption = some { host := "dot" } := by
  refine ⟨⟨by decide +kernel, ?_⟩, ?_, by decide +kernel⟩
  · have refused : (discover plainTree [("XDG_CONFIG_HOME", "plain")] none).toOption.isNone := by decide +kernel
    cases result : discover plainTree [("XDG_CONFIG_HOME", "plain")] none with
    | error cause => exact ⟨cause, load_of_error result {}⟩
    | ok record? => rw [result] at refused; cases refused
  · refine loaded?_eq_none_iff.mp (Option.isNone_iff_eq_none.mp ?_)
    decide +kernel

end Load

end Settings

end ContractSuite
