import ContractSuite.Settings.Record
import Mathlib.Data.List.TakeWhile

namespace ContractSuite

theorem Text.isBlankText_eq (text : String) : isBlankText text = decide (trim text = "") := by
  rw [isBlankText, Bool.eq_iff_iff, decide_eq_true_iff, ← String.toList_inj, trim, String.toList_ofList,
    String.toList_empty, List.all_eq_true]
  constructor
  · intro blank
    rw [trimBlank, List.dropWhile_eq_nil_iff.mpr blank]
    rfl
  · intro nothing c member
    cases solid : isBlank c with
    | true => rfl
    | false =>
      have kept := mem_trimBlank member solid
      rw [nothing] at kept
      cases kept

namespace Settings

open Config

/-- The settings by themselves. -/
inductive Key
  | host
  | port
  | httpTimeout
  | runner
  | featuresDir
  | reportFormat
  | resultsDir
  | steps
  | runnerTimeout
  | stepsReadyAddress
  | stepsReadyTimeout
  deriving DecidableEq, Repr

namespace Key

def name : Key → String
  | host => "host"
  | port => "port"
  | httpTimeout => "http_timeout_ms"
  | runner => "runner"
  | featuresDir => "features_dir"
  | reportFormat => "report_format"
  | resultsDir => "results_dir"
  | steps => "steps"
  | runnerTimeout => "runner_timeout_ms"
  | stepsReadyAddress => "steps_ready_address"
  | stepsReadyTimeout => "steps_ready_timeout_ms"

/-- What a setting is. -/
abbrev Content : Key → Type
  | port | httpTimeout | runnerTimeout | stepsReadyTimeout => Nat
  | stepsReadyAddress => Option String
  | _ => String

instance (key : Key) : DecidableEq key.Content :=
  match key with
  | port | httpTimeout | runnerTimeout | stepsReadyTimeout => inferInstanceAs (DecidableEq Nat)
  | stepsReadyAddress => inferInstanceAs (DecidableEq (Option String))
  | host | runner | featuresDir | reportFormat | resultsDir | steps => inferInstanceAs (DecidableEq String)

def read : (key : Key) → Value → Except MismatchKind key.Content
  | port => asNatural Network.portLimit
  | httpTimeout | runnerTimeout | stepsReadyTimeout => asNatural timeLimit
  | stepsReadyAddress => asOptionalText
  | host | runner | featuresDir | reportFormat | resultsDir | steps => asText

def get : (key : Key) → Settings → key.Content
  | host => Settings.host
  | port => Settings.port
  | httpTimeout => Settings.httpTimeout
  | runner => Settings.runner
  | featuresDir => Settings.featuresDir
  | reportFormat => Settings.reportFormat
  | resultsDir => Settings.resultsDir
  | steps => Settings.steps
  | runnerTimeout => Settings.runnerTimeout
  | stepsReadyAddress => Settings.stepsReadyAddress
  | stepsReadyTimeout => Settings.stepsReadyTimeout

/-- What a setting comes to when this value is given for it, or none. -/
def settle (key : Key) : Option Value → Except MismatchKind key.Content
  | none => .ok (key.get {})
  | some value => key.read value

/-- The content of a setting for which this value is given, or none; the default where the value does not fit. -/
def contentOf (key : Key) (given : Option Value) : key.Content :=
  match key.settle given with
  | .ok content => content
  | .error _ => key.get {}

/-- The mismatch of a value that does not fit. -/
def mismatch? (key : Key) (given : Option Value) : Option Mismatch :=
  match key.settle given with
  | .ok _ => none
  | .error kind => some ⟨key.name, kind⟩

/-- The order in which a record is read: that of the names in the alphabet. -/
def readingOrder : List Key :=
  [featuresDir, host, httpTimeout, port, reportFormat, resultsDir, runner, runnerTimeout, steps, stepsReadyAddress,
    stepsReadyTimeout]

/-- The first mismatch among settings for which values are given. -/
def firstMismatch? (given : Key → Option Value) (keys : List Key) : Option Mismatch :=
  keys.findSome? fun key => key.mismatch? (given key)

/-- Holds when the content of a setting makes no sense. -/
def offends : Key → Settings → Bool
  | host, s => Text.trim s.host = ""
  | runner, s => Text.trim s.runner = ""
  | steps, s => Text.trim s.steps = ""
  | reportFormat, s => Text.trim s.reportFormat = ""
  | httpTimeout, s => s.httpTimeout = 0
  | runnerTimeout, s => s.runnerTimeout = 0
  | stepsReadyAddress, s => s.stepsReadyAddress.any fun address => Text.trim address = ""
  | stepsReadyTimeout, s => s.stepsReadyAddress.isSome && s.stepsReadyTimeout = 0
  | port, _ | featuresDir, _ | resultsDir, _ => false

/-- The order in which settings are checked. -/
def inspectionOrder : List Key :=
  [host, runner, steps, reportFormat, httpTimeout, runnerTimeout, stepsReadyAddress, stepsReadyTimeout]

/-- What is said of a setting whose content makes no sense. -/
def complaint (key : Key) : InvalidSetting where
  key := key.name
  reason := match key with
    | port | httpTimeout | runnerTimeout | stepsReadyTimeout => "must be greater than zero"
    | _ => "must not be empty"

theorem mem_readingOrder (key : Key) : key ∈ readingOrder := by
  cases key <;> decide

theorem mem_inspectionOrder_of_offends {key : Key} {s : Settings} (offending : key.offends s = true) :
    key ∈ inspectionOrder := by
  cases key with
  | port | featuresDir | resultsDir => cases offending
  | _ => decide

instance {p : Key → Prop} [DecidablePred p] : Decidable (∀ key, p key) :=
  decidable_of_iff (∀ key ∈ readingOrder, p key) ⟨fun all key => all key key.mem_readingOrder, fun all key _ => all key⟩

theorem name_injective {key other : Key} (same : key.name = other.name) : key = other := by
  revert same
  cases key <;> cases other <;> decide

theorem ext_get {s s' : Settings} (same : ∀ key : Key, key.get s = key.get s') : s = s' := by
  obtain ⟨_, _, _, _, _, _, _, _, _, _, _⟩ := s
  obtain ⟨_, _, _, _, _, _, _, _, _, _, _⟩ := s'
  rw [Settings.mk.injEq]
  exact ⟨same host, same port, same httpTimeout, same runner, same featuresDir, same reportFormat, same resultsDir,
    same steps, same runnerTimeout, same stepsReadyAddress, same stepsReadyTimeout⟩

/-- Settings that are given one by one. -/
def settings (content : (key : Key) → key.Content) : Settings where
  host := content host
  port := content port
  httpTimeout := content httpTimeout
  runner := content runner
  featuresDir := content featuresDir
  reportFormat := content reportFormat
  resultsDir := content resultsDir
  steps := content steps
  runnerTimeout := content runnerTimeout
  stepsReadyAddress := content stepsReadyAddress
  stepsReadyTimeout := content stepsReadyTimeout

theorem get_settings (content : (key : Key) → key.Content) (key : Key) : key.get (settings content) = content key := by
  cases key <;> rfl

theorem settle_eq_ok {key : Key} {given : Option Value} (fits : key.mismatch? given = none) :
    key.settle given = .ok (key.contentOf given) := by
  unfold mismatch? at fits
  unfold contentOf
  cases settled : key.settle given with
  | ok content => rfl
  | error kind => rw [settled] at fits; cases fits

theorem contentOf_of_settle {key : Key} {given : Option Value} {content : key.Content}
    (settled : key.settle given = .ok content) : key.contentOf given = content := by
  rw [contentOf, settled]

theorem mismatch?_congr {key : Key} {given given' : Option Value} (same : key.settle given = key.settle given') :
    key.mismatch? given = key.mismatch? given' := by
  rw [mismatch?, mismatch?, same]

theorem contentOf_congr {key : Key} {given given' : Option Value} (same : key.settle given = key.settle given') :
    key.contentOf given = key.contentOf given' := by
  rw [contentOf, contentOf, same]

theorem mismatch?_eq_none_iff {key : Key} {given : Option Value} :
    key.mismatch? given = none ↔ ∃ content, key.settle given = .ok content := by
  constructor
  · intro fits
    exact ⟨_, settle_eq_ok fits⟩
  · rintro ⟨content, settled⟩
    rw [mismatch?, settled]

theorem firstMismatch?_eq_none_iff {given : Key → Option Value} :
    firstMismatch? given readingOrder = none ↔ ∀ key : Key, ∃ content, key.settle (given key) = .ok content := by
  rw [firstMismatch?, List.findSome?_eq_none_iff]
  constructor
  · intro fits key
    exact mismatch?_eq_none_iff.mp (fits key (mem_readingOrder key))
  · intro fits key _
    exact mismatch?_eq_none_iff.mpr (fits key)

end Key

open Key

theorem bind_field (key : Key) {r : Record} {keys : List Key} {s : Settings}
    {next : key.Content → Except Mismatch Settings}
    (later : next (key.contentOf (r.get? key.name)) =
      (firstMismatch? (r.get? ·.name) keys).elim (.ok s) .error) :
    field r key.name key.read (key.get {}) >>= next =
      (firstMismatch? (r.get? ·.name) (key :: keys)).elim (.ok s) .error := by
  have settled : field r key.name key.read (key.get {}) =
      (key.settle (r.get? key.name)).mapError (⟨key.name, ·⟩) := by
    unfold field settle
    cases r.get? key.name with
    | none => rfl
    | some value => dsimp only; cases key.read value <;> rfl
  rw [settled, firstMismatch?, List.findSome?_cons, mismatch?]
  rw [contentOf] at later
  cases answer : key.settle (r.get? key.name) with
  | error kind => rfl
  | ok content =>
    rw [answer] at later
    exact later

/-- A record is read by reading each of its settings; the first that does not fit is reported. -/
theorem ofRecord_eq (r : Record) :
    ofRecord r = (firstMismatch? (r.get? ·.name) readingOrder).elim
      (.ok (settings fun key => key.contentOf (r.get? key.name))) .error := by
  unfold ofRecord readingOrder
  refine bind_field .featuresDir ?_
  refine bind_field .host ?_
  refine bind_field .httpTimeout ?_
  refine bind_field .port ?_
  refine bind_field .reportFormat ?_
  refine bind_field .resultsDir ?_
  refine bind_field .runner ?_
  refine bind_field .runnerTimeout ?_
  refine bind_field .steps ?_
  refine bind_field .stepsReadyAddress ?_
  refine bind_field .stepsReadyTimeout ?_
  rfl

theorem ofRecord_eq_ok_iff {r : Record} {s : Settings} :
    ofRecord r = .ok s ↔ ∀ key : Key, key.settle (r.get? key.name) = .ok (key.get s) := by
  rw [ofRecord_eq]
  constructor
  · intro read key
    cases first : firstMismatch? (r.get? ·.name) readingOrder with
    | some mismatch => rw [first] at read; cases read
    | none =>
      rw [first] at read
      cases read
      obtain ⟨content, settled⟩ := firstMismatch?_eq_none_iff.mp first key
      rw [get_settings, contentOf_of_settle settled, settled]
  · intro settled
    rw [firstMismatch?_eq_none_iff.mpr fun key => ⟨_, settled key⟩]
    refine congrArg Except.ok (ext_get fun key => ?_)
    rw [get_settings, contentOf_of_settle (settled key)]

theorem ofRecord_eq_error_iff {r : Record} {mismatch : Mismatch} :
    ofRecord r = .error mismatch ↔ firstMismatch? (r.get? ·.name) readingOrder = some mismatch := by
  rw [ofRecord_eq]
  cases firstMismatch? (r.get? ·.name) readingOrder <;> simp

/-- Only the values of the settings decide how a record is read. -/
theorem ofRecord_congr {r r' : Record} (same : ∀ key : Key, key.settle (r.get? key.name) = key.settle (r'.get? key.name)) :
    ofRecord r = ofRecord r' := by
  have content (key : Key) := contentOf_congr (same key)
  have mismatch (key : Key) := mismatch?_congr (same key)
  rw [ofRecord_eq, ofRecord_eq, firstMismatch?, firstMismatch?]
  simp only [content, mismatch]

theorem requireText_eq (key : Key) {s : Settings} {value : String}
    (offending : key.offends s = decide (Text.trim value = ""))
    (complaint : key.complaint = ⟨key.name, "must not be empty"⟩) :
    requireText key.name value = if key.offends s then .error key.complaint else .ok () := by
  rw [requireText, Text.isBlankText_eq, offending, complaint]

theorem requirePositive_eq (key : Key) {s : Settings} {value : Milliseconds}
    (offending : key.offends s = decide (value = 0))
    (complaint : key.complaint = ⟨key.name, "must be greater than zero"⟩) :
    requirePositive key.name value = if key.offends s then .error key.complaint else .ok () := by
  simp only [requirePositive, offending, complaint, decide_eq_true_iff]

theorem bind_check (key : Key) {s : Settings} {keys : List Key} {check : Except InvalidSetting Unit}
    {next : Unit → Except InvalidSetting Unit} (here : check = if key.offends s then .error key.complaint else .ok ())
    (later : next () = (keys.find? (·.offends s)).elim (.ok ()) fun key => .error key.complaint) :
    check >>= next = ((key :: keys).find? (·.offends s)).elim (.ok ()) fun key => .error key.complaint := by
  rw [here, List.find?_cons]
  cases key.offends s with
  | true => rfl
  | false => exact later

/-- The first setting whose content makes no sense is reported. -/
theorem validate_eq (s : Settings) :
    s.validate = (inspectionOrder.find? (·.offends s)).elim (.ok ()) fun key => .error key.complaint := by
  unfold validate inspectionOrder
  refine bind_check .host (requireText_eq .host rfl rfl) ?_
  refine bind_check .runner (requireText_eq .runner rfl rfl) ?_
  refine bind_check .steps (requireText_eq .steps rfl rfl) ?_
  refine bind_check .reportFormat (requireText_eq .reportFormat rfl rfl) ?_
  refine bind_check .httpTimeout (requirePositive_eq .httpTimeout rfl rfl) ?_
  refine bind_check .runnerTimeout (requirePositive_eq .runnerTimeout rfl rfl) ?_
  cases given : s.stepsReadyAddress with
  | none => simp [offends, given]; rfl
  | some address =>
    refine bind_check .stepsReadyAddress (requireText_eq .stepsReadyAddress ?_ rfl) ?_
    · simp [offends, given]
    · have last : requirePositive Key.stepsReadyTimeout.name s.stepsReadyTimeout = _ :=
        requirePositive_eq .stepsReadyTimeout (s := s) (by simp [offends, given]) rfl
      refine last.trans ?_
      rw [List.find?_cons, List.find?_nil]
      cases Key.offends .stepsReadyTimeout s <;> rfl

end Settings

end ContractSuite
