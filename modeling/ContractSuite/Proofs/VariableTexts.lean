import ContractSuite.Proofs.Discovery

namespace ContractSuite

namespace Config.Literal

theorem isBlank_of_isSpace {c : Char} (space : isSpace c = true) : Text.isBlank c = true := by
  simp only [isSpace, Bool.or_eq_true, beq_iff_eq] at space
  rcases space with (((rfl | rfl) | rfl) | rfl) | rfl <;> decide

theorem skipSpace_eq_self {s : List Char} (first : ∀ c, s.head? = some c → Text.isBlank c = false) :
    skipSpace s = s := by
  cases s with
  | nil => rfl
  | cons c more =>
    have solid : isSpace c = false := by
      by_contra space
      rw [Bool.not_eq_false] at space
      have blank := isBlank_of_isSpace space
      rw [first c rfl] at blank
      cases blank
    rw [skipSpace, List.dropWhile_cons_of_neg (by simp [solid])]

theorem eq_nil_of_skipSpace {s : List Char} (nothing : skipSpace s = [])
    (last : ∀ c, s.getLast? = some c → Text.isBlank c = false) : s = [] := by
  cases ending : s.getLast? with
  | none => exact List.getLast?_eq_none_iff.mp ending
  | some c =>
    have space := List.dropWhile_eq_nil_iff.mp nothing c (List.mem_of_getLast? ending)
    have blank := isBlank_of_isSpace space
    rw [last c ending] at blank
    cases blank

/-- Holds of the texts that open a bracket or a quotation, and of two words. -/
def opens : List Char → Bool
  | '{' :: _ | '[' :: _ | '"' :: _ | '\x27' :: _ => true
  | s => s == "true".toList || s == "false".toList

/-- Holds of the texts that are no literal at sight: no blanks around them, no bracket or quotation at the front, and
neither a truth value nor a number. -/
structure IsWord (text : String) : Prop where
  trimmed : Text.trim text = text
  opens : opens text.toList = false
  fraction : isFraction text.toList = false
  integer : integer? text.toList = none

theorem plain_eq_text {s : List Char} (trimmed : Text.trimBlank s = s) (fraction : isFraction s = false)
    (integer : integer? s = none) : plain s = .text (String.ofList s) := by
  simp only [plain, trimmed, fraction, integer, Bool.false_eq_true, if_false]

theorem value_eq_text {s : List Char} (trimmed : Text.trimBlank s = s) (noLiteral : opens s = false)
    (fraction : isFraction s = false) (integer : integer? s = none) {fuel : Nat} {found : Value}
    (whole : value (fuel + 1) s = some (found, [])) : found = .text (String.ofList s) := by
  have first (c : Char) (head : s.head? = some c) : Text.isBlank c = false := by
    rw [← trimmed] at head
    exact Text.not_isBlank_of_head?_trimBlank head
  have last (c : Char) (ending : s.getLast? = some c) : Text.isBlank c = false := by
    rw [← trimmed] at ending
    exact Text.not_isBlank_of_getLast?_trimBlank ending
  rw [value, skipSpace_eq_self first] at whole
  -- Behind a truth value nothing can be left but spaces, and at the end of the text there are none.
  split at whole
  · next rest =>
    have ending : skipSpace rest = [] := congrArg Prod.snd (Option.some.inj whole)
    have nothing := eq_nil_of_skipSpace ending fun c ends => last c (by simp [List.getLast?_cons, ends])
    subst nothing
    simp [opens] at noLiteral
  · next rest =>
    have ending : skipSpace rest = [] := congrArg Prod.snd (Option.some.inj whole)
    have nothing := eq_nil_of_skipSpace ending fun c ends => last c (by simp [List.getLast?_cons, ends])
    subst nothing
    simp [opens] at noLiteral
  · simp [opens] at noLiteral
  · simp [opens] at noLiteral
  · simp [opens] at noLiteral
  · simp [opens] at noLiteral
  · simp [opens] at noLiteral
  · have ending : skipSpace (s.dropWhile (!isSeparator ·)) = [] := congrArg Prod.snd (Option.some.inj whole)
    have nothing := eq_nil_of_skipSpace ending fun c ends => last c (by
      rw [← List.takeWhile_append_dropWhile (p := (!isSeparator ·)) (l := s), List.getLast?_append, ends,
        Option.some_or])
    have everything := List.takeWhile_append_dropWhile (p := (!isSeparator ·)) (l := s)
    rw [nothing, List.append_nil] at everything
    have given : plain (s.takeWhile (!isSeparator ·)) = found := congrArg Prod.fst (Option.some.inj whole)
    rw [← given, everything, plain_eq_text trimmed fraction integer]

/-- A text that is no literal at sight is read as itself. -/
theorem IsWord.read_eq {text : String} (word : IsWord text) : read text = .text text := by
  have trimmed := Text.trim_eq_self_iff.mp word.trimmed
  rw [read, trimmed]
  cases parsed : value (2 * text.toList.length + 2) text.toList with
  | none => dsimp only; rw [String.ofList_toList]
  | some answer =>
    obtain ⟨found, rest⟩ := answer
    cases rest with
    | cons c more => dsimp only; rw [String.ofList_toList]
    | nil =>
      dsimp only
      rw [value_eq_text trimmed word.opens word.fraction word.integer parsed, String.ofList_toList]

end Config.Literal

namespace Settings

open Config

/-- The settings that are texts and that the command line can give as well. -/
inductive TextKey
  | host
  | runner
  | steps
  | resultsDir
  deriving DecidableEq, Repr

namespace TextKey

def key : TextKey → Key
  | host => .host
  | runner => .runner
  | steps => .steps
  | resultsDir => .resultsDir

def get : TextKey → Settings → String
  | host, s => s.host
  | runner, s => s.runner
  | steps, s => s.steps
  | resultsDir, s => s.resultsDir

/-- The name of the variable that is named after a setting. -/
abbrev variableName (k : TextKey) : String :=
  k.key.variableName

theorem settle_eq_ok_iff (k : TextKey) {value : Value} {s : Settings} :
    k.key.settle (some value) = .ok (k.key.get s) ↔ value = .text (k.get s) := by
  cases k <;> cases value <;> simp [key, Key.settle, Key.read, asText, Key.get, get]

theorem not_consulted (k : TextKey) {name : String} (member : name ∈ consulted) : name ≠ k.variableName := by
  revert name
  cases k <;> decide

end TextKey

end Settings

namespace Overrides

open Settings

/-- The overrides with another text for a setting, or none. -/
def withText (o : Overrides) : TextKey → Option String → Overrides
  | .host, text? => { o with host := text? }
  | .runner, text? => { o with runner := text? }
  | .steps, text? => { o with steps := text? }
  | .resultsDir, text? => { o with resultsDir := text? }

theorem given?_withText (o : Overrides) (k : TextKey) (text? : Option String) :
    (o.withText k text?).given? k.key = text?.map Config.Value.text := by
  cases k <;> rfl

theorem given?_withText_of_ne (o : Overrides) {k : TextKey} {key : Key} (other : key ≠ k.key) (text? : Option String) :
    (o.withText k text?).given? key = o.given? key := by
  revert other
  cases k <;> cases key <;> simp [TextKey.key, withText, given?]

end Overrides

namespace Settings

open Config

section Load

variable {t : FileTree} {e : Environment} {o : Overrides} {configPath : Option String} {k : TextKey}

/-- The settings when a variable holds a text and the command line gives none. -/
def loadByVariable (t : FileTree) (e : Environment) (o : Overrides) (configPath : Option String) (k : TextKey)
    (text : String) : Except SuiteError Settings :=
  load t (e.set k.variableName text) (o.withText k none) configPath

/-- The settings when the command line gives a text and the variable is not set. -/
def loadByOverride (t : FileTree) (e : Environment) (o : Overrides) (configPath : Option String) (k : TextKey)
    (text : String) : Except SuiteError Settings :=
  load t (e.remove k.variableName) (o.withText k (some text)) configPath

theorem discover_set (t : FileTree) (e : Environment) (k : TextKey) (text : String) (configPath : Option String) :
    discover t (e.set k.variableName text) configPath = discover t (e.remove k.variableName) configPath := by
  refine discover_congr (fun name member => ?_) t configPath
  have set := e.get?_put k.variableName name (some text)
  have remove := e.get?_remove k.variableName name
  rw [if_neg (k.not_consulted member)] at set remove
  exact set.trans remove.symm

theorem OnlyByVariable.not_gives_of_mem_remove (only : OnlyByVariable e k.key) :
    ∀ entry ∈ e.remove k.variableName, gives entry.1 k.key.name = false := by
  intro entry member
  rw [Environment.remove, List.mem_filter, bne_iff_ne] at member
  by_contra given
  rw [Bool.not_eq_false] at given
  exact member.2 (only entry member.1 given)

theorem OnlyByVariable.given_by_variable (only : OnlyByVariable e k.key) (o : Overrides) (text : String) (file : Record) :
    topmost? file (ofEnvironment (e.set k.variableName text)) (o.withText k none) k.key =
      some (Literal.read text) := by
  rw [topmost?, o.given?_withText, Environment.set,
    get?_ofEnvironment_cons_of_given (k.key.entry?_variableName text) only.not_gives_of_mem_remove]
  rfl

theorem given_by_override (environment : Record) (o : Overrides) (text : String) (file : Record) :
    topmost? file environment (o.withText k (some text)) k.key = some (.text text) := by
  rw [topmost?, o.given?_withText]
  rfl

theorem loadByVariable_eq (only : OnlyByVariable e k.key) {text as : String} (read : Literal.read text = .text as) :
    loadByVariable t e o configPath k text = loadByOverride t e o configPath k as := by
  refine load_congr (discover_set t e k text configPath) fun key file => ?_
  by_cases here : key = k.key
  · subst here
    rw [only.given_by_variable, given_by_override, read]
  · have unread : (ofEnvironment (e.set k.variableName text)).get? key.name =
        (ofEnvironment (e.remove k.variableName)).get? key.name :=
      get?_ofEnvironment_put_of_not_gives (Key.not_gives_variableName here) e (some text)
    rw [topmost?, topmost?, o.given?_withText_of_ne here, o.given?_withText_of_ne here, unread]

/-- A variable that is read as no text is refused. -/
theorem loadByVariable_of_no_text (only : OnlyByVariable e k.key) {text : String}
    (noText : ∀ as, Literal.read text ≠ .text as) :
    ∃ cause, loadByVariable t e o configPath k text = .error (.configuration cause) := by
  refine load_of_misfit k.key fun file s settled => ?_
  rw [only.given_by_variable] at settled
  exact noText _ (k.settle_eq_ok_iff.mp settled)

theorem get_of_loadByOverride {text : String} {s : Settings}
    (loaded : loadByOverride t e o configPath k text = .ok s) : k.get s = text := by
  obtain ⟨file, settled⟩ := settle_of_load loaded k.key
  rw [given_by_override, k.settle_eq_ok_iff, Value.text.injEq] at settled
  exact settled.symm

theorem read_of_loadByVariable (only : OnlyByVariable e k.key) {text : String} {s : Settings}
    (loaded : loadByVariable t e o configPath k text = .ok s) : Literal.read text = .text (k.get s) := by
  obtain ⟨file, settled⟩ := settle_of_load loaded k.key
  rwa [only.given_by_variable, k.settle_eq_ok_iff] at settled

/-- A variable that is read as a text counts as this text on the command line, and one that is read as something else
is refused. So where the text itself would do on the command line, the variable does the same exactly if it is read as
itself; a text that is no literal at sight is. -/
theorem load_text_by_variable (only : OnlyByVariable e k.key) (t : FileTree) (o : Overrides) (configPath : Option String)
    (text : String) :
    (∀ as, Literal.read text = .text as →
      loadByVariable t e o configPath k text = loadByOverride t e o configPath k as) ∧
    ((∀ as, Literal.read text ≠ .text as) →
      ∃ cause, loadByVariable t e o configPath k text = .error (.configuration cause)) ∧
    (∀ s, loadByOverride t e o configPath k text = .ok s → k.get s = text ∧
      (loadByVariable t e o configPath k text = .ok s ↔ Literal.read text = .text text)) ∧
    (Literal.IsWord text → loadByVariable t e o configPath k text = loadByOverride t e o configPath k text) := by
  refine ⟨fun as => loadByVariable_eq only, loadByVariable_of_no_text only, fun s loaded => ?_, fun word => ?_⟩
  · have exactly := get_of_loadByOverride loaded
    refine ⟨exactly, fun same => ?_, fun read => (loadByVariable_eq only read).trans loaded⟩
    rw [read_of_loadByVariable only same, exactly]
  · exact loadByVariable_eq only word.read_eq

theorem load_padded_by_variable :
    loadByVariable {} [] {} none .steps " ./steps.sh " = loadByOverride {} [] {} none .steps "./steps.sh" ∧
      loadByVariable {} [] {} none .host "example.org" = loadByOverride {} [] {} none .host "example.org" := by
  have only (key : Key) : OnlyByVariable [] key := by simp [OnlyByVariable]
  obtain ⟨padded, -⟩ := load_text_by_variable (k := .steps) (only _) {} {} none " ./steps.sh "
  obtain ⟨-, -, -, word⟩ := load_text_by_variable (k := .host) (only _) {} {} none "example.org"
  exact ⟨padded _ (by rfl), word ⟨by decide, by decide, by decide, by decide⟩⟩

/-- A truth value is a text on the command line and none in a variable. -/
theorem load_true_by_variable :
    (loadByOverride {} [] {} none .steps "true").toOption = some { steps := "true" } ∧
      ∃ cause, loadByVariable {} [] {} none .steps "true" = .error (.configuration cause) := by
  have only : OnlyByVariable [] TextKey.steps.key := by simp [OnlyByVariable]
  refine ⟨by decide +kernel, loadByVariable_of_no_text only fun as read => ?_⟩
  have truth : Literal.read "true" = .bool true := by rfl
  rw [truth] at read
  cases read

end Load

end Settings

end ContractSuite
