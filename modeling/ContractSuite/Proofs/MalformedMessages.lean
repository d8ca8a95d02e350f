import ContractSuite.Error
import ContractSuite.Proofs.Layout
import ContractSuite.Proofs.Text.QuotedReading

namespace ContractSuite

/-- The kind that a word stands for. -/
def DirectiveKind.ofWord? (word : List Char) : Option DirectiveKind :=
  if word = contract.word.toList then some .contract
  else if word = scenario.word.toList then some .scenario
  else none

theorem DirectiveKind.ofWord?_word (kind : DirectiveKind) : ofWord? kind.word.toList = some kind := by
  cases kind <;> decide

theorem Text.cut?_append {head : Char} {before : List Char} (absent : head ∉ before) (tail after : List Char) :
    cut? (head :: tail) (before ++ (head :: tail ++ after)) = some (before, after) := by
  rw [cut?_append_left absent, cut?_append_self, Option.map_some]
  simp

namespace MalformedDirective

/-- The error that a message tells of. -/
def ofMessage? (message : String) : Option MalformedDirective := do
  let opened ← message.toList.dropPrefix? "malformed ".toList
  let (word, placed) ← Text.cut? " directive on line ".toList opened
  let (number, quotation) ← Text.cut? ": ".toList placed
  let kind ← DirectiveKind.ofWord? word
  let line ← Text.Quoted.decode quotation
  if number.all Char.isDigit then some ⟨kind, Nat.ofDigitChars 10 number 0, String.ofList line⟩ else none

theorem toList_message (d : MalformedDirective) :
    d.message.toList = "malformed ".toList ++ (d.kind.word.toList ++ (" directive on line ".toList ++
      (Nat.toDigits 10 d.lineNumber ++ (": ".toList ++ Text.Quoted.encode d.line.toList)))) := by
  simp [message, Text.quoted]

theorem ofMessage?_message (d : MalformedDirective) : ofMessage? d.message = some d := by
  have opened (rest : List Char) : ("malformed ".toList ++ rest).dropPrefix? "malformed ".toList = some rest :=
    List.dropPrefix?_eq_some_iff.mpr ⟨_, rfl, beq_self_eq_true _⟩
  have placed (rest : List Char) : Text.cut? " directive on line ".toList
      (d.kind.word.toList ++ (" directive on line ".toList ++ rest)) = some (d.kind.word.toList, rest) :=
    Text.cut?_append (by cases d.kind <;> decide) _ rest
  have digits : ∀ c ∈ Nat.toDigits 10 d.lineNumber, c.isDigit = true := fun c inside =>
    Nat.isDigit_of_mem_toDigits (by decide) (by decide) inside
  have numbered (rest : List Char) : Text.cut? ": ".toList (Nat.toDigits 10 d.lineNumber ++ (": ".toList ++ rest)) =
      some (Nat.toDigits 10 d.lineNumber, rest) :=
    Text.cut?_append (fun inside => absurd (digits _ inside) (by decide)) _ rest
  rw [ofMessage?, toList_message, opened]
  simp only [Option.bind_eq_bind, Option.bind_some, placed, numbered, DirectiveKind.ofWord?_word,
    Text.Quoted.decode_encode, List.all_eq_true.mpr digits, if_true,
    Nat.ofDigitChars_toDigits (by decide : 1 < 10) (by decide : 10 ≤ 10), String.ofList_toList]

theorem message_injective {d other : MalformedDirective} (same : d.message = other.message) : d = other := by
  have read := ofMessage?_message d
  rw [same, ofMessage?_message] at read
  exact (Option.some.inj read).symm

theorem isUnprintable_of_mem_message {d : MalformedDirective} {c : Char} (inside : c ∈ d.message.toList) :
    Text.isUnprintable c = false := by
  -- The words of the message are printable ASCII.
  have worded (text : String) (ascii : (text.toList.all fun c => 0x20 ≤ c.toNat && c.toNat < 0x7F) = true)
      (member : c ∈ text.toList) : Text.isUnprintable c = false := by
    have bounds := List.all_eq_true.mp ascii c member
    rw [Bool.and_eq_true, decide_eq_true_iff, decide_eq_true_iff] at bounds
    exact Text.isUnprintable_of_ascii bounds.1 bounds.2
  simp only [toList_message, List.mem_append] at inside
  rcases inside with start | word | place | digit | colon | quotation
  · exact worded "malformed " (by decide) start
  · exact worded d.kind.word (by cases d.kind <;> decide) word
  · exact worded " directive on line " (by decide) place
  · exact Text.isUnprintable_of_mem_toDigits (by decide) (by decide) digit
  · exact worded ": " (by decide) colon
  · exact Text.Quoted.isUnprintable_of_mem_encode quotation

/-- The message about a malformed directive is free of controls and of separators of lines, so that it stays on its line,
and all of the error can be read back from it; no other error has the same message. -/
theorem message_shows_error (d : MalformedDirective) :
    (∀ c ∈ (SuiteError.malformedDirective d).message.toList, Text.isControl c = false ∧ Text.isLineSeparator c = false) ∧
    ofMessage? (SuiteError.malformedDirective d).message = some d ∧
    ∀ other, (SuiteError.malformedDirective other).message = (SuiteError.malformedDirective d).message → other = d := by
  refine ⟨fun c inside => ?_, ofMessage?_message d, fun other same => message_injective same⟩
  have printable : Text.isUnprintable c = false := isUnprintable_of_mem_message inside
  refine ⟨?_, ?_⟩
  · by_contra control
    rw [Bool.not_eq_false] at control
    rw [Text.isUnprintable_of_isControl control] at printable
    cases printable
  · by_contra separator
    rw [Bool.not_eq_false] at separator
    rw [Text.isUnprintable_of_isLineSeparator separator] at printable
    cases printable

end MalformedDirective

end ContractSuite
