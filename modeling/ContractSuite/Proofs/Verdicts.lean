import ContractSuite.Proofs.AcceptedReports
import ContractSuite.Proofs.Json.Readings

namespace ContractSuite

namespace Json

theorem IsFramed.not_isBlank {s : List Char} (framed : IsFramed s) :
    (∀ c, s.head? = some c → Text.isBlank c = false) ∧ ∀ c, s.getLast? = some c → Text.isBlank c = false := by
  obtain ⟨frame, inner, rfl⟩ := framed
  constructor
  · intro c first
    cases first
    cases frame <;> decide
  · intro c last
    rw [List.getLast?_concat] at last
    cases last
    cases frame <;> decide

/-- Holds of names that need no escapes. -/
def isPlainName (name : String) : Bool :=
  name.toList.all fun c => c != '"' && c != '\\' && decide (0x20 ≤ c.toNat)

/-- What needs no escapes spells itself. -/
theorem spells_of_isPlainName {name : String} (plain : isPlainName name = true) : Spells name.toList name.toList := by
  have isPlain : ∀ c ∈ name.toList, IsPlain c := by
    intro c member
    have holds := List.all_eq_true.mp plain c member
    simp only [Bool.and_eq_true, bne_iff_ne, decide_eq_true_eq] at holds
    exact ⟨holds.1.1, holds.1.2, holds.2⟩
  generalize name.toList = s at isPlain
  induction s with
  | nil => exact .nil
  | cons c s ih =>
    obtain ⟨first, later⟩ := List.forall_mem_cons.mp isPlain
    exact .plain first (ih later)

/-- A member with nothing but its tokens. -/
def Entry.member (name : String) (value : List Char) : Entry :=
  ⟨'"' :: name.toList ++ ['"', ':'], value, []⟩

namespace Entry

variable {name : String} {value : List Char}

theorem isLabel_member (plain : isPlainName name = true) :
    IsLabel (Spells · name.toList) (member name value).front := by
  have label : IsLabel (Spells · name.toList) ([] ++ '"' :: name.toList ++ '"' :: [] ++ ':' :: []) :=
    .mk isSpace_nil (spells_of_isPlainName plain) isSpace_nil isSpace_nil
  simpa [member] using label

theorem fits_member (plain : isPlainName name = true) : (member name value).Fits .object :=
  ⟨(isLabel_member plain).mono fun _ => Spells.isQuote, isSpace_nil⟩

theorem isNamed_member {holds : List Char → Prop} (plain : isPlainName name = true) (held : holds value) :
    (member name value).IsNamed name holds :=
  ⟨fits_member plain, isLabel_member plain, held⟩

theorem isOther_member {field : String} (plain : isPlainName name = true) (other : name ≠ field)
    (isValue : IsValue value) : (member name value).IsOther field := by
  refine ⟨fits_member plain, ⟨_, isLabel_member plain⟩, fun isField => other ?_, isValue⟩
  exact String.toList_inj.mp ((isLabel_member plain).name_unique isField)

end Entry

theorem isObjectWith_members (name : String) {holds : List Char → Prop} {value : List Char}
    (plain : isPlainName name = true) (held : holds value) (earlier later : List Entry)
    (others : ∀ other ∈ earlier ++ later, other.IsOther name) :
    IsObjectWith name holds (Frame.object.around (earlier ++ .member name value :: later) []) :=
  .mk (Entry.isNamed_member plain held) others isSpace_nil

end Json

namespace ExpectationReport

open Json

section Verdict

variable {body : String} {v : List Char}

/-- A report is read if its value is legible, and its verdict is told by the value. -/
theorem exists_read_of_isLegible (isReport : IsReportOf (· = v) body.toList) (legible : IsLegible valueDepth v) :
    ∃ report, (report.failed.isTruthy = false ↔ IsFalsy v) ∧ read body = .ok report := by
  have ofValue : ReadsAll (readValue valueDepth) (fun w => w.isTruthy = false ↔ IsFalsy v) (· = v) := by
    rintro space value rest isSpace rfl ends
    exact exists_readValue legible isSpace ends
  refine exists_read_of_readsAll ofValue ?_ isReport
  rintro value rfl
  exact legible.isValue

/-- A report with a legible value gets the verdict of the value. -/
theorem evaluate_of_isReportOf (isReport : IsReportOf (· = v) body.toList) (legible : IsLegible valueDepth v) :
    (IsFalsy v → evaluate body = .ok ()) ∧
      (¬IsFalsy v → evaluate body = .error (.expectationsFailed (Text.trim body))) := by
  obtain ⟨report, verdict, taken⟩ := exists_read_of_isLegible isReport legible
  unfold evaluate
  rw [taken]
  dsimp only
  refine ⟨fun isFalsy => ?_, fun isTrue => ?_⟩
  · rw [verdict.mpr isFalsy]
    rfl
  · rw [if_pos (Bool.not_eq_false _ ▸ fun falsy => isTrue (verdict.mp falsy))]

theorem IsReportOf.exists_value {holds : List Char → Prop} {s : List Char} (isReport : IsReportOf holds s) :
    ∃ v, holds v ∧ IsReportOf (· = v) s := by
  cases isReport with
  | mk isBefore isOuter isAfter =>
    obtain ⟨inner, isInner, isOuter⟩ := isOuter.exists_field
    obtain ⟨v, held, isField⟩ := isInner.exists_field
    refine ⟨v, held, .mk isBefore (isOuter.mono ?_) isAfter⟩
    rintro _ rfl
    exact isField

/-- What is read as a report, and with which verdict, told by the value alone. -/
theorem exists_read_iff {failed : Bool} :
    (∃ report, read body = .ok report ∧ report.failed.isTruthy = failed) ↔
      ∃ v, IsLegible valueDepth v ∧ IsReportOf (· = v) body.toList ∧ (failed = false ↔ IsFalsy v) := by
  constructor
  · rintro ⟨report, taken, rfl⟩
    have isReport : IsReportOf (IsLegible valueDepth) body.toList :=
      isReportOf_of_read_value (fun _ _ _ => takesValue_of_readValue) taken
    obtain ⟨v, legible, isReport⟩ := isReport.exists_value
    -- What has been read does not tell its text; reading the text again tells the verdict.
    obtain ⟨report', verdict, taken'⟩ := exists_read_of_isLegible isReport legible
    rw [taken] at taken'
    cases taken'
    exact ⟨v, legible, isReport, verdict⟩
  · rintro ⟨v, legible, isReport, verdict⟩
    obtain ⟨report, verdict', taken⟩ := exists_read_of_isLegible isReport legible
    have same : report.failed.isTruthy = false ↔ failed = false := verdict'.trans verdict.symm
    refine ⟨report, taken, ?_⟩
    cases failed with
    | false => exact same.mpr rfl
    | true => exact Bool.not_eq_false _ ▸ fun falsy => nomatch same.mp falsy

theorem accepted_iff : evaluate body = .ok () ↔ ∃ report, read body = .ok report ∧ report.failed.isTruthy = false := by
  unfold evaluate
  split
  · next result => simp [result]
  · next report result =>
    cases verdict : report.failed.isTruthy <;> simp [result, verdict]

theorem failed_iff {r : String} : evaluate body = .error (.expectationsFailed r) ↔
    (∃ report, read body = .ok report ∧ report.failed.isTruthy = true) ∧ r = Text.trim body := by
  unfold evaluate
  split
  · next result => simp [result]
  · next report result =>
    cases verdict : report.failed.isTruthy with
    | false => simp [result, verdict]
    | true =>
      rw [if_pos rfl]
      constructor
      · rintro ⟨⟩
        exact ⟨⟨report, result, verdict⟩, rfl⟩
      · rintro ⟨_, rfl⟩
        rfl

theorem IsReportOf.of_isObjectWith
    (isDocument : IsDocument (IsObjectWith "expectations" (IsObjectWith "failed" (· = v))) body.toList) :
    IsReportOf (· = v) body.toList :=
  isDocument.mono fun _ isObject => IsRecord.mono (fun _ => Or.inl) (Or.inl isObject)

end Verdict

/-- A report with nothing beside its value. -/
def bare (value : String) : String :=
  "\x7b\"expectations\":\x7b\"failed\":" ++ value ++ "\x7d\x7d"

theorem toList_bare (value : String) :
    (bare value).toList = Frame.object.around
      [.member "expectations" (Frame.object.around [.member "failed" value.toList] [])] [] := by
  unfold bare
  simp [Frame.around, Frame.opening, Frame.closing, Entry.joined, Entry.further, Entry.text, Entry.member]

theorem isDocument_bare (value : String) :
    IsDocument (IsObjectWith "expectations" (IsObjectWith "failed" (· = value.toList))) (bare value).toList := by
  have inner : IsObjectWith "failed" (· = value.toList) (Frame.object.around [.member "failed" value.toList] []) :=
    isObjectWith_members "failed" (by decide) (by rfl) [] [] (List.forall_mem_nil _)
  have outer : IsObjectWith "expectations" (IsObjectWith "failed" (· = value.toList))
      (Frame.object.around [.member "expectations" (Frame.object.around [.member "failed" value.toList] [])] []) :=
    isObjectWith_members "expectations" (by decide) inner [] [] (List.forall_mem_nil _)
  have whole := IsDocument.mk isSpace_nil outer isSpace_nil
  rw [toList_bare]
  rwa [List.nil_append, List.append_nil] at whole

theorem trim_bare (value : String) : Text.trim (bare value) = bare value := by
  have framed : IsFramed (bare value).toList := ⟨.object, _, toList_bare value⟩
  exact Text.trim_eq_self_iff.mpr (Text.trimBlank_eq_self framed.not_isBlank.1 framed.not_isBlank.2)

/-- The verdict on an object with exactly one member `expectations`, which is an object with exactly one member
`failed`, is that of the value of this member, whatever stands beside the two members and between the tokens. No number
up to `(1 - 2 ^ -51) * 2 ^ 1024` keeps the value from being read. -/
theorem verdict_follows_value {body : String} {v : List Char} {depth : ℕ}
    (isDocument : IsDocument (IsObjectWith "expectations" (IsObjectWith "failed" (· = v))) body.toList)
    (legible : IsLegible depth v) (shallow : depth ≤ valueDepth) :
    (IsFalsy v → evaluate body = .ok ()) ∧
    (¬IsFalsy v → evaluate body = .error (.expectationsFailed (Text.trim body))) ∧
    (∀ body', IsDocument (IsObjectWith "expectations" (IsObjectWith "failed" (· = v))) body'.toList →
      (evaluate body' = .ok () ↔ evaluate body = .ok ())) ∧
    ∀ n : Numeral, n.size ≤ Decimal.Double.safeSize → n.IsInRange := by
  have verdict {body : String}
      (isDocument : IsDocument (IsObjectWith "expectations" (IsObjectWith "failed" (· = v))) body.toList) :=
    evaluate_of_isReportOf (.of_isObjectWith isDocument) (legible.mono shallow)
  obtain ⟨accepted, rejected⟩ := verdict isDocument
  refine ⟨accepted, rejected, fun body' isDocument' => ?_, fun n => Numeral.isInRange_of_size_le⟩
  obtain ⟨accepted', rejected'⟩ := verdict isDocument'
  by_cases isFalsy : IsFalsy v
  · rw [accepted isFalsy, accepted' isFalsy]
  · rw [rejected isFalsy, rejected' isFalsy]
    exact ⟨nofun, nofun⟩

/-- Members beside the two do not matter. -/
theorem verdict_follows_value_beside_others :
    evaluate "\x7b\"id\":null,\"expectations\":\x7b\"failed\":[],\"done\":true\x7d\x7d" = .ok () := by
  have noEntries {p : Entry → Prop} : ∀ e ∈ ([] : List Entry), p e := List.forall_mem_nil _
  have legible : IsLegible 1 (Frame.list.around [] []) := .nest noEntries noEntries isSpace_nil
  have done : (Entry.member "done" ['t', 'r', 'u', 'e']).IsOther "failed" :=
    Entry.isOther_member (by decide) (by decide) .true
  have id : (Entry.member "id" ['n', 'u', 'l', 'l']).IsOther "expectations" :=
    Entry.isOther_member (by decide) (by decide) .null
  have inner : IsObjectWith "failed" (· = Frame.list.around [] []) _ :=
    isObjectWith_members "failed" (by decide) (by rfl) [] [.member "done" ['t', 'r', 'u', 'e']]
      (List.forall_mem_singleton.mpr done)
  have outer : IsObjectWith "expectations" (IsObjectWith "failed" (· = Frame.list.around [] [])) _ :=
    isObjectWith_members "expectations" (by decide) inner [.member "id" ['n', 'u', 'l', 'l']] []
      (List.forall_mem_singleton.mpr id)
  have isDocument := IsDocument.mk isSpace_nil outer isSpace_nil
  refine (verdict_follows_value (v := Frame.list.around [] []) ?_ legible (by decide)).1 (.nest isSpace_nil)
  convert isDocument using 1
  simp [Frame.around, Frame.opening, Frame.closing, Entry.joined, Entry.further, Entry.text, Entry.member]

/-- The number is less than the greatest double, and yet rounding it in steps goes beyond it. -/
theorem evaluate_number_below_greatest :
    IsDocument (IsObjectWith "expectations" (IsObjectWith "failed" (· = "[1.7976931348623157078e308]".toList)))
      (bare "[1.7976931348623157078e308]").toList ∧
    (∃ n : Numeral, n.Writes "1.7976931348623157078e308".toList ∧
      n.size < Decimal.Double.size ⟨Decimal.Double.mantissaLimit - 1, Decimal.Double.greatestExponent⟩) ∧
    ∃ fault, evaluate (bare "[1.7976931348623157078e308]") = .error (.expectationReport fault) := by
  refine ⟨isDocument_bare _, ⟨⟨['1'], "7976931348623157078".toList, Number.amount "308".toList⟩, ?_, ?_⟩, ?_⟩
  · have isWhole : IsWhole ['1'] := Or.inr ⟨by simp [IsDigits], by simp⟩
    have isFraction : Number.IsFractionOf "7976931348623157078".toList ".7976931348623157078".toList :=
      .point ⟨by simp, List.all_eq_true.mp (by decide +kernel)⟩
    have isExponent : Number.IsExponentOf (Number.amount "308".toList) "e308".toList :=
      .bare (Or.inl rfl) ⟨by simp, List.all_eq_true.mp (by decide +kernel)⟩
    exact Numeral.Writes.mk isWhole isFraction isExponent
  · -- The sizes are compared as natural numbers, of which the kernel computes the powers.
    have small : 17976931348623157078 * 10 ^ 289 < (Decimal.Double.mantissaLimit - 1) * 2 ^ 971 := by decide +kernel
    have digits : Number.amount (['1'] ++ "7976931348623157078".toList) = 17976931348623157078 := by decide +kernel
    have power : (Number.amount "308".toList : ℤ) - "7976931348623157078".toList.length = (289 : ℕ) := by decide +kernel
    have greatest : Decimal.Double.greatestExponent = (971 : ℕ) := rfl
    unfold Numeral.size Decimal.Double.size
    dsimp only
    rw [digits, power, greatest, zpow_natCast, zpow_natCast]
    exact_mod_cast small
  · have rejected : (read (bare "[1.7976931348623157078e308]")).isOk = false := by decide +kernel
    cases result : read (bare "[1.7976931348623157078e308]") with
    | error fault => exact ⟨fault, by rw [evaluate, result]⟩
    | ok report =>
      rw [result] at rejected
      cases rejected

/-- A bare report of a number is accepted if the number is a zero alone. Every other spelling of zero has failed
expectations, like every number that is not zero. -/
theorem verdict_of_number {number : String} {value : ℚ} (denotes : Denotes number.toList value)
    (accepted : ∃ n, readValue valueDepth number.toList = .ok (n, [])) :
    (value ≠ 0 → evaluate (bare number) = .error (.expectationsFailed (bare number))) ∧
    (value = 0 → evaluate (bare number) =
      if number = "0" then .ok () else .error (.expectationsFailed (bare number))) := by
  obtain ⟨n, taken⟩ := accepted
  have legible : IsLegible valueDepth number.toList := by
    obtain ⟨space, part, isSpace, legible, same⟩ := takesValue_of_readValue taken
    rw [List.append_nil] at same
    rwa [eq_of_space_append isSpace_nil isSpace denotes.isValue legible.isValue same]
  obtain ⟨verdictFalse, verdictTrue⟩ := evaluate_of_isReportOf (.of_isObjectWith (isDocument_bare number)) legible
  rw [trim_bare] at verdictTrue
  have zeroAlone : IsFalsy number.toList ↔ number = "0" := by
    rw [denotes.isFalsy_iff, ← String.toList_inj]
    rfl
  refine ⟨fun nonzero => verdictTrue fun isFalsy => nonzero ?_, fun _ => ?_⟩
  · exact denotes.eq_zero (denotes.isFalsy_iff.mp isFalsy)
  · split
    · next same => exact verdictFalse (zeroAlone.mpr same)
    · next other => exact verdictTrue fun isFalsy => other (zeroAlone.mp isFalsy)

/-- A number that is rounded to zero is not zero. -/
theorem verdict_of_number_rounded_to_zero :
    evaluate (bare "1e-400") = .error (.expectationsFailed (bare "1e-400")) := by
  have isExponent : Number.IsExponentOf (-Number.amount "400".toList) "e-400".toList :=
    .minus (Or.inl rfl) ⟨by simp, List.all_eq_true.mp (by decide)⟩
  have isWhole : IsWhole ['1'] := Or.inr ⟨by simp [IsDigits], by simp⟩
  have writes : Numeral.Writes ⟨['1'], [], -Number.amount "400".toList⟩ "1e-400".toList :=
    .mk isWhole .absent isExponent
  have one : Number.amount (['1'] ++ []) = 1 := by decide
  have size : Numeral.size ⟨['1'], [], -Number.amount "400".toList⟩ = 10 ^ (-400 : ℤ) := by
    have power : -(Number.amount "400".toList : ℤ) - ([] : List Char).length = -400 := by decide
    unfold Numeral.size
    dsimp only
    rw [one, power, Nat.cast_one, one_mul]
  have small : (10 : ℚ) ^ (-400 : ℤ) ≤ 2 ^ 64 := (zpow_le_one_of_nonpos₀ (by norm_num) (by decide)).trans (by norm_num)
  have inRange := Numeral.isInRange_of_size_le (size.trans_le (small.trans Decimal.Double.two_pow_le_safeSize))
  have legible : IsLegible valueDepth "1e-400".toList := .number writes inRange
  obtain ⟨n, _, taken⟩ := exists_readValue legible isSpace_nil EndsValue.nil
  rw [List.nil_append, List.append_nil] at taken
  exact (verdict_of_number (.unsigned writes) ⟨n, taken⟩).1 (size ▸ zpow_ne_zero _ (by norm_num))

/-- A zero with a point is not taken for zero. -/
theorem evaluate_zero_with_point :
    Denotes "0.0".toList 0 ∧ evaluate (bare "0.0") = .error (.expectationsFailed (bare "0.0")) := by
  have isFraction : Number.IsFractionOf ['0'] ".0".toList := .point (by simp [IsDigits])
  have writes := Numeral.Writes.mk (Or.inl rfl) isFraction .absent
  have zero : Numeral.size ⟨['0'], ['0'], 0⟩ = 0 := by
    simp [Numeral.size, Number.amount, Number.amountFrom, Number.digit]
  have denotes : Denotes "0.0".toList 0 := zero ▸ .unsigned writes
  have small : (0 : ℚ) ≤ 2 ^ 64 := by norm_num
  have inRange := Numeral.isInRange_of_size_le (zero.trans_le (small.trans Decimal.Double.two_pow_le_safeSize))
  have rejected := (evaluate_of_isReportOf (.of_isObjectWith (isDocument_bare "0.0")) (.number writes inRange)).2
  rw [trim_bare] at rejected
  exact ⟨denotes, rejected fun isFalsy => absurd (denotes.isFalsy_iff.mp isFalsy) (by decide)⟩

end ExpectationReport

end ContractSuite
