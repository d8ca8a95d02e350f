import ContractSuite.Proofs.Json.Falsity
import ContractSuite.Proofs.Records

namespace ContractSuite

namespace Json

/-- The first token of a document that is an object is its brace. -/
theorem IsDocument.skipSpace_head? {field : String} {holds : List Char → Prop} {s : List Char}
    (isDocument : IsDocument (IsObjectWith field holds) s) : (skipSpace s).head? = some '{' := by
  cases isDocument with
  | @mk before value after isBefore isObject _ =>
    cases isObject with
    | @mk earlier later e space _ _ _ =>
      rw [List.append_assoc, Frame.around, List.cons_append, List.cons_append, List.cons_append,
        skipSpace_append isBefore Frame.object.isSpace_opening]
      rfl

end Json

namespace ExpectationReport

open Json

/-- Reports, as documents: a record in a record. -/
def IsReportOf (holds : List Char → Prop) : List Char → Prop :=
  IsDocument (IsRecord outerShape.field (IsRecord innerShape.field holds))

theorem IsReportOf.mono {holds holds' : List Char → Prop} (imp : ∀ s, holds s → holds' s) {s : List Char}
    (isReport : IsReportOf holds s) : IsReportOf holds' s :=
  IsDocument.mono (fun _ => IsRecord.mono fun _ => IsRecord.mono imp) isReport

theorem IsReportOf.isDocument {s : List Char} (isReport : IsReportOf IsValue s) : IsDocument IsValue s :=
  IsDocument.mono (fun _ => IsRecord.isValue fun _ => IsRecord.isValue fun _ => id) isReport

/-- The texts that a value may have been read from, as far as it matters whether it counts as true. -/
def IsTextOf (v : Json.Value) : List Char → Prop :=
  if v.isTruthy then IsValue else IsFalsy

theorem IsTextOf.isValue {v : Json.Value} {s : List Char} (isText : IsTextOf v s) : IsValue s := by
  unfold IsTextOf at isText
  split at isText
  · exact isText
  · exact IsFalsy.isValue isText

theorem takesValue_isTextOf {depth : Nat} {s rest : List Char} {v : Json.Value}
    (taken : readValue depth s = .ok (v, rest)) : TakesValue (IsTextOf v) s rest := by
  unfold IsTextOf
  split
  · exact (takesValue_of_readValue taken).mono fun _ => IsLegible.isValue
  · next falsy => exact Value.takesValue_falsy taken (Bool.eq_false_iff.mpr falsy)

/-- The number of lists and objects that may be open within the value, besides the two records around it. -/
def valueDepth : Nat := maximalDepth - 2

/-- What is read as a report is one, with such a value as has been read. -/
theorem isReportOf_of_read_value {holds : Json.Value → List Char → Prop}
    (ofValue : ∀ s v rest, readValue valueDepth s = .ok (v, rest) → TakesValue (holds v) s rest) {body : String}
    {report : ExpectationReport} (taken : read body = .ok report) : IsReportOf (holds report.failed) body.toList := by
  unfold read at taken
  rcases outer : readRecord outerShape (readRecord innerShape readValue) maximalDepth body.toList with
    fault | ⟨failed, rest⟩
  · rw [outer] at taken
    cases taken
  rw [outer] at taken
  simp only [bind, Except.bind] at taken
  split at taken
  · cases taken
  next finished =>
  cases taken
  have ofInner (s : List Char) (v : Json.Value) (rest : List Char)
      (inner : readRecord innerShape readValue (valueDepth + 1) s = .ok (v, rest)) :
      TakesValue (IsRecord innerShape.field (holds v)) s rest :=
    takesValue_of_readRecord ofValue inner
  obtain ⟨before, value, isBefore, isRecord, same⟩ := takesValue_of_readRecord ofInner outer
  rw [same]
  exact .mk isBefore isRecord (isSpace_of_finish finished)

theorem isReportOf_of_read {body : String} {report : ExpectationReport} (taken : read body = .ok report) :
    IsReportOf (IsTextOf report.failed) body.toList :=
  isReportOf_of_read_value (fun _ _ _ => takesValue_isTextOf) taken

/-- A report is read if its value is. -/
theorem exists_read_of_readsAll {good : Json.Value → Prop} {holds : List Char → Prop}
    (ofValue : ReadsAll (readValue valueDepth) good holds) (isValue : ∀ s, holds s → IsValue s) {body : String}
    (isReport : IsReportOf holds body.toList) : ∃ report, good report.failed ∧ read body = .ok report := by
  have ofInner : ReadsAll (readRecord innerShape readValue (valueDepth + 1)) good (IsRecord innerShape.field holds) :=
    ofValue.readRecord isValue
  have ofOuter : ReadsAll (readRecord outerShape (readRecord innerShape readValue) maximalDepth) good
      (IsRecord outerShape.field (IsRecord innerShape.field holds)) :=
    ofInner.readRecord fun _ => IsRecord.isValue isValue
  unfold read
  generalize body.toList = s at isReport
  cases isReport with
  | @mk before value after isBefore isRecord isAfter =>
    have ends : EndsValue after := by simpa using EndsValue.nil.behind_space isAfter
    obtain ⟨v, isGood, taken⟩ := ofOuter _ _ _ isBefore isRecord ends
    refine ⟨⟨v⟩, isGood, ?_⟩
    rw [taken]
    simp only [bind, Except.bind]
    rw [finish_of_isSpace isAfter]
    rfl

theorem exists_read_of_isReportOf {body : String} (isReport : IsReportOf IsFalsy body.toList) :
    ∃ report, report.failed.isTruthy = false ∧ read body = .ok report :=
  exists_read_of_readsAll (fun _ _ _ spaces isFalsy ends => exists_readValue_falsy isFalsy spaces ends (valueDepth - 1))
    (fun _ => IsFalsy.isValue) isReport

/-- A body is accepted exactly if it is a document of two records, each an object with exactly one member of its name
or a list of exactly one item, and the value in them counts as false. A body that is no such document, whatever the
value, is rejected as no report, and every rejection is that or one for failed expectations. -/
theorem evaluate_eq_ok_iff (body : String) :
    (evaluate body = .ok () ↔ IsReportOf IsFalsy body.toList) ∧
    (evaluate body = .ok () → IsDocument IsValue body.toList) ∧
    (¬IsReportOf IsValue body.toList → ∃ fault, evaluate body = .error (.expectationReport fault)) ∧
    ∀ error, evaluate body = .error error →
      (∃ fault, error = .expectationReport fault) ∨ error = .expectationsFailed (Text.trim body) := by
  have accepted : evaluate body = .ok () ↔ IsReportOf IsFalsy body.toList := by
    refine ⟨fun accepted => ?_, fun isReport => ?_⟩
    · unfold evaluate at accepted
      split at accepted
      · cases accepted
      · next result =>
        split at accepted
        · cases accepted
        · next falsy =>
          have isReport := isReportOf_of_read result
          rwa [IsTextOf, if_neg falsy] at isReport
    · obtain ⟨report, falsy, taken⟩ := exists_read_of_isReportOf isReport
      unfold evaluate
      rw [taken]
      exact if_neg (Bool.eq_false_iff.mp falsy)
  refine ⟨accepted, fun ok => ((accepted.mp ok).mono fun _ => IsFalsy.isValue).isDocument, fun other => ?_,
    fun error rejected => ?_⟩
  · cases result : read body with
    | error fault => exact ⟨fault, by rw [evaluate, result]⟩
    | ok report => exact absurd ((isReportOf_of_read result).mono fun _ => IsTextOf.isValue) other
  · unfold evaluate at rejected
    split at rejected
    · next fault _ =>
      cases rejected
      exact Or.inl ⟨fault, rfl⟩
    · split at rejected
      · cases rejected
        exact Or.inr rfl
      · cases rejected

/-- A list in a list is accepted, though there is no object. -/
theorem evaluate_list_in_list :
    evaluate "[[false]]" = .ok () ∧
      ¬IsDocument (IsObjectWith "expectations" (IsObjectWith "failed" IsValue)) "[[false]]".toList := by
  have accepted : (evaluate "[[false]]").isOk = true := by decide +kernel
  refine ⟨?_, fun isDocument => ?_⟩
  · cases result : evaluate "[[false]]" with
    | error _ =>
      rw [result] at accepted
      cases accepted
    | ok _ => rfl
  · have starts := isDocument.skipSpace_head?
    have startsOtherwise : (skipSpace "[[false]]".toList).head? ≠ some '{' := by decide +kernel
    exact startsOtherwise starts

end ExpectationReport

end ContractSuite
