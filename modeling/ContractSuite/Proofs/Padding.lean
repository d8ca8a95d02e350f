import ContractSuite.Proofs.Layout
import ContractSuite.Proofs.Verdicts

namespace ContractSuite

namespace Json

variable {before after s t w : List Char} {c : Char}

theorem isBlank_of_mem_space (isSpace : IsSpace w) : ∀ c ∈ w, Text.isBlank c = true := by
  intro c member
  have space := isSpace c member
  simp only [Json.isSpace, Bool.or_eq_true, beq_iff_eq] at space
  rcases space with ((rfl | rfl) | rfl) | rfl <;> decide

theorem IsSpace.reverse (isSpace : IsSpace w) : IsSpace w.reverse :=
  fun c member => isSpace c (List.mem_reverse.mp member)

/-- White space in front of a token is what there was before more was put in front of it. -/
theorem exists_space_before (isSpace : IsSpace w) (isBefore : IsSpace before) (solid : Json.isSpace c = false)
    (same : w ++ s = before ++ c :: t) : ∃ before', IsSpace before' ∧ s = before' ++ c :: t := by
  refine takes_of_skipSpace ?_
  calc skipSpace s
    _ = skipSpace (w ++ s) := (List.dropWhile_append_of_pos isSpace).symm
    _ = skipSpace (before ++ c :: t) := by rw [same]
    _ = c :: t := skipSpace_append isBefore solid

theorem exists_space_after (isSpace : IsSpace w) (isAfter : IsSpace after) (solid : Json.isSpace c = false)
    (same : s ++ w = t ++ c :: after) : ∃ after', IsSpace after' ∧ s = t ++ c :: after' := by
  have reversed : w.reverse ++ s.reverse = after.reverse ++ c :: t.reverse := by
    simpa using congrArg List.reverse same
  obtain ⟨space, isSpace', whole⟩ := exists_space_before isSpace.reverse isAfter.reverse solid reversed
  refine ⟨space.reverse, isSpace'.reverse, ?_⟩
  simpa using congrArg List.reverse whole

/-- White space around a document belongs to it. -/
theorem isDocument_pad_iff {root : List Char → Prop} (framed : ∀ value, root value → IsFramed value)
    (isBefore : IsSpace before) (isAfter : IsSpace after) :
    IsDocument root (before ++ s ++ after) ↔ IsDocument root s := by
  constructor
  · intro isDocument
    generalize whole : before ++ s ++ after = padded at isDocument
    cases isDocument with
    | @mk front value back isFront isRoot isBack =>
      obtain ⟨frame, inner, rfl⟩ := framed value isRoot
      -- The padding ends at the first character of the root or before it, and starts at its last or behind it.
      have behindFront : before ++ (s ++ after) = front ++ frame.opening :: (inner ++ frame.closing :: back) := by
        simpa using whole
      obtain ⟨front', isFront', rest⟩ := exists_space_before isBefore isFront frame.isSpace_opening behindFront
      have beforeBack : s ++ after = (front' ++ frame.opening :: inner) ++ frame.closing :: back := by
        simpa using rest
      obtain ⟨back', isBack', same⟩ := exists_space_after isAfter isBack frame.isSpace_closing beforeBack
      have parts : s = front' ++ (frame.opening :: inner ++ [frame.closing]) ++ back' := by
        simpa using same
      exact parts ▸ .mk isFront' isRoot isBack'
  · intro isDocument
    cases isDocument with
    | @mk front value back isFront isRoot isBack =>
      have longer := IsDocument.mk (isBefore.append isFront) isRoot (isBack.append isAfter)
      simpa using longer

/-- Trimming takes what stands around the root. -/
theorem IsDocument.exists_trim {root : List Char → Prop} (framed : ∀ value, root value → IsFramed value)
    (isDocument : IsDocument root s) :
    ∃ before after, IsSpace before ∧ IsSpace after ∧ s = before ++ Text.trimBlank s ++ after := by
  cases isDocument with
  | @mk before value after isBefore isRoot isAfter =>
    obtain ⟨first, last⟩ := (framed value isRoot).not_isBlank
    refine ⟨before, after, isBefore, isAfter, ?_⟩
    rw [Text.trimBlank_between (isBlank_of_mem_space isBefore) (isBlank_of_mem_space isAfter) first last]

end Json

namespace ExpectationReport

open Json

variable {body before after : String}

/-- What is read from a body, as far as it matters for the verdict, is the same whatever white space is around it. -/
theorem exists_read_pad_iff (isBefore : IsSpace before.toList) (isAfter : IsSpace after.toList) (failed : Bool) :
    (∃ report, read (before ++ body ++ after) = .ok report ∧ report.failed.isTruthy = failed) ↔
      ∃ report, read body = .ok report ∧ report.failed.isTruthy = failed := by
  rw [exists_read_iff, exists_read_iff]
  refine exists_congr fun v => and_congr_right fun _ => and_congr_left fun _ => ?_
  rw [String.toList_append, String.toList_append]
  exact isDocument_pad_iff (fun _ => IsRecord.isFramed) isBefore isAfter

theorem trim_pad (isBefore : IsSpace before.toList) (isAfter : IsSpace after.toList) :
    Text.trim (before ++ body ++ after) = Text.trim body := by
  unfold Text.trim
  rw [String.toList_append, String.toList_append,
    Text.trimBlank_pad (isBlank_of_mem_space isBefore) (isBlank_of_mem_space isAfter)]

theorem evaluate_pad_iff (body : String) (isBefore : IsSpace before.toList) (isAfter : IsSpace after.toList) :
    (evaluate (before ++ body ++ after) = .ok () ↔ evaluate body = .ok ()) ∧
    ∀ r, evaluate (before ++ body ++ after) = .error (.expectationsFailed r) ↔
      evaluate body = .error (.expectationsFailed r) := by
  refine ⟨?_, fun r => ?_⟩
  · rw [accepted_iff, accepted_iff, exists_read_pad_iff isBefore isAfter]
  · rw [failed_iff, failed_iff, exists_read_pad_iff isBefore isAfter, trim_pad isBefore isAfter]

/-- White space around a body changes neither that it is accepted nor that expectations have failed, nor the text that
is reported. This text is the body without the white space around it, and is reported again if it is a body itself. -/
theorem verdict_survives_padding (body : String) {before after : String} (isBefore : IsSpace before.toList)
    (isAfter : IsSpace after.toList) :
    (evaluate (before ++ body ++ after) = .ok () ↔ evaluate body = .ok ()) ∧
    (∀ r, evaluate (before ++ body ++ after) = .error (.expectationsFailed r) ↔
      evaluate body = .error (.expectationsFailed r)) ∧
    ∀ r, evaluate body = .error (.expectationsFailed r) →
      evaluate r = .error (.expectationsFailed r) ∧
      ∃ front back : String, IsSpace front.toList ∧ IsSpace back.toList ∧ body = front ++ r ++ back := by
  obtain ⟨accepted, failed⟩ := evaluate_pad_iff body isBefore isAfter
  refine ⟨accepted, failed, fun r rejected => ?_⟩
  obtain ⟨readFailed, rfl⟩ := failed_iff.mp rejected
  obtain ⟨v, _, isReport, _⟩ := exists_read_iff.mp readFailed
  obtain ⟨front, back, isFront, isBack, whole⟩ := IsDocument.exists_trim (fun _ => IsRecord.isFramed) isReport
  have parts : body = String.ofList front ++ Text.trim body ++ String.ofList back := by
    rw [← String.toList_inj, String.toList_append, String.toList_append, Text.trim, String.toList_ofList,
      String.toList_ofList, String.toList_ofList]
    exact whole
  have isFront : IsSpace (String.ofList front).toList := by rwa [String.toList_ofList]
  have isBack : IsSpace (String.ofList back).toList := by rwa [String.toList_ofList]
  refine ⟨?_, _, _, isFront, isBack, parts⟩
  have padded := (evaluate_pad_iff (Text.trim body) isFront isBack).2 (Text.trim body)
  rw [← parts] at padded
  exact padded.mp rejected

/-- A report with a line end in front of it is reported without the line end. -/
theorem verdict_survives_padding_of_line_end :
    evaluate ("\n" ++ bare "true" ++ " ") = .error (.expectationsFailed (bare "true")) := by
  have isFront : IsSpace "\n".toList := by simp [IsSpace, Json.isSpace]
  have isBack : IsSpace " ".toList := by simp [IsSpace, Json.isSpace]
  have legible : IsLegible valueDepth "true".toList := .true
  have isTrue : ¬IsFalsy "true".toList := by
    generalize same : "true".toList = v
    intro isFalsy
    cases isFalsy with
    | @nest frame _ _ => cases frame <;> cases same
    | _ => cases same
  have rejected := (evaluate_of_isReportOf (.of_isObjectWith (isDocument_bare "true")) legible).2 isTrue
  rw [trim_bare] at rejected
  exact ((verdict_survives_padding (bare "true") isFront isBack).2.1 _).mpr rejected

end ExpectationReport

end ContractSuite
