import ContractSuite.StandIn
import Mathlib.Data.List.Basic

namespace ContractSuite

namespace ServerScript

/-- Holds of a target and the path that it asks for. Behind the path there is nothing, or a question mark and a query,
which may have further question marks. -/
def AsksFor (target path : String) : Prop :=
  '?' ∉ path.toList ∧ (target = path ∨ ∃ query, target = path ++ "?" ++ query)

theorem asksFor_pathOf (target : String) : AsksFor target (pathOf target) := by
  have cut := List.takeWhile_append_dropWhile (p := (· != '?')) (l := target.toList)
  unfold AsksFor pathOf
  rw [String.toList_ofList]
  constructor
  · intro inside
    exact absurd (List.all_eq_true.mp List.all_takeWhile _ inside) (by decide)
  · cases behind : target.toList.dropWhile (· != '?') with
    | nil =>
      rw [behind, List.append_nil] at cut
      rw [cut, String.ofList_toList]
      exact Or.inl rfl
    | cons mark query =>
      have stops := List.head?_dropWhile_not (· != '?') target.toList
      obtain rfl : mark = '?' := by simpa [behind] using stops
      refine Or.inr ⟨String.ofList query, String.toList_inj.mp ?_⟩
      rw [behind] at cut
      simp only [String.toList_append, String.toList_ofList, List.append_assoc]
      exact cut.symm

theorem pathOf_eq_iff {target path : String} : pathOf target = path ↔ AsksFor target path := by
  constructor
  · rintro rfl
    exact asksFor_pathOf target
  · rintro ⟨plain, spelling⟩
    have solid : ∀ c ∈ path.toList, (c != '?') = true := by
      intro c inside
      refine bne_iff_ne.mpr ?_
      rintro rfl
      exact plain inside
    obtain ⟨behind, cut, ends⟩ :
        ∃ behind, target.toList = path.toList ++ behind ∧ behind.takeWhile (· != '?') = [] := by
      rcases spelling with rfl | ⟨query, rfl⟩
      · exact ⟨[], by rw [List.append_nil], rfl⟩
      · exact ⟨'?' :: query.toList, by simp, rfl⟩
    unfold pathOf
    rw [cut, List.takeWhile_append_of_pos solid, ends, List.append_nil, String.ofList_toList]

theorem pathOf_pathOf (target : String) : pathOf (pathOf target) = pathOf target :=
  pathOf_eq_iff.mpr ⟨(asksFor_pathOf target).1, Or.inl rfl⟩

end ServerScript

namespace StandIn

/-- The answer that is planned for a path. -/
def planned (script : StandIn) (path : String) : PlannedAnswer :=
  if path = "/init" then script.init else if path = "/expect" then script.expect else { status := 404 }

/-- A stand-in that never gives the same answer for two reasons. -/
def telling : StandIn where
  init := { status := 201 }
  expect := { status := 202 }

theorem eq_of_planned_telling {path key : String} (isKey : key = "/init" ∨ key = "/expect")
    (same : telling.planned path = telling.planned key) : path = key := by
  unfold planned at same
  rcases isKey with rfl | rfl
  · by_cases isInit : path = "/init"
    · exact isInit
    · by_cases isExpect : path = "/expect" <;> simp [isInit, isExpect, telling] at same
  · by_cases isInit : path = "/init"
    · simp [isInit, telling] at same
    · by_cases isExpect : path = "/expect"
      · exact isExpect
      · simp [isInit, isExpect, telling] at same

/-- Whether a planned answer is that of `/init` shows in what it is for every stand-in, as the answers of one may be
alike. -/
theorem planned_eq_init_iff {path : String} :
    (∀ script : StandIn, script.planned path = script.init) ↔ path = "/init" := by
  constructor
  · intro always
    exact eq_of_planned_telling (Or.inl rfl) (always telling)
  · rintro rfl script
    rfl

theorem planned_eq_expect_iff {path : String} :
    (∀ script : StandIn, script.planned path = script.expect) ↔ path = "/expect" := by
  constructor
  · intro always
    exact eq_of_planned_telling (Or.inr rfl) (always telling)
  · rintro rfl script
    rfl

theorem planned_eq_unknown_iff {path : String} :
    (∀ script : StandIn, script.planned path = { status := 404 }) ↔ path ≠ "/init" ∧ path ≠ "/expect" := by
  constructor
  · intro always
    have told := always telling
    constructor <;> rintro rfl <;> cases told
  · rintro ⟨notInit, notExpect⟩ script
    unfold planned
    rw [if_neg notInit, if_neg notExpect]

variable (script : StandIn) (received : List (String × Bool))

/-- Serving stops for good with the first request whose answer cannot be delivered, which is still recorded. -/
theorem requests_serve : (script.serve received).requests =
    (received.take (received.findIdx (fun request => !request.2) + 1)).map Prod.fst := by
  induction received with
  | nil => rfl
  | cons request more ih =>
    obtain ⟨target, isDelivered⟩ := request
    cases isDelivered with
    | false => simp [serve, List.findIdx_cons]
    | true => simp [serve, List.findIdx_cons, ih]

/-- Each answer is chosen by the path that is told of its request later. -/
theorem answers_serve : (script.serve received).answers = (script.serve received).paths.map script.planned := by
  induction received with
  | nil => rfl
  | cons request more ih =>
    obtain ⟨target, isDelivered⟩ := request
    cases isDelivered with
    | false => rfl
    | true => exact congrArg (script.answer target :: ·) ih

/-- What a stand-in answers has no part in what it records. -/
theorem paths_serve_eq (other : StandIn) : (other.serve received).paths = (script.serve received).paths := by
  unfold Service.paths
  rw [requests_serve, requests_serve]

theorem getElem?_answers_serve (other : StandIn) (i : Nat) :
    (other.serve received).answers[i]? = (script.serve received).paths[i]?.map other.planned := by
  rw [answers_serve, paths_serve_eq script, List.getElem?_map]

/-- A request for the path of a target. -/
def withoutQuery (request : String × Bool) : String × Bool :=
  (ServerScript.pathOf request.1, request.2)

theorem serve_map_withoutQuery : script.serve (received.map withoutQuery) =
    { requests := (script.serve received).paths, answers := (script.serve received).answers } := by
  induction received with
  | nil => rfl
  | cons request more ih =>
    obtain ⟨target, isDelivered⟩ := request
    have same : script.answer (ServerScript.pathOf target) = script.answer target :=
      congrArg script.planned (ServerScript.pathOf_pathOf target)
    cases isDelivered with
    | false => simp [serve, withoutQuery, Service.paths, same]
    | true => simp [serve, withoutQuery, Service.paths, same, ih]

/-- The record of a stand-in tells what it has answered. It holds the targets in order up to the first one whose answer
cannot be delivered, and no more requests are answered than are recorded. The path of each target is told in its place,
and the answer in this place is the planned one for this path: that of `/init` exactly for the path `/init`, that of
`/expect` exactly for `/expect`, and an empty one with the status 404 exactly for all others. As one stand-in may give
the same answer for two reasons, the reason is told by what all stand-ins answer there. Queries have no part in this. -/
theorem record_tells_answers (script : StandIn) (received : List (String × Bool)) :
    (script.serve received).requests =
      (received.take (received.findIdx (fun request => !request.2) + 1)).map Prod.fst ∧
    (script.serve received).answers.length = (script.serve received).requests.length ∧
    (script.serve received).paths.length = (script.serve received).requests.length ∧
    (∀ (i : Nat) target path, (script.serve received).requests[i]? = some target →
      ((script.serve received).paths[i]? = some path ↔ ServerScript.AsksFor target path)) ∧
    (∀ (i : Nat) path, (script.serve received).paths[i]? = some path →
      (script.serve received).answers[i]? = some (script.planned path)) ∧
    (∀ i : Nat,
      ((∀ other : StandIn, (other.serve received).answers[i]? = some other.init) ↔
        (script.serve received).paths[i]? = some "/init") ∧
      ((∀ other : StandIn, (other.serve received).answers[i]? = some other.expect) ↔
        (script.serve received).paths[i]? = some "/expect") ∧
      ((∀ other : StandIn, (other.serve received).answers[i]? = some { status := 404, body := "" }) ↔
        ∃ path, (script.serve received).paths[i]? = some path ∧ path ≠ "/init" ∧ path ≠ "/expect")) ∧
    ∀ others : List (String × Bool), others.map withoutQuery = received.map withoutQuery →
      (script.serve others).paths = (script.serve received).paths ∧
        (script.serve others).answers = (script.serve received).answers := by
  have lengths : (script.serve received).paths.length = (script.serve received).requests.length := List.length_map _
  refine ⟨requests_serve script received, ?_, lengths, ?_, ?_, ?_, ?_⟩
  · rw [answers_serve, List.length_map, lengths]
  · intro i target path isTarget
    unfold Service.paths
    rw [List.getElem?_map, isTarget, Option.map_some, Option.some.injEq]
    exact ServerScript.pathOf_eq_iff
  · intro i path isPath
    rw [getElem?_answers_serve script, isPath, Option.map_some]
  · intro i
    simp only [getElem?_answers_serve script]
    cases (script.serve received).paths[i]? with
    | none =>
      have : Nonempty StandIn := ⟨script⟩
      simp
    | some path =>
      simp only [Option.map_some, Option.some.injEq, planned_eq_init_iff, planned_eq_expect_iff, planned_eq_unknown_iff]
      simp
  · intro others same
    have served := congrArg script.serve same
    rw [serve_map_withoutQuery, serve_map_withoutQuery, Service.mk.injEq] at served
    exact served

/-- Behind a question mark at the front stands a query of the empty path. -/
example : (serve {} [("/init?a?b", true), ("?/init", false), ("/expect", true)]).paths = ["/init", ""] := by
  decide

end StandIn

end ContractSuite
