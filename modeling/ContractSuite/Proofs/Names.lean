import ContractSuite.Proofs.Plan
import ContractSuite.Text.Line

namespace ContractSuite

namespace DirectiveKind

theorem nameOn?_of_cut? {kind : DirectiveKind} {line : String} {before rest : List Char}
    (found : Text.cut? kind.marker.toList line.toList = some (before, rest)) :
    kind.nameOn? line = if kind.accepts (kind.nameIn rest) then some (String.ofList (kind.nameIn rest)) else none := by
  unfold nameOn? directive?
  rw [found]
  dsimp only
  split <;> rfl

theorem isMalformedOn_of_cut? {kind : DirectiveKind} {line : String} {before rest : List Char}
    (found : Text.cut? kind.marker.toList line.toList = some (before, rest)) :
    kind.isMalformedOn line = !kind.accepts (kind.nameIn rest) := by
  unfold isMalformedOn directive?
  rw [found]
  dsimp only
  cases kind.accepts (kind.nameIn rest) <;> rfl

theorem nameOn?_of_unmarked {kind : DirectiveKind} {line : String}
    (unmarked : Text.cut? kind.marker.toList line.toList = none) : kind.nameOn? line = none := by
  unfold nameOn? directive?
  rw [unmarked]
  rfl

theorem isMalformedOn_of_unmarked {kind : DirectiveKind} {line : String}
    (unmarked : Text.cut? kind.marker.toList line.toList = none) : kind.isMalformedOn line = false := by
  unfold isMalformedOn directive?
  rw [unmarked]
  rfl

theorem exists_cut?_of_nameOn? {kind : DirectiveKind} {line name : String} (named : kind.nameOn? line = some name) :
    ∃ before rest, Text.cut? kind.marker.toList line.toList = some (before, rest) ∧
      kind.accepts (kind.nameIn rest) = true ∧ name.toList = kind.nameIn rest := by
  cases found : Text.cut? kind.marker.toList line.toList with
  | none =>
    rw [nameOn?_of_unmarked found] at named
    cases named
  | some parts =>
    obtain ⟨before, rest⟩ := parts
    rw [nameOn?_of_cut? found] at named
    split at named
    · next accepted =>
      cases named
      exact ⟨before, rest, rfl, accepted, String.toList_ofList⟩
    · cases named

theorem accepts_iff {kind : DirectiveKind} {name : List Char} :
    kind.accepts name = true ↔ name ≠ [] ∧ kind.forbidden ∉ name := by
  unfold accepts
  rw [Bool.and_eq_true, Bool.not_eq_true', Bool.not_eq_true', List.isEmpty_eq_false_iff, List.contains_eq_mem,
    decide_eq_false_iff_not]

/-- The first character of the marker. -/
def initial : DirectiveKind → Char
  | .contract => '@'
  | .scenario => 'S'

theorem marker_eq (kind : DirectiveKind) : kind.marker.toList = kind.initial :: kind.marker.toList.tail := by
  cases kind <;> decide

/-- The names that a directive of this kind can give. -/
def IsName : DirectiveKind → String → Prop
  | .contract, name => name ≠ "" ∧ ∀ c ∈ name.toList, Text.isBlank c = false ∧ c ≠ '='
  | .scenario, name => name ≠ "" ∧ Text.trim name = name ∧ ∀ c ∈ name.toList, c ≠ ':' ∧ c ≠ '\n'

instance (kind : DirectiveKind) (name : String) : Decidable (kind.IsName name) :=
  match kind with
  | .contract => @instDecidableAnd _ _ inferInstance (List.decidableBAll _ _)
  | .scenario => @instDecidableAnd _ _ inferInstance (@instDecidableAnd _ _ inferInstance (List.decidableBAll _ _))

theorem isName_of_nameOn? {kind : DirectiveKind} {line name : String} (named : kind.nameOn? line = some name)
    (within : '\n' ∉ line.toList) : kind.IsName name := by
  obtain ⟨before, rest, found, accepted, same⟩ := exists_cut?_of_nameOn? named
  obtain ⟨filled, permitted⟩ := accepts_iff.mp accepted
  rw [← same] at filled permitted
  have nonempty : name ≠ "" := by simpa using filled
  cases kind with
  | contract =>
    refine ⟨nonempty, fun c member => ⟨?_, ?_⟩⟩
    · rw [same] at member
      have solid := List.all_eq_true.mp List.all_takeWhile c member
      simpa using solid
    · rintro rfl
      exact permitted member
  | scenario =>
    have trimmed : Text.trim name = name := by
      rw [Text.trim_eq_self_iff, same]
      exact Text.trimBlank_trimBlank rest
    refine ⟨nonempty, trimmed, fun c member => ⟨?_, ?_⟩⟩
    · rintro rfl
      exact permitted member
    · rintro rfl
      rw [same] at member
      have behind := (Text.trimBlank_infix rest).subset member
      rw [Text.eq_append_of_cut? found] at within
      exact within (List.mem_append_right _ behind)

theorem IsName.accepts {kind : DirectiveKind} {name : String} (proper : kind.IsName name) :
    kind.accepts name.toList = true := by
  rw [accepts_iff]
  cases kind with
  | contract => exact ⟨by simpa using proper.1, fun equals => (proper.2 _ equals).2 rfl⟩
  | scenario => exact ⟨by simpa using proper.1, fun colon => (proper.2.2 _ colon).1 rfl⟩

end DirectiveKind

theorem Plan.exists_line_of_mem_calls {contents name : String} {kind : DirectiveKind}
    (planned : kind.call name ∈ calls contents) :
    ∃ line ∈ Text.lines contents, kind.nameOn? line = some name := by
  obtain ⟨line, isLine, asked⟩ := List.mem_flatMap.mp planned
  refine ⟨line, isLine, ?_⟩
  unfold lineCalls at asked
  cases kind <;> simpa [DirectiveKind.call] using asked

end ContractSuite
