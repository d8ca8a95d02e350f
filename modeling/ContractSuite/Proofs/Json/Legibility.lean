import ContractSuite.Proofs.Json.Numerals

namespace ContractSuite.Json

/-- What stands between quotes spells something. -/
def IsSpellable (quote : List Char) : Prop :=
  ∃ text, Spells quote text

/-- What may stand in front of a value that is read: white space, or a label with a name that can be spelled. -/
def Frame.IsSpelledFront : Frame → List Char → Prop
  | list => IsSpace
  | object => IsLabel IsSpellable

theorem Frame.IsSpelledFront.isFront {frame : Frame} {front : List Char} (isFront : frame.IsSpelledFront front) :
    frame.IsFront front := by
  cases frame with
  | list => exact isFront
  | object => exact IsLabel.mono (fun _ ⟨_, spells⟩ => spells.isQuote) isFront

/-- A value that is read where so many lists and objects may be open at once. -/
inductive IsLegible : ℕ → List Char → Prop
  | null {depth} : IsLegible depth ['n', 'u', 'l', 'l']
  | true {depth} : IsLegible depth ['t', 'r', 'u', 'e']
  | false {depth} : IsLegible depth ['f', 'a', 'l', 's', 'e']
  | number {depth s} {n : Numeral} : n.Writes s → n.IsInRange → IsLegible depth s
  | negative {depth s} {n : Numeral} : n.Writes s → n.IsInRange → IsLegible depth ('-' :: s)
  | quoted {depth quote} : IsSpellable quote → IsLegible depth ('"' :: quote ++ ['"'])
  | nest {depth} {frame : Frame} {entries : List Entry} {space : List Char} :
      (∀ e ∈ entries, frame.IsSpelledFront e.front ∧ IsSpace e.space) → (∀ e ∈ entries, IsLegible depth e.value) →
      IsSpace space → IsLegible (depth + 1) (frame.around entries space)

namespace IsLegible

variable {depth : ℕ} {s : List Char}

theorem isValue (legible : IsLegible depth s) : IsValue s := by
  induction legible with
  | null => exact .null
  | true => exact .true
  | false => exact .false
  | number writes _ => exact .number (isUnsigned_iff.mpr ⟨_, writes⟩)
  | negative writes _ => exact .negative (isUnsigned_iff.mpr ⟨_, writes⟩)
  | quoted isSpellable =>
    obtain ⟨_, spells⟩ := isSpellable
    exact .quoted spells.isQuote
  | nest fits _ isSpace ih => exact .nest (fun e member => ⟨(fits e member).1.isFront, (fits e member).2⟩) ih isSpace

/-- Where more may be open, more is read. -/
theorem mono (legible : IsLegible depth s) {depth' : ℕ} (deeper : depth ≤ depth') : IsLegible depth' s := by
  induction legible generalizing depth' with
  | null => exact .null
  | true => exact .true
  | false => exact .false
  | number writes inRange => exact .number writes inRange
  | negative writes inRange => exact .negative writes inRange
  | quoted isSpellable => exact .quoted isSpellable
  | nest fits _ isSpace ih =>
    obtain ⟨more, rfl⟩ := Nat.exists_eq_add_of_le' (Nat.one_le_of_lt deeper)
    exact .nest fits (fun e member => ih e member (Nat.le_of_succ_le_succ deeper)) isSpace

end IsLegible

end ContractSuite.Json
