import Mathlib.Data.List.Basic
import ContractSuite.Domain.Ascii

namespace ContractSuite.Domain

/-- The first character that the table of compositions knows. -/
def firstComposed : Nat := 0x3C

theorem firstComposed_le : compositions.all (firstComposed ≤ ·) = true := by
  unfold compositions Table.numbers
  simp only [List.flatMap_cons, List.flatMap_nil, List.all_append]
  repeat rw [String.toList_ofList]
  decide +kernel

theorem not_mem_compositions {n : Nat} (low : n < firstComposed) : n ∉ compositions := by
  intro inside
  have bound := List.all_eq_true.mp firstComposed_le n inside
  exact absurd (of_decide_eq_true bound) (Nat.not_le.mpr low)

theorem partsIn?_of_not_mem {table : List Nat} {n : Nat} (absent : n ∉ table) : partsIn? table n = none := by
  fun_induction partsIn? table n with
  | case1 => simp at absent
  | case2 _ _ _ _ _ _ ih => exact ih fun later => absent (by simp [later])
  | case3 => rfl

theorem wholeIn?_of_not_mem {table : List Nat} {a b : Nat} (absent : a ∉ table ∨ b ∉ table) :
    wholeIn? table a b = none := by
  fun_induction wholeIn? table a b with
  | case1 _ _ _ _ _ _ same => simp [same] at absent
  | case2 _ _ _ _ _ _ _ ih =>
    exact ih (absent.imp (fun out later => out (by simp [later])) fun out later => out (by simp [later]))
  | case3 => rfl

variable {c : Char}

theorem takenApart_of_lt (low : c.toNat < firstComposed) : takenApart c = [c] := by
  have whole : syllableParts? c.toNat = none := by
    unfold firstComposed at low
    exact if_neg (by unfold syllables; omega)
  unfold takenApart
  rw [whole, partsIn?_of_not_mem (not_mem_compositions low)]
  rfl

theorem joined?_of_lt {a b : Char} (low : a.toNat < firstComposed ∨ b.toNat < firstComposed) :
    joined? a b = none := by
  have apart : syllableOf? a.toNat b.toNat = none := by
    unfold firstComposed at low
    unfold syllableOf? leadingLetters vowelLetters syllables trailingLetters
    rw [if_neg (by omega), if_neg (by omega)]
  unfold joined?
  rw [apart, wholeIn?_of_not_mem (low.imp not_mem_compositions not_mem_compositions)]
  rfl

theorem mem_decompose (low : c.toNat < firstComposed) {s : List Char} (inside : c ∈ s) : c ∈ decompose s := by
  have stays (depth : Nat) (t : List Char) (here : c ∈ t) : c ∈ decompose.go depth t := by
    induction depth generalizing t with
    | zero => exact here
    | succ depth ih =>
      refine ih _ (List.mem_flatMap.mpr ⟨c, here, ?_⟩)
      rw [takenApart_of_lt low]
      exact List.mem_singleton_self c
  exact stays compositionDepth s inside

theorem insertMark_perm (d : Char) (s : List Char) : (insertMark d s).Perm (d :: s) := by
  induction s with
  | nil => exact .refl _
  | cons e rest ih =>
    unfold insertMark
    split
    · exact (ih.cons e).trans (.swap d e rest)
    · exact .refl _

theorem orderMarks_perm (s : List Char) : (orderMarks s).Perm s := by
  induction s with
  | nil => exact .refl _
  | cons d rest ih => exact (insertMark_perm d _).trans (ih.cons d)

theorem mem_add (low : c.toNat < firstComposed) {s : Composing} {d : Char} (inside : c ∈ s.reversed ∨ c = d) :
    c ∈ (s.add d).reversed := by
  unfold Composing.add
  split
  · next whole joins =>
    obtain ⟨base, isBase, joins⟩ := Option.bind_eq_some_iff.mp joins
    have joins : joined? base d = some whole := by
      split at joins
      · exact joins
      · cases joins
    have alone (low : base.toNat < firstComposed ∨ d.toNat < firstComposed) : False := by
      rw [joined?_of_lt low] at joins
      cases joins
    rcases inside with inside | rfl
    · simp only [Composing.reversed, isBase, Option.toList_some, List.mem_append, List.mem_singleton] at inside ⊢
      rcases inside with (inMarks | rfl) | finished
      · exact Or.inl (Or.inl inMarks)
      · exact (alone (Or.inl low)).elim
      · exact Or.inr finished
    · exact (alone (Or.inr low)).elim
  · split
    · rcases inside with inside | rfl
      · simp [Composing.reversed] at inside ⊢
        tauto
      · simp [Composing.reversed]
    · rcases inside with inside | rfl
      · simp [Composing.reversed] at inside ⊢
        tauto
      · simp [Composing.reversed]

theorem mem_compose (low : c.toNat < firstComposed) {s : List Char} (inside : c ∈ s) : c ∈ compose s := by
  have added (t : List Char) (begun : Composing) (here : c ∈ begun.reversed ∨ c ∈ t) :
      c ∈ (t.foldl Composing.add begun).reversed := by
    induction t generalizing begun with
    | nil => exact here.resolve_right List.not_mem_nil
    | cons d rest ih =>
      refine ih _ ?_
      rcases here with before | here
      · exact Or.inl (mem_add low (Or.inl before))
      · rcases List.mem_cons.mp here with rfl | later
        · exact Or.inl (mem_add low (Or.inr rfl))
        · exact Or.inr later
  unfold compose
  rw [List.mem_reverse]
  exact added _ {} (Or.inr ((orderMarks_perm _).mem_iff.mpr (mem_decompose low inside)))

theorem mapped?_of_lt (low : c.toNat < firstComposed) : mapped? c = some [c] := by
  have capital : 'A'.val.toNat = 65 := rfl
  have same : c.val.toNat = c.toNat := rfl
  unfold firstComposed at low
  have small : ¬(c.val ≥ 'A'.val ∧ c.val ≤ 'Z'.val) := by
    rw [ge_iff_le, UInt32.le_iff_toNat_le]
    omega
  unfold mapped? Char.toLower
  rw [if_pos (by omega), dif_neg small]

theorem mem_mapText? (low : c.toNat < firstComposed) {s t : List Char} (found : mapText? s = some t)
    (inside : c ∈ s) : c ∈ t := by
  obtain ⟨pieces, read, rfl⟩ := Option.map_eq_some_iff.mp found
  have kept (u : List Char) (images : List (List Char)) (mapped : u.mapM mapped? = some images) (here : c ∈ u) :
      [c] ∈ images := by
    induction u generalizing images with
    | nil => cases here
    | cons d rest ih =>
      rw [List.mapM_cons] at mapped
      obtain ⟨image, ofHead, mapped⟩ := Option.bind_eq_some_iff.mp mapped
      obtain ⟨more, ofTail, same⟩ := Option.bind_eq_some_iff.mp mapped
      cases same
      rcases List.mem_cons.mp here with rfl | later
      · rw [mapped?_of_lt low] at ofHead
        cases ofHead
        exact List.mem_cons_self
      · exact List.mem_cons_of_mem _ (ih more ofTail later)
  exact List.mem_flatten.mpr ⟨[c], kept s pieces read inside, List.mem_singleton_self c⟩

/-- A forbidden character refuses a name. -/
theorem toAscii?_of_forbidden (low : c.toNat < firstComposed) (forbidden : isForbidden c = true) {s : List Char}
    (inside : c ∈ s) : toAscii? s = none := by
  have found (t : List Char) (here : c ∈ t) : t.any isForbidden = true := List.any_eq_true.mpr ⟨c, here, forbidden⟩
  unfold toAscii?
  split
  · rw [if_pos (found s inside)]
  · unfold readLabels?
    cases mapped : mapText? s with
    | none => rfl
    | some t =>
      have composed := found _ (mem_compose low (mem_mapText? low mapped inside))
      simp only [Option.bind_eq_bind, Option.bind_some, if_pos composed, Option.map_none]

end ContractSuite.Domain
