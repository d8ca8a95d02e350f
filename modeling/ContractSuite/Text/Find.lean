namespace ContractSuite.Text

/-- The parts of a text before and after the leftmost occurrence of a marker. -/
def cut? (marker : List Char) : List Char → Option (List Char × List Char)
  | [] => if marker.isEmpty then some ([], []) else none
  | c :: rest =>
    if marker.isPrefixOf (c :: rest) then some ([], (c :: rest).drop marker.length)
    else (cut? marker rest).map fun (before, after) => (c :: before, after)

/-- Holds when the marker occurs in the text. -/
def occurs (marker text : String) : Bool :=
  (cut? marker.toList text.toList).isSome

theorem eq_append_of_cut? {marker s before after : List Char}
    (found : cut? marker s = some (before, after)) : s = before ++ marker ++ after := by
  induction s generalizing before after with
  | nil =>
    simp only [cut?] at found
    split at found
    · next empty =>
      simp only [Option.some.injEq, Prod.mk.injEq] at found
      obtain ⟨rfl, rfl⟩ := found
      simpa using empty.symm
    · simp at found
  | cons c rest ih =>
    simp only [cut?] at found
    split at found
    · next starts =>
      simp only [Option.some.injEq, Prod.mk.injEq] at found
      obtain ⟨rfl, rfl⟩ := found
      obtain ⟨tail, tail_eq⟩ := List.isPrefixOf_iff_prefix.mp starts
      simp [← tail_eq]
    · simp only [Option.map_eq_some_iff, Prod.mk.injEq] at found
      obtain ⟨⟨before', after'⟩, inRest, rfl, rfl⟩ := found
      simp [ih inRest]

theorem cut?_append_self (marker rest : List Char) : cut? marker (marker ++ rest) = some ([], rest) := by
  cases whole : marker ++ rest with
  | nil =>
    obtain ⟨rfl, rfl⟩ := List.append_eq_nil_iff.mp whole
    rfl
  | cons c more =>
    have starts : marker.isPrefixOf (c :: more) = true :=
      List.isPrefixOf_iff_prefix.mpr (whole ▸ List.prefix_append marker rest)
    rw [cut?, if_pos starts, ← whole, List.drop_left]

theorem cut?_eq_none_iff {marker s : List Char} : cut? marker s = none ↔ ¬marker <:+: s := by
  induction s with
  | nil => simp [cut?]
  | cons c rest ih =>
    rw [cut?, List.infix_cons_iff, ← List.isPrefixOf_iff_prefix, not_or, ← ih]
    split <;> simp_all

/-- A marker does not begin within a text that lacks its first character. -/
theorem infix_of_infix_append {c : Char} {marker s t : List Char} (absent : c ∉ s)
    (inside : c :: marker <:+: s ++ t) : c :: marker <:+: t := by
  induction s with
  | nil => exact inside
  | cons d rest ih =>
    rw [List.mem_cons, not_or] at absent
    rcases List.infix_cons_iff.mp inside with starts | later
    · exact absurd (List.cons_prefix_cons.mp starts).1 absent.1
    · exact ih absent.2 later

end ContractSuite.Text
