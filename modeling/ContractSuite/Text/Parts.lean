namespace ContractSuite.Text

/-- A text cut at each separator, which belongs to no part. -/
def parts (isSeparator : Char → Bool) : List Char → List (List Char)
  | [] => [[]]
  | c :: rest =>
    if isSeparator c then [] :: parts isSeparator rest
    else match parts isSeparator rest with
      | [] => [[c]]
      | first :: more => (c :: first) :: more

/-- The parts of a text in front of and behind the last occurrence of a character. -/
def cutLast? (separator : Char) (s : List Char) : Option (List Char × List Char) :=
  let back := s.reverse.takeWhile (· != separator)
  if back.length = s.length then none
  else some (s.take (s.length - back.length - 1), back.reverse)

theorem parts_ne_nil (isSeparator : Char → Bool) (s : List Char) : parts isSeparator s ≠ [] := by
  cases s with
  | nil => simp [parts]
  | cons c rest =>
    simp only [parts]
    split
    · simp
    · split <;> simp

theorem not_isSeparator_of_mem_parts {isSeparator : Char → Bool} {s part : List Char}
    (isPart : part ∈ parts isSeparator s) {c : Char} (inside : c ∈ part) :
    isSeparator c = false := by
  induction s generalizing part with
  | nil => simp_all [parts]
  | cons d rest ih =>
    simp only [parts] at isPart
    split at isPart
    · rcases List.mem_cons.mp isPart with rfl | later
      · simp at inside
      · exact ih later inside
    · next notSeparator =>
      cases cutRest : parts isSeparator rest with
      | nil => exact absurd cutRest (parts_ne_nil isSeparator rest)
      | cons first more =>
        simp only [cutRest, List.mem_cons] at isPart ih
        rcases isPart with rfl | later
        · rcases List.mem_cons.mp inside with rfl | inFirst
          · simpa using notSeparator
          · exact ih (Or.inl rfl) inFirst
        · exact ih (Or.inr later) inside

theorem parts_append_cons {isSeparator : Char → Bool} {c : Char} (separates : isSeparator c = true)
    (s t : List Char) : parts isSeparator (s ++ c :: t) = parts isSeparator s ++ parts isSeparator t := by
  induction s with
  | nil => simp [parts, separates]
  | cons d rest ih =>
    simp only [List.cons_append, parts, ih]
    split
    · rfl
    · cases cutRest : parts isSeparator rest with
      | nil => exact absurd cutRest (parts_ne_nil isSeparator rest)
      | cons first more => rfl

theorem parts_of_no_separator {isSeparator : Char → Bool} {s : List Char}
    (whole : ∀ c ∈ s, isSeparator c = false) : parts isSeparator s = [s] := by
  induction s with
  | nil => rfl
  | cons c rest ih =>
    have here := whole c List.mem_cons_self
    rw [parts, ih fun d later => whole d (List.mem_cons_of_mem c later)]
    simp [here]

theorem exists_last_part {isSeparator : Char → Bool} (front : List Char) {c : Char} {back : List Char}
    (whole : ∀ x ∈ c :: back, isSeparator x = false) :
    ∃ earlier last, parts isSeparator (front ++ c :: back) = earlier ++ [last] ∧ c ∈ last := by
  induction front with
  | nil => exact ⟨[], c :: back, parts_of_no_separator whole, List.mem_cons_self⟩
  | cons d rest ih =>
    obtain ⟨earlier, last, cut, inside⟩ := ih
    rw [List.cons_append, parts, cut]
    split
    · exact ⟨[] :: earlier, last, rfl, inside⟩
    · cases earlier with
      | nil => exact ⟨[], d :: last, rfl, List.mem_cons_of_mem d inside⟩
      | cons first more => exact ⟨(d :: first) :: more, last, rfl, inside⟩

theorem exists_mem_parts (isSeparator : Char → Bool) {c : Char} (plain : isSeparator c = false) {s : List Char}
    (inside : c ∈ s) : ∃ part ∈ parts isSeparator s, c ∈ part := by
  induction s with
  | nil => cases inside
  | cons d rest ih =>
    rw [parts]
    rcases List.mem_cons.mp inside with rfl | later
    · rw [plain, if_neg Bool.false_ne_true]
      cases parts isSeparator rest with
      | nil => exact ⟨[c], List.mem_cons_self, List.mem_cons_self⟩
      | cons first more => exact ⟨c :: first, List.mem_cons_self, List.mem_cons_self⟩
    · obtain ⟨part, isPart, inPart⟩ := ih later
      split
      · exact ⟨part, List.mem_cons_of_mem _ isPart, inPart⟩
      · cases cut : parts isSeparator rest with
        | nil => exact absurd cut (parts_ne_nil isSeparator rest)
        | cons first more =>
          rw [cut] at isPart
          rcases List.mem_cons.mp isPart with rfl | later
          · exact ⟨d :: part, List.mem_cons_self, List.mem_cons_of_mem d inPart⟩
          · exact ⟨part, List.mem_cons_of_mem _ later, inPart⟩

end ContractSuite.Text
