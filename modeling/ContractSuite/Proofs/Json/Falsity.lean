import ContractSuite.Proofs.Json.Skipping

namespace ContractSuite.Json

/-- Among numbers only a zero alone counts as false. -/
theorem Denotes.isFalsy_iff {s : List Char} {value : ℚ} (denotes : Denotes s value) : IsFalsy s ↔ s = ['0'] := by
  refine ⟨fun isFalsy => ?_, fun alone => alone ▸ .zero⟩
  have head : ∃ c t, s = c :: t ∧ (c.isDigit = true ∨ c = '-') := by
    cases denotes with
    | unsigned writes =>
      obtain ⟨c, t, same, digit⟩ := exists_digit (isUnsigned_iff.mpr ⟨_, writes⟩)
      exact ⟨c, t, same, Or.inl digit⟩
    | negative _ => exact ⟨_, _, rfl, Or.inr rfl⟩
  obtain ⟨c, t, same, starts⟩ := head
  cases isFalsy with
  | zero => rfl
  | @nest frame _ _ => cases frame <;> cases same <;> simp [Frame.opening] at starts
  | _ => cases same; simp at starts

namespace Number

variable {s t rest : List Char} {x : Scaled}

theorem le_wholePart (digits : List Char) (x : Scaled) : x.significand ≤ (wholePart digits x).significand := by
  induction digits generalizing x with
  | nil => exact Nat.le_refl _
  | cons c more ih =>
    unfold wholePart
    dsimp only
    split
    · exact Nat.le_refl _
    · have later := ih { x with significand := x.significand * 10 + digit c }
      dsimp only at later
      omega

theorem of_decimals_absent {y : Scaled} (taken : decimals x s = .ok ((false, y), t)) : y = x ∧ t = s := by
  unfold decimals at taken
  split at taken
  · next s =>
    rcases split : takeDigits s with ⟨digits, behind⟩
    rw [split] at taken
    cases digits with
    | nil => cases behind <;> cases taken
    | cons c more => cases taken
  · cases taken
    exact ⟨rfl, rfl⟩

theorem of_exponentPart_absent {y : Scaled} (taken : exponentPart x s = .ok ((false, y), t)) : y = x ∧ t = s := by
  unfold exponentPart at taken
  split at taken
  · next letter s =>
    split at taken
    · rcases split : takeDigits (exponentSign s).2 with ⟨digits, behind⟩
      dsimp only at taken
      rw [split] at taken
      cases digits with
      | nil => cases behind <;> cases taken
      | cons c more => cases taken
    · cases taken
      exact ⟨rfl, rfl⟩
  · cases taken
    exact ⟨rfl, rfl⟩

theorem digit_bounds {c : Char} (isDigit : c.isDigit = true) (notZero : c ≠ '0') : 0 < digit c ∧ digit c ≤ 9 := by
  have other : c.toNat ≠ 0x30 := fun same => notZero (Char.toNat_inj.mp same)
  have bounds : 0x30 ≤ c.toNat ∧ c.toNat ≤ 0x39 := by
    simpa [Char.isDigit, UInt32.le_iff_toNat_le] using isDigit
  unfold digit
  omega

/-- Digits that amount to nothing are a zero alone. -/
theorem eq_zero_of_wholePart {digits : List Char} (isWhole : IsWhole digits)
    (zero : (wholePart digits { significand := 0, exponent := 0 }).significand = 0) : digits = ['0'] := by
  rcases isWhole with zeroAlone | ⟨⟨ne, isDigit⟩, nonzero⟩
  · exact zeroAlone
  · cases digits with
    | nil => exact absurd rfl ne
    | cons c more =>
      have notZero : c ≠ '0' := fun same => nonzero (by rw [same]; rfl)
      obtain ⟨positive, small⟩ := digit_bounds (isDigit c List.mem_cons_self) notZero
      have fits : ¬0 * 10 + digit c > significandLimit := by
        unfold significandLimit
        omega
      have atLeast := le_wholePart more { significand := 0 * 10 + digit c, exponent := 0 }
      rw [wholePart, if_neg fits] at zero
      dsimp only at atLeast zero
      omega

theorem eq_zero_of_read {isNegative : Bool} {n : Number} (taken : read isNegative s = .ok (n, rest))
    (falsy : (Value.number n).isTruthy = false) : isNegative = false ∧ s = '0' :: rest := by
  unfold read at taken
  rcases whole : wholeDigits s with fault | ⟨digits, t⟩
  · rw [whole] at taken
    cases taken
  rw [whole] at taken
  simp only [bind, Except.bind] at taken
  rcases fraction : decimals (wholePart digits ⟨0, 0⟩) t with fault | ⟨⟨hasPoint, x⟩, u⟩
  · rw [fraction] at taken
    cases taken
  rw [fraction] at taken
  dsimp only at taken
  rcases exponent : exponentPart x u with fault | ⟨⟨hasExponent, y⟩, v⟩
  · rw [exponent] at taken
    cases taken
  rw [exponent] at taken
  dsimp only at taken
  split at taken
  · split at taken <;> cases taken
    cases falsy
  · next plain =>
    split at taken
    · next unsigned =>
      cases taken
      simp only [Bool.or_eq_true, not_or, Bool.not_eq_true] at plain
      obtain ⟨⟨rfl, rfl⟩, _⟩ := plain
      obtain ⟨rfl, rfl⟩ := of_decimals_absent fraction
      obtain ⟨rfl, rfl⟩ := of_exponentPart_absent exponent
      obtain ⟨isWhole, rfl⟩ := takes_of_wholeDigits whole
      have zero := eq_zero_of_wholePart isWhole (by simpa [Value.isTruthy] using falsy)
      exact ⟨by simpa using unsigned, by rw [zero]; rfl⟩
    · split at taken <;> cases taken <;> cases falsy

theorem read_zero (ends : EndsValue rest) : read false ('0' :: rest) = .ok (.natural 0, rest) := by
  cases rest with
  | nil => rfl
  | cons c t =>
    obtain ⟨noDigit, notPoint, notLower, notUpper⟩ := ends.head
    have whole : wholeDigits ('0' :: c :: t) = .ok (['0'], c :: t) := by simp [wholeDigits, noDigit]
    have fraction (x : Scaled) : decimals x (c :: t) = .ok ((false, x), c :: t) := by simp [decimals, notPoint]
    have exponent (x : Scaled) : exponentPart x (c :: t) = .ok ((false, x), c :: t) := by
      simp [exponentPart, notLower, notUpper]
    unfold read
    rw [whole]
    simp only [bind, Except.bind, fraction, exponent]
    rfl

end Number

namespace Value

variable {fuel depth : Nat} {s rest : List Char} {v : Value}

/-- Items that have been read stay items. -/
theorem of_readItems {items : List Value} (taken : readItems fuel depth items s = .ok (v, rest)) :
    ∃ more, v = .list (items.reverse ++ more) := by
  induction fuel generalizing items s with
  | zero => cases taken
  | succ fuel ih =>
    unfold readItems at taken
    split at taken
    · cases taken
    · cases taken
      exact ⟨[], by rw [List.append_nil]⟩
    · split at taken
      · cases taken
      · next item _ _ =>
        obtain ⟨more, rfl⟩ := ih taken
        exact ⟨item :: more, by simp⟩

theorem of_readMembers {members : List (List Char × Value)}
    (taken : readMembers fuel depth members s = .ok (v, rest)) : ∃ more, v = .object (members.reverse ++ more) := by
  induction fuel generalizing members s with
  | zero => cases taken
  | succ fuel ih =>
    unfold readMembers at taken
    split at taken
    · cases taken
    · cases taken
      exact ⟨[], by rw [List.append_nil]⟩
    · split at taken
      · cases taken
      · next name _ _ =>
        split at taken
        · cases taken
        · split at taken
          · cases taken
          · next value _ _ =>
            obtain ⟨more, rfl⟩ := ih taken
            exact ⟨(name, value) :: more, by simp⟩

theorem closing_of_readItems (taken : readItems fuel depth [] s = .ok (v, rest)) (falsy : v.isTruthy = false) :
    ∃ space, IsSpace space ∧ s = space ++ Frame.list.closing :: rest := by
  cases fuel with
  | zero => cases taken
  | succ fuel =>
    unfold readItems at taken
    split at taken
    · cases taken
    · next closed =>
      cases taken
      exact fits_of_nextItem closed
    · split at taken
      · cases taken
      · obtain ⟨more, rfl⟩ := of_readItems taken
        cases falsy

theorem closing_of_readMembers (taken : readMembers fuel depth [] s = .ok (v, rest)) (falsy : v.isTruthy = false) :
    ∃ space, IsSpace space ∧ s = space ++ Frame.object.closing :: rest := by
  cases fuel with
  | zero => cases taken
  | succ fuel =>
    unfold readMembers at taken
    split at taken
    · cases taken
    · next closed =>
      cases taken
      exact fits_of_nextMember closed
    · split at taken
      · cases taken
      · split at taken
        · cases taken
        · split at taken
          · cases taken
          · obtain ⟨more, rfl⟩ := of_readMembers taken
            cases falsy

/-- An empty list or object. -/
theorem takes_empty (frame : Frame) (ending : ∃ space, IsSpace space ∧ s = space ++ frame.closing :: rest) :
    Takes IsFalsy (frame.opening :: s) rest := by
  obtain ⟨space, isSpace, rfl⟩ := ending
  exact ⟨frame.around [] space, .nest isSpace, by simp [Frame.around, Entry.joined]⟩

theorem takesValue_falsy (taken : read fuel depth s = .ok (v, rest)) (falsy : v.isTruthy = false) :
    TakesValue IsFalsy s rest := by
  cases fuel with
  | zero => cases taken
  | succ fuel =>
    unfold read at taken
    split at taken
    · cases taken
    · next skipped =>
      obtain ⟨t, spelled, same⟩ := ok_of_map taken
      cases same
      obtain rfl := eq_of_word spelled
      exact Takes.behind_space ⟨_, .null, rfl⟩ skipped
    · obtain ⟨t, spelled, same⟩ := ok_of_map taken
      cases same
      cases falsy
    · next skipped =>
      obtain ⟨t, spelled, same⟩ := ok_of_map taken
      cases same
      obtain rfl := eq_of_word spelled
      exact Takes.behind_space ⟨_, .false, rfl⟩ skipped
    · next skipped =>
      obtain ⟨⟨chars, t⟩, quoted, same⟩ := ok_of_map taken
      cases same
      obtain ⟨quote, rfl, spells⟩ := Quotation.spells_of_read quoted
      cases spells with
      | nil => exact Takes.behind_space ⟨_, .quoted, rfl⟩ skipped
      | _ => cases falsy
    · obtain ⟨⟨n, t⟩, number, same⟩ := ok_of_map taken
      cases same
      cases (Number.eq_zero_of_read number falsy).1
    · next skipped =>
      split at taken
      · cases taken
      · exact (takes_empty .list (closing_of_readItems taken falsy)).behind_space skipped
    · next skipped =>
      split at taken
      · cases taken
      · exact (takes_empty .object (closing_of_readMembers taken falsy)).behind_space skipped
    · next skipped =>
      split at taken
      · obtain ⟨⟨n, t⟩, number, same⟩ := ok_of_map taken
        cases same
        obtain ⟨_, same⟩ := Number.eq_zero_of_read number falsy
        exact Takes.behind_space ⟨_, .zero, same⟩ skipped
      · cases taken

theorem read_list (skipped : skipSpace s = '[' :: t) :
    read (fuel + 1) (depth + 1) s = readItems fuel depth [] t := by
  rw [read, skipped]
  rfl

theorem read_object (skipped : skipSpace s = '{' :: t) :
    read (fuel + 1) (depth + 1) s = readMembers fuel depth [] t := by
  rw [read, skipped]
  rfl

theorem readItems_closing (closed : nextItem true s = .ok (.closed rest)) :
    readItems (fuel + 1) depth [] s = .ok (.list [], rest) := by
  rw [readItems, List.isEmpty_nil, closed]
  rfl

theorem readMembers_closing (closed : nextMember true s = .ok (.closed rest)) :
    readMembers (fuel + 1) depth [] s = .ok (.object [], rest) := by
  rw [readMembers, List.isEmpty_nil, closed]
  rfl

/-- Every value that counts as false is read as such. -/
theorem exists_read_falsy {value space : List Char} (isFalsy : IsFalsy value) (spaces : IsSpace space)
    (ends : EndsValue rest) (fuel depth : Nat) :
    ∃ v, v.isTruthy = false ∧ read (fuel + 2) (depth + 1) (space ++ value ++ rest) = .ok (v, rest) := by
  have skipped {c : Char} (t : List Char) (solid : isSpace c = false) : skipSpace (space ++ (c :: t)) = c :: t :=
    skipSpace_append spaces solid
  rw [List.append_assoc]
  cases isFalsy with
  | null =>
    refine ⟨.null, rfl, ?_⟩
    rw [List.cons_append, read, skipped _ (by decide)]
    exact congrArg (Except.map _) (word_append ['u', 'l', 'l'] rest)
  | false =>
    refine ⟨.bool false, rfl, ?_⟩
    rw [List.cons_append, read, skipped _ (by decide)]
    exact congrArg (Except.map _) (word_append ['a', 'l', 's', 'e'] rest)
  | zero =>
    refine ⟨.number (.natural 0), rfl, ?_⟩
    rw [List.cons_append, read, skipped _ (by decide)]
    exact congrArg (Except.map _) (Number.read_zero ends)
  | quoted =>
    refine ⟨.text [], rfl, ?_⟩
    rw [List.cons_append, read, skipped _ (by decide)]
    exact congrArg (Except.map _) (Quotation.read_of_spells .nil rest)
  | @nest frame inner isInner =>
    have opened : skipSpace (space ++ (frame.around [] inner ++ rest)) =
        frame.opening :: (inner ++ frame.closing :: rest) := by
      rw [← skipped _ frame.isSpace_opening]
      simp [Frame.around, Entry.joined]
    cases frame with
    | list => exact ⟨.list [], rfl, (read_list opened).trans (readItems_closing (nextItem_closing isInner))⟩
    | object => exact ⟨.object [], rfl, (read_object opened).trans (readMembers_closing (nextMember_closing isInner))⟩

end Value

theorem exists_readValue_falsy {value space rest : List Char} (isFalsy : IsFalsy value) (spaces : IsSpace space)
    (ends : EndsValue rest) (depth : Nat) :
    ∃ v, v.isTruthy = false ∧ readValue (depth + 1) (space ++ value ++ rest) = .ok (v, rest) :=
  Value.exists_read_falsy isFalsy spaces ends _ depth

end ContractSuite.Json
