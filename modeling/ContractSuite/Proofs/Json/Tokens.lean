import ContractSuite.Proofs.Json.Numerals

namespace ContractSuite.Json

/-- The text begins with such a part, and this is what is left behind it. -/
def Takes (isPart : List Char → Prop) (s rest : List Char) : Prop :=
  ∃ part, isPart part ∧ s = part ++ rest

/-- Such a value may have white space in front of it. -/
def TakesValue (isPart : List Char → Prop) (s rest : List Char) : Prop :=
  ∃ space part, IsSpace space ∧ isPart part ∧ s = space ++ part ++ rest

theorem Takes.mono {isPart isPart' : List Char → Prop} {s rest : List Char} (takes : Takes isPart s rest)
    (imp : ∀ part, isPart part → isPart' part) : Takes isPart' s rest := by
  obtain ⟨part, isPart, rfl⟩ := takes
  exact ⟨part, imp part isPart, rfl⟩

section Tokens

variable {s rest : List Char}

theorem isSpace_nil : IsSpace [] := List.forall_mem_nil _

theorem IsSpace.append {s t : List Char} (first : IsSpace s) (second : IsSpace t) : IsSpace (s ++ t) :=
  List.forall_mem_append.mpr ⟨first, second⟩

theorem takes_of_skipSpace (skipped : skipSpace s = rest) : Takes IsSpace s rest := by
  subst skipped
  exact ⟨s.takeWhile isSpace, List.all_eq_true.mp List.all_takeWhile, (List.takeWhile_append_dropWhile).symm⟩

theorem TakesValue.mono {isPart isPart' : List Char → Prop} (takes : TakesValue isPart s rest)
    (imp : ∀ part, isPart part → isPart' part) : TakesValue isPart' s rest := by
  obtain ⟨space, part, isSpace, isPart, rfl⟩ := takes
  exact ⟨space, part, isSpace, imp part isPart, rfl⟩

/-- What is taken from the first token on may have white space in front of it. -/
theorem Takes.behind_space {isPart : List Char → Prop} {t : List Char} (takes : Takes isPart t rest)
    (skipped : skipSpace s = t) : TakesValue isPart s rest := by
  obtain ⟨space, isSpace, rfl⟩ := takes_of_skipSpace skipped
  obtain ⟨part, isPart, rfl⟩ := takes
  exact ⟨space, part, isSpace, isPart, by rw [List.append_assoc]⟩

theorem eq_of_word {letters : List Char} (taken : word letters s = .ok rest) : s = letters ++ rest := by
  induction letters generalizing s with
  | nil =>
    cases taken
    rfl
  | cons c more ih =>
    cases s with
    | nil => cases taken
    | cons d s =>
      unfold word at taken
      split at taken
      · next same => rw [same, ih taken, List.cons_append]
      · cases taken

theorem takes_of_colon (taken : colon s = .ok rest) : ∃ space, IsSpace space ∧ s = space ++ ':' :: rest := by
  unfold colon at taken
  split at taken
  · cases taken
  · next skipped =>
    cases taken
    exact takes_of_skipSpace skipped
  · cases taken

theorem takes_of_closeList (taken : closeList s = .ok rest) : ∃ space, IsSpace space ∧ s = space ++ ']' :: rest := by
  unfold closeList at taken
  split at taken
  · cases taken
  · next skipped =>
    cases taken
    exact takes_of_skipSpace skipped
  · cases taken

theorem isSpace_of_finish (finished : finish s = .ok ()) : IsSpace s := by
  unfold finish at finished
  split at finished
  · next done =>
    obtain ⟨space, isSpace, rfl⟩ := takes_of_skipSpace (List.isEmpty_iff.mp done)
    rwa [List.append_nil]
  · cases finished

/-- What stands between two entries, or in front of the first. -/
def Gap (isFirst : Bool) (s t : List Char) : Prop :=
  if isFirst then s = t else ∃ space, IsSpace space ∧ s = space ++ ',' :: t

/-- What follows is the end, behind white space, or such a front, behind what stands between two entries. -/
def Next.Fits (isFirst : Bool) (closing : Char) (isFront : List Char → Prop) (s : List Char) : Next → Prop
  | .closed rest => ∃ space, IsSpace space ∧ s = space ++ closing :: rest
  | .further rest => ∃ t, Gap isFirst s t ∧ Takes isFront t rest

theorem fits_of_nextItem {isFirst : Bool} {next : Next} (found : nextItem isFirst s = .ok next) :
    next.Fits isFirst ']' IsSpace s := by
  unfold nextItem at found
  split at found
  · cases found
  · next skipped =>
    cases found
    exact takes_of_skipSpace skipped
  · next c rest _ skipped =>
    split at found
    · next first =>
      cases found
      exact ⟨s, by rw [first]; rfl, takes_of_skipSpace skipped⟩
    · next first =>
      split at found
      · next comma =>
        subst comma
        rw [Bool.not_eq_true] at first
        have gap : Gap isFirst s rest := by
          rw [first]
          exact takes_of_skipSpace skipped
        split at found
        · cases found
        · cases found
        · cases found
          exact ⟨rest, gap, takes_of_skipSpace rfl⟩
      · cases found

/-- The name of a member starts with the quote that opens it. -/
theorem fits_of_nextMember {isFirst : Bool} {next : Next} (found : nextMember isFirst s = .ok next) :
    next.Fits isFirst '}' (fun front => ∃ space, IsSpace space ∧ front = space ++ ['"']) s := by
  have opened {t rest : List Char} (skipped : skipSpace t = '"' :: rest) :
      Takes (fun front => ∃ space, IsSpace space ∧ front = space ++ ['"']) t rest := by
    obtain ⟨space, isSpace, rfl⟩ := takes_of_skipSpace skipped
    exact ⟨_, ⟨space, isSpace, rfl⟩, by simp⟩
  unfold nextMember at found
  split at found
  · cases found
  · next skipped =>
    cases found
    exact takes_of_skipSpace skipped
  · next c rest _ skipped =>
    split at found
    · next first =>
      split at found
      · next quote =>
        subst quote
        cases found
        exact ⟨s, by rw [first]; rfl, opened skipped⟩
      · cases found
    · next first =>
      split at found
      · next comma =>
        subst comma
        rw [Bool.not_eq_true] at first
        have gap : Gap isFirst s rest := by
          rw [first]
          exact takes_of_skipSpace skipped
        split at found
        · cases found
        · next skippedToo =>
          cases found
          exact ⟨rest, gap, opened skippedToo⟩
        · cases found
      · cases found

end Tokens

namespace Number

variable {s rest digits : List Char}

theorem takes_of_takeDigits (taken : takeDigits s = (digits, rest)) (ne : digits ≠ []) :
    IsDigits digits ∧ s = digits ++ rest := by
  cases taken
  exact ⟨⟨ne, List.all_eq_true.mp List.all_takeWhile⟩, (List.takeWhile_append_dropWhile).symm⟩

theorem isDigits_cons {c : Char} (isDigit : c.isDigit = true) (more : ∀ d ∈ digits, d.isDigit = true) :
    IsDigits (c :: digits) :=
  ⟨List.cons_ne_nil _ _, List.forall_mem_cons.mpr ⟨isDigit, more⟩⟩

theorem takes_of_wholeDigits (taken : wholeDigits s = .ok (digits, rest)) :
    IsWhole digits ∧ s = digits ++ rest := by
  unfold wholeDigits at taken
  split at taken
  · cases taken
  · next c s =>
    split at taken
    · next zero =>
      subst zero
      split at taken
      · split at taken
        · cases taken
        · cases taken
          exact ⟨Or.inl rfl, rfl⟩
      · cases taken
        exact ⟨Or.inl rfl, rfl⟩
    · next nonzero =>
      split at taken
      · next isDigit =>
        cases taken
        refine ⟨Or.inr ⟨isDigits_cons isDigit (List.all_eq_true.mp List.all_takeWhile), ?_⟩, ?_⟩
        · rw [List.head?_cons]
          exact fun same => nonzero (Option.some.inj same)
        · exact congrArg _ (List.takeWhile_append_dropWhile).symm
      · cases taken

theorem takes_of_decimals {x : Scaled} {found : Bool × Scaled} (taken : decimals x s = .ok (found, rest)) :
    ∃ digits, found = (!digits.isEmpty, decimalPart digits x) ∧ Takes (IsFractionOf digits) s rest := by
  unfold decimals at taken
  split at taken
  · next s =>
    rcases split : takeDigits s with ⟨digits, behind⟩
    rw [split] at taken
    cases digits with
    | nil => cases behind <;> cases taken
    | cons c more =>
      cases taken
      obtain ⟨isDigits, rfl⟩ := takes_of_takeDigits split (List.cons_ne_nil c more)
      exact ⟨c :: more, rfl, _, .point isDigits, rfl⟩
  · cases taken
    exact ⟨[], rfl, [], .absent, rfl⟩

/-- The letter of an exponent and what may stand behind it. -/
theorem takes_of_sign {letter : Char} (isLetter : letter = 'e' ∨ letter = 'E') {t : List Char}
    (isDigits : IsDigits digits) (behind : (exponentSign t).2 = digits ++ rest) :
    Takes (IsExponentOf (if (exponentSign t).1 then -(amount digits : ℤ) else amount digits)) (letter :: t) rest := by
  unfold exponentSign at behind ⊢
  split at behind
  · cases behind
    exact ⟨_, .plus isLetter isDigits, rfl⟩
  · cases behind
    exact ⟨_, .minus isLetter isDigits, rfl⟩
  · cases behind
    exact ⟨_, .bare isLetter isDigits, rfl⟩

theorem foldl_digits (digits : List Char) :
    digits.foldl (fun (n : ℤ) c => n * 10 + digit c) 0 = amount digits := by
  have fold (n : ℕ) : digits.foldl (fun (n : ℤ) c => n * 10 + digit c) n = amountFrom n digits := by
    induction digits generalizing n with
    | nil => rfl
    | cons c more ih =>
      have step := ih (n * 10 + digit c)
      push_cast at step
      exact step
  exact fold 0

theorem takes_of_exponentPart {x : Scaled} {found : Bool × Scaled} (taken : exponentPart x s = .ok (found, rest)) :
    ∃ power, found.2 = { x with exponent := x.exponent + power } ∧ (found.1 = false → power = 0) ∧
      Takes (IsExponentOf power) s rest := by
  have absent : x = { x with exponent := x.exponent + 0 } := by rw [add_zero]
  unfold exponentPart at taken
  split at taken
  · next letter s =>
    split at taken
    · next isLetter =>
      rcases split : takeDigits (exponentSign s).2 with ⟨digits, behind⟩
      dsimp only at taken
      rw [split, foldl_digits] at taken
      cases digits with
      | nil => cases behind <;> cases taken
      | cons c more =>
        cases taken
        obtain ⟨isDigits, same⟩ := takes_of_takeDigits split (List.cons_ne_nil c more)
        exact ⟨_, rfl, nofun, takes_of_sign isLetter isDigits same⟩
    · cases taken
      exact ⟨0, absent, fun _ => rfl, [], .absent, rfl⟩
  · cases taken
    exact ⟨0, absent, fun _ => rfl, [], .absent, rfl⟩

theorem takes_of_read {isNegative : Bool} {number : Number} (taken : read isNegative s = .ok (number, rest)) :
    ∃ n : Numeral, n.IsInRange ∧ Takes n.Writes s rest := by
  unfold read at taken
  rcases whole : wholeDigits s with fault | ⟨digits, t⟩
  · rw [whole] at taken
    cases taken
  rw [whole] at taken
  simp only [bind, Except.bind] at taken
  rcases fraction : decimals (wholePart digits ⟨0, 0⟩) t with fault | ⟨⟨hasPoint, x⟩, u⟩
  · rw [fraction] at taken
    cases taken
  rw [fraction] at taken
  dsimp only at taken
  rcases exponent : exponentPart x u with fault | ⟨⟨hasExponent, y⟩, v⟩
  · rw [exponent] at taken
    cases taken
  rw [exponent] at taken
  obtain ⟨isWhole, rfl⟩ := takes_of_wholeDigits whole
  obtain ⟨behind, point, _, isFraction, rfl⟩ := takes_of_decimals fraction
  obtain ⟨power, scaled, unscaled, _, isExponent, rfl⟩ := takes_of_exponentPart exponent
  have writes : Numeral.Writes ⟨digits, behind, power⟩ _ := .mk isWhole isFraction isExponent
  cases point
  dsimp only at scaled
  have same : y = Numeral.scaled ⟨digits, behind, power⟩ := scaled
  suffices inRange : v = rest ∧ Numeral.IsInRange ⟨digits, behind, power⟩ by
    obtain ⟨rfl, inRange⟩ := inRange
    exact ⟨_, inRange, _, writes, by simp⟩
  dsimp only at taken
  split at taken
  · split at taken <;> cases taken
    next inRange =>
    rw [same] at inRange
    exact ⟨rfl, by rw [Numeral.IsInRange, inRange]; rfl⟩
  · next plain =>
    have ended : v = rest := by
      split at taken
      · cases taken
        rfl
      · split at taken <;> cases taken <;> rfl
    simp only [Bool.or_eq_true, not_or, Bool.not_eq_true, Bool.not_eq_false', List.isEmpty_iff, bne_eq_false_iff_eq]
      at plain
    obtain ⟨⟨rfl, unscaled'⟩, whole⟩ := plain
    obtain rfl := unscaled unscaled'
    refine ⟨ended, Numeral.isInRange_of_exponent ?_⟩
    unfold Numeral.scaled decimalPart
    dsimp only
    rw [whole, add_zero]

/-- A number that is skipped may be of any size. -/
theorem takes_of_parts {t u : List Char} (whole : IsWhole digits ∧ s = digits ++ t) (fraction : Takes IsFraction t u)
    (exponent : Takes IsExponent u rest) : Takes IsUnsigned s rest := by
  obtain ⟨isWhole, rfl⟩ := whole
  obtain ⟨_, isFraction, rfl⟩ := fraction
  obtain ⟨_, isExponent, rfl⟩ := exponent
  exact ⟨_, .mk isWhole isFraction isExponent, by simp⟩

theorem takes_of_skipDigits (taken : skipDigits s = .ok rest) : ∃ digits, IsDigits digits ∧ s = digits ++ rest := by
  unfold skipDigits at taken
  split at taken
  · next c t =>
    split at taken
    · next isDigit =>
      cases taken
      refine ⟨_, takes_of_takeDigits rfl ?_⟩
      rw [List.takeWhile_cons_of_pos isDigit]
      exact List.cons_ne_nil _ _
    · cases taken
  · cases taken

theorem takes_of_skipExponent
    (taken : (match s with
      | c :: t => if c = 'e' ∨ c = 'E' then skipDigits (exponentSign t).2 else .ok (c :: t)
      | [] => .ok []) = Except.ok rest) : Takes IsExponent s rest := by
  split at taken
  · split at taken
    · next isLetter =>
      obtain ⟨digits, isDigits, same⟩ := takes_of_skipDigits taken
      exact (takes_of_sign isLetter isDigits same).mono fun _ => IsExponentOf.isExponent
    · cases taken
      exact ⟨[], .absent, rfl⟩
  · cases taken
    exact ⟨[], .absent, rfl⟩

theorem takes_of_skip (taken : skip s = .ok rest) : Takes IsUnsigned s rest := by
  unfold skip at taken
  rcases whole : wholeDigits s with fault | ⟨digits, t⟩
  · rw [whole] at taken
    cases taken
  rw [whole] at taken
  simp only [bind, Except.bind] at taken
  split at taken
  · next t =>
    rcases fraction : skipDigits t with fault | u
    · rw [fraction] at taken
      cases taken
    rw [fraction] at taken
    obtain ⟨digits, isDigits, rfl⟩ := takes_of_skipDigits fraction
    exact takes_of_parts (takes_of_wholeDigits whole) ⟨_, .point isDigits, rfl⟩ (takes_of_skipExponent taken)
  · exact takes_of_parts (takes_of_wholeDigits whole) ⟨[], .absent, rfl⟩ (takes_of_skipExponent taken)

end Number

end ContractSuite.Json
