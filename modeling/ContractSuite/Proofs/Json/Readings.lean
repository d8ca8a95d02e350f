import ContractSuite.Proofs.Json.Falsity

namespace ContractSuite.Json

namespace Number

variable {rest digits : List Char}

theorem decimals_append {fraction : List Char} (isFraction : IsFractionOf digits fraction) (noDigit : NoDigit rest)
    (noPoint : ∀ t, rest ≠ '.' :: t) (x : Scaled) :
    decimals x (fraction ++ rest) = .ok ((!digits.isEmpty, decimalPart digits x), rest) := by
  cases isFraction with
  | absent =>
    rw [List.nil_append]
    unfold decimals
    split
    · next t => exact absurd rfl (noPoint t)
    · rfl
  | point isDigits =>
    obtain ⟨ne, isDigit⟩ := isDigits
    have taken := takeDigits_append isDigit noDigit
    cases digits with
    | nil => exact absurd rfl ne
    | cons c more =>
      rw [List.cons_append, decimals, taken]
      rfl

/-- An exponent is read digit by digit behind its letter and its sign. -/
theorem exponentPart_letter {letter : Char} {t : List Char} (isLetter : letter = 'e' ∨ letter = 'E')
    (isDigits : IsDigits digits) (noDigit : NoDigit rest) (behind : (exponentSign t).2 = digits ++ rest) (x : Scaled) :
    exponentPart x (letter :: t) = .ok ((true, { x with exponent := x.exponent +
      if (exponentSign t).1 then -(amount digits : ℤ) else amount digits }), rest) := by
  obtain ⟨ne, isDigit⟩ := isDigits
  have taken := takeDigits_append isDigit noDigit
  unfold exponentPart
  dsimp only
  rw [if_pos isLetter, behind, taken, foldl_digits]
  cases digits with
  | nil => exact absurd rfl ne
  | cons c more => rfl

theorem exponentPart_append {exponent : List Char} {power : ℤ} (isExponent : IsExponentOf power exponent)
    (ends : EndsValue rest) (x : Scaled) :
    exponentPart x (exponent ++ rest) = .ok ((!exponent.isEmpty, { x with exponent := x.exponent + power }), rest) := by
  have noDigit := noDigit_of_endsValue ends
  cases isExponent with
  | absent =>
    rw [List.nil_append, add_zero]
    cases rest with
    | nil => rfl
    | cons c t =>
      obtain ⟨_, _, notLower, notUpper⟩ := ends.head
      unfold exponentPart
      dsimp only
      rw [if_neg (not_or.mpr ⟨notLower, notUpper⟩)]
      rfl
  | @bare letter digits isLetter isDigits =>
    have unsigned : exponentSign (digits ++ rest) = (false, digits ++ rest) := exponentSign_append isDigits
    rw [List.cons_append, exponentPart_letter isLetter isDigits noDigit (by rw [unsigned]), unsigned]
    rfl
  | plus isLetter isDigits => exact exponentPart_letter isLetter isDigits noDigit rfl x
  | minus isLetter isDigits => exact exponentPart_letter isLetter isDigits noDigit rfl x

theorem exists_read {n : Numeral} {s : List Char} (writes : n.Writes s) (inRange : n.IsInRange) (ends : EndsValue rest)
    (isNegative : Bool) : ∃ number, read isNegative (s ++ rest) = .ok (number, rest) := by
  cases writes with
  | @mk whole digits power fraction exponent isWhole isFraction isExponent =>
    obtain ⟨noDigit, noPoint⟩ := noDigit_of_exponent isExponent.isExponent ends
    obtain ⟨size, sized⟩ := Option.isSome_iff_exists.mp inRange
    have behindWhole : NoDigit (fraction ++ (exponent ++ rest)) := by
      cases isFraction with
      | absent => exact noDigit
      | point _ => exact noDigit_cons (by decide)
    have readFraction := decimals_append isFraction noDigit noPoint
    have readExponent := exponentPart_append isExponent ends
    dsimp only [Numeral.scaled] at sized
    unfold read
    rw [List.append_assoc, List.append_assoc, wholeDigits_append isWhole behindWhole]
    simp only [bind, Except.bind, readFraction, readExponent, sized]
    split
    · exact ⟨_, rfl⟩
    · split
      · exact ⟨_, rfl⟩
      · split <;> exact ⟨_, rfl⟩

end Number

theorem IsLabel.exists_name {front : List Char} (isLabel : IsLabel IsSpellable front) :
    ∃ name, IsLabel (Spells · name) front := by
  cases isLabel with
  | mk before spellable middle after =>
    obtain ⟨name, spells⟩ := spellable
    exact ⟨name, .mk before spells middle after⟩

/-- The reader takes the value whole and stops behind it, if there are two steps for each of its characters. -/
def Reads (depth : ℕ) (value : List Char) : Prop :=
  ∀ space rest fuel, IsSpace space → EndsValue rest → 2 * value.length ≤ fuel →
    ∃ v, Value.read fuel depth (space ++ value ++ rest) = .ok (v, rest)

/-- Two steps for each character that is left are one for the next entry, two for each character of its value, and two
for each character that is left behind it. -/
theorem Completes.next {frame : Frame} {isFirst : Bool} {e : Entry} {entries : List Entry} {s rest : List Char}
    (completes : Completes frame isFirst (e :: entries) s rest) (isSpace : IsSpace e.space) (isValue : IsValue e.value)
    {fuel : ℕ} (enough : 2 * s.length ≤ fuel + 2 * rest.length) :
    ∃ t fuel', fuel = fuel' + 1 ∧ Gap isFirst s (e.front ++ e.value ++ t) ∧ Completes frame false entries t rest ∧
      2 * e.value.length ≤ fuel' ∧ 2 * t.length ≤ fuel' + 2 * rest.length := by
  obtain ⟨t, gap, more⟩ := completes.of_cons isSpace
  obtain ⟨c, u, value, _, _⟩ := exists_head isValue
  have nonempty : 1 ≤ e.value.length := by simp [value]
  have longer := gap.length_le
  have behind := more.length_le
  simp only [List.length_append, Bool.false_eq_true, if_false] at longer behind
  obtain ⟨fuel, rfl⟩ := Nat.exists_eq_add_of_le' (show 1 ≤ fuel by omega)
  exact ⟨t, fuel, rfl, gap, more, by omega, by omega⟩

theorem Completes.last {frame : Frame} {isFirst : Bool} {s rest : List Char}
    (completes : Completes frame isFirst [] s rest) {fuel : ℕ} (enough : 2 * s.length ≤ fuel + 2 * rest.length) :
    ∃ space fuel', fuel = fuel' + 1 ∧ IsSpace space ∧ s = space ++ frame.closing :: rest := by
  obtain ⟨space, isSpace, rfl⟩ := completes.of_nil
  rw [List.length_append, List.length_cons] at enough
  obtain ⟨fuel, rfl⟩ := Nat.exists_eq_add_of_le' (show 1 ≤ fuel by omega)
  exact ⟨space, fuel, rfl, isSpace, rfl⟩

namespace Value

variable {fuel depth : ℕ} {isFirst : Bool} {entries : List Entry} {s rest : List Char}

theorem exists_readItems (completes : Completes .list isFirst entries s rest)
    (values : Entry.Are Frame.list.IsSpelledFront (IsLegible depth) entries)
    (reads : ∀ e ∈ entries, Reads depth e.value) {items : List Value} (same : items.isEmpty = isFirst)
    (enough : 2 * s.length ≤ fuel + 2 * rest.length) : ∃ v, readItems fuel depth items s = .ok (v, rest) := by
  -- An item costs the list one step, whatever it costs itself, so that two steps for each character stay enough.
  induction entries generalizing isFirst s items fuel with
  | nil =>
    obtain ⟨space, fuel, rfl, isSpace, rfl⟩ := completes.last enough
    exact ⟨.list items.reverse, by rw [readItems, Frame.closing, nextItem_closing isSpace]⟩
  | cons e entries ih =>
    obtain ⟨⟨⟨isSpace, isLast⟩, legible⟩, valuesLater⟩ := List.forall_mem_cons.mp values
    obtain ⟨readsHere, readsLater⟩ := List.forall_mem_cons.mp reads
    obtain ⟨t, fuel, rfl, gap, more, enoughHere, enoughLater⟩ := completes.next isLast legible.isValue enough
    obtain ⟨c, u, value, solid, notEnd⟩ := exists_head legible.isValue
    rw [List.append_assoc, value, List.cons_append] at gap
    have further := nextItem_of_gap gap isSpace solid notEnd
    rw [← List.cons_append, ← value] at further
    obtain ⟨item, taken⟩ := readsHere [] t fuel isSpace_nil more.endsValue enoughHere
    rw [List.nil_append] at taken
    have notFirst : (item :: items).isEmpty = false := rfl
    obtain ⟨v, takenLater⟩ := ih more valuesLater readsLater notFirst enoughLater
    exact ⟨v, by simp [readItems, same, further, taken, takenLater]⟩

theorem exists_readMembers (completes : Completes .object isFirst entries s rest)
    (values : Entry.Are Frame.object.IsSpelledFront (IsLegible depth) entries)
    (reads : ∀ e ∈ entries, Reads depth e.value) {members : List (List Char × Value)}
    (same : members.isEmpty = isFirst) (enough : 2 * s.length ≤ fuel + 2 * rest.length) :
    ∃ v, readMembers fuel depth members s = .ok (v, rest) := by
  induction entries generalizing isFirst s members fuel with
  | nil =>
    obtain ⟨space, fuel, rfl, isSpace, rfl⟩ := completes.last enough
    exact ⟨.object members.reverse, by rw [readMembers, Frame.closing, nextMember_closing isSpace]⟩
  | cons e entries ih =>
    obtain ⟨⟨⟨isLabel, isLast⟩, legible⟩, valuesLater⟩ := List.forall_mem_cons.mp values
    obtain ⟨readsHere, readsLater⟩ := List.forall_mem_cons.mp reads
    obtain ⟨t, fuel, rfl, gap, more, enoughHere, enoughLater⟩ := completes.next isLast legible.isValue enough
    obtain ⟨name, label⟩ := IsLabel.exists_name isLabel
    obtain ⟨opened, named, space, further, spelled, behindColon, isSpace⟩ := exists_label label gap
    obtain ⟨member, taken⟩ := readsHere space t fuel isSpace more.endsValue enoughHere
    have notFirst : ((name, member) :: members).isEmpty = false := rfl
    obtain ⟨v, takenLater⟩ := ih more valuesLater readsLater notFirst enoughLater
    exact ⟨v, by simp [readMembers, same, further, spelled, behindColon, -List.append_assoc, taken, takenLater]⟩

/-- A value in which nothing is nested is read in one step. -/
theorem reads_of_scalar {c : Char} {value : List Char} (solid : isSpace c = false)
    (scalar : ∀ fuel s rest, skipSpace s = c :: (value ++ rest) → EndsValue rest →
      ∃ v, read (fuel + 1) depth s = .ok (v, rest)) : Reads depth (c :: value) := by
  intro space rest fuel isSpace ends enough
  rw [List.length_cons] at enough
  obtain ⟨fuel, rfl⟩ := Nat.exists_eq_add_of_le' (show 1 ≤ fuel by omega)
  refine scalar fuel _ rest ?_ ends
  rw [List.append_assoc]
  exact skipSpace_append isSpace solid

theorem read_digit {c : Char} {t : List Char} (skipped : skipSpace s = c :: t) (digit : c.isDigit = true) :
    read (fuel + 1) depth s = (Number.read false (c :: t)).map fun (n, s) => (.number n, s) := by
  unfold read
  rw [skipped]
  split
  · next same => cases same
  · next same => cases same; cases digit
  · next same => cases same; cases digit
  · next same => cases same; cases digit
  · next same => cases same; cases digit
  · next same => cases same; cases digit
  · next same => cases same; cases digit
  · next same => cases same; cases digit
  · next same =>
    cases same
    rw [if_pos digit]

/-- A list or an object is read to its end if its values are. -/
theorem reads_around {frame : Frame} {space : List Char}
    (values : Entry.Are frame.IsSpelledFront (IsLegible depth) entries) (reads : ∀ e ∈ entries, Reads depth e.value)
    (isLast : IsSpace space) : Reads (depth + 1) (frame.around entries space) := by
  intro before rest fuel isBefore _ enough
  have opened : skipSpace (before ++ frame.around entries space ++ rest) =
      frame.opening :: (Entry.joined entries ++ space ++ frame.closing :: rest) := by
    rw [← skipSpace_append isBefore frame.isSpace_opening]
    simp [Frame.around]
  have completes : Completes frame true entries (Entry.joined entries ++ space ++ frame.closing :: rest) rest :=
    ⟨space, isLast, rfl⟩
  simp only [Frame.around, List.length_append, List.length_cons] at enough
  obtain ⟨fuel, rfl⟩ := Nat.exists_eq_add_of_le' (show 1 ≤ fuel by omega)
  have enoughInside : 2 * (Entry.joined entries ++ space ++ frame.closing :: rest).length ≤ fuel + 2 * rest.length := by
    simp only [List.length_append, List.length_cons]
    omega
  cases frame with
  | list =>
    rw [read_list opened]
    exact exists_readItems completes values reads rfl enoughInside
  | object =>
    rw [read_object opened]
    exact exists_readMembers completes values reads rfl enoughInside

end Value

theorem reads_of_isLegible {depth : ℕ} {value : List Char} (legible : IsLegible depth value) : Reads depth value := by
  induction legible with
  | null =>
    refine Value.reads_of_scalar (by decide) fun fuel s rest skipped _ => ⟨.null, ?_⟩
    rw [Value.read, skipped]
    exact congrArg (Except.map _) (word_append ['u', 'l', 'l'] rest)
  | true =>
    refine Value.reads_of_scalar (by decide) fun fuel s rest skipped _ => ⟨.bool true, ?_⟩
    rw [Value.read, skipped]
    exact congrArg (Except.map _) (word_append ['r', 'u', 'e'] rest)
  | false =>
    refine Value.reads_of_scalar (by decide) fun fuel s rest skipped _ => ⟨.bool false, ?_⟩
    rw [Value.read, skipped]
    exact congrArg (Except.map _) (word_append ['a', 'l', 's', 'e'] rest)
  | number writes inRange =>
    obtain ⟨c, t, rfl, digit⟩ := exists_digit (isUnsigned_iff.mpr ⟨_, writes⟩)
    refine Value.reads_of_scalar (solid_of_digit digit).1 fun fuel s rest skipped ends => ?_
    obtain ⟨number, taken⟩ := Number.exists_read writes inRange ends false
    rw [Value.read_digit skipped digit]
    exact ⟨.number number, congrArg (Except.map _) taken⟩
  | negative writes inRange =>
    refine Value.reads_of_scalar (by decide) fun fuel s rest skipped ends => ?_
    obtain ⟨number, taken⟩ := Number.exists_read writes inRange ends true
    rw [Value.read, skipped]
    exact ⟨.number number, congrArg (Except.map _) taken⟩
  | @quoted depth quote spellable =>
    obtain ⟨text, spells⟩ := spellable
    refine Value.reads_of_scalar (by decide) fun fuel s rest skipped _ => ⟨.text text, ?_⟩
    have taken : Quotation.read (quote ++ ['"'] ++ rest) = .ok (text, rest) := by
      simpa using Quotation.read_of_spells spells rest
    rw [Value.read, skipped]
    exact congrArg (Except.map _) taken
  | nest fits legible isLast ih =>
    exact Value.reads_around (fun e member => ⟨fits e member, legible e member⟩) ih isLast

/-- A value starts where the white space in front of it ends. -/
theorem eq_of_space_append {space space' value value' : List Char} (isSpace : IsSpace space)
    (isSpace' : IsSpace space') (isValue : IsValue value) (isValue' : IsValue value')
    (same : space ++ value = space' ++ value') : value = value' := by
  obtain ⟨c, t, rfl, solid, _⟩ := exists_head isValue
  obtain ⟨d, u, rfl, solid', _⟩ := exists_head isValue'
  calc c :: t
    _ = skipSpace (space ++ c :: t) := (skipSpace_append isSpace solid).symm
    _ = skipSpace (space' ++ d :: u) := by rw [same]
    _ = d :: u := skipSpace_append isSpace' solid'

/-- A legible value is read, and what it is read as counts as false if and only if its text is one of those that do. -/
theorem exists_readValue {depth : ℕ} {value space rest : List Char} (legible : IsLegible (depth + 1) value)
    (spaces : IsSpace space) (ends : EndsValue rest) :
    ∃ v, (v.isTruthy = false ↔ IsFalsy value) ∧ readValue (depth + 1) (space ++ value ++ rest) = .ok (v, rest) := by
  have enough : 2 * value.length ≤ 2 * (space ++ value ++ rest).length + 2 := by
    simp only [List.length_append]
    omega
  obtain ⟨v, taken⟩ := reads_of_isLegible legible space rest _ spaces ends enough
  have read : readValue (depth + 1) (space ++ value ++ rest) = .ok (v, rest) := taken
  refine ⟨v, ⟨fun falsy => ?_, fun isFalsy => ?_⟩, read⟩
  · obtain ⟨space', value', isSpace', isFalsy, same⟩ := Value.takesValue_falsy taken falsy
    have whole := List.append_cancel_right same
    rwa [eq_of_space_append spaces isSpace' legible.isValue isFalsy.isValue whole]
  · obtain ⟨w, falsy, readFalsy⟩ := exists_readValue_falsy isFalsy spaces ends depth
    rw [read] at readFalsy
    cases readFalsy
    exact falsy

end ContractSuite.Json
