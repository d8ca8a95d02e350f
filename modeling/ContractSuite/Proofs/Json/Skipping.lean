import ContractSuite.Proofs.Json.Values

namespace ContractSuite.Json

theorem skipSpace_append {space t : List Char} {c : Char} (spaces : IsSpace space) (solid : isSpace c = false) :
    skipSpace (space ++ c :: t) = c :: t := by
  unfold skipSpace
  rw [List.dropWhile_append_of_pos spaces, List.dropWhile_cons_of_neg (by simp [solid])]

theorem Frame.isSpace_opening (frame : Frame) : isSpace frame.opening = false := by
  cases frame <;> decide

theorem Frame.isSpace_closing (frame : Frame) : isSpace frame.closing = false := by
  cases frame <;> decide

/-- What may stand behind a value: nothing, white space, a comma or an end. -/
def EndsValue (rest : List Char) : Prop :=
  ∀ c t, rest = c :: t → isSpace c = true ∨ c = ',' ∨ c = ']' ∨ c = '}'

namespace EndsValue

variable {t : List Char}

theorem nil : EndsValue [] := fun _ _ same => nomatch same

theorem comma (t : List Char) : EndsValue (',' :: t) := by
  intro c u same
  cases same
  exact Or.inr (Or.inl rfl)

theorem closing (frame : Frame) (t : List Char) : EndsValue (frame.closing :: t) := by
  intro c u same
  cases same
  cases frame with
  | list => exact Or.inr (Or.inr (Or.inl rfl))
  | object => exact Or.inr (Or.inr (Or.inr rfl))

theorem behind_space {space : List Char} (ends : EndsValue t) (isSpace : IsSpace space) : EndsValue (space ++ t) := by
  cases space with
  | nil => exact ends
  | cons c space =>
    intro d u same
    cases same
    exact Or.inl (isSpace c List.mem_cons_self)

/-- No number goes on there. -/
theorem head {c : Char} (ends : EndsValue (c :: t)) : c.isDigit = false ∧ c ≠ '.' ∧ c ≠ 'e' ∧ c ≠ 'E' := by
  have either := ends c t rfl
  simp only [isSpace, Bool.or_eq_true, beq_iff_eq] at either
  rcases either with (((rfl | rfl) | rfl) | rfl) | rfl | rfl | rfl <;> decide

end EndsValue

theorem solid_of_digit {c : Char} (digit : c.isDigit = true) : isSpace c = false ∧ c ≠ ']' := by
  have notEnd (ending : isSpace c = true ∨ c = ']') : False := by
    have ends : EndsValue [c] := by
      intro d u same
      cases same
      exact ending.imp_right fun bracket => Or.inr (Or.inl bracket)
    rw [ends.head.1] at digit
    cases digit
  exact ⟨Bool.not_eq_true _ ▸ fun space => notEnd (Or.inl space), fun bracket => notEnd (Or.inr bracket)⟩

theorem word_append (letters rest : List Char) : word letters (letters ++ rest) = .ok rest := by
  induction letters with
  | nil => rfl
  | cons c letters ih =>
    rw [List.cons_append]
    unfold word
    rw [if_pos rfl, ih]

namespace Number

variable {digits rest : List Char}

/-- No digit stands at the front. -/
def NoDigit (rest : List Char) : Prop :=
  ∀ c t, rest = c :: t → c.isDigit = false

theorem noDigit_cons {c : Char} {t : List Char} (noDigit : c.isDigit = false) : NoDigit (c :: t) := by
  intro d u same
  cases same
  exact noDigit

theorem takeDigits_append (isDigit : ∀ c ∈ digits, c.isDigit = true) (noDigit : NoDigit rest) :
    takeDigits (digits ++ rest) = (digits, rest) := by
  unfold takeDigits
  rw [List.takeWhile_append_of_pos isDigit, List.dropWhile_append_of_pos isDigit]
  cases rest with
  | nil => simp
  | cons c t =>
    have solid : ¬c.isDigit = true := by simp [noDigit c t rfl]
    rw [List.takeWhile_cons_of_neg solid, List.dropWhile_cons_of_neg solid, List.append_nil]

theorem skipDigits_append (isDigits : IsDigits digits) (noDigit : NoDigit rest) :
    skipDigits (digits ++ rest) = .ok rest := by
  obtain ⟨ne, isDigit⟩ := isDigits
  have taken := takeDigits_append isDigit noDigit
  cases digits with
  | nil => exact absurd rfl ne
  | cons c more =>
    rw [List.cons_append] at taken ⊢
    unfold skipDigits
    dsimp only
    rw [if_pos (isDigit c List.mem_cons_self), taken]

theorem wholeDigits_append {whole : List Char} (isWhole : IsWhole whole) (noDigit : NoDigit rest) :
    wholeDigits (whole ++ rest) = .ok (whole, rest) := by
  rcases isWhole with rfl | ⟨⟨ne, isDigit⟩, nonzero⟩
  · cases rest with
    | nil => rfl
    | cons d t => simp [wholeDigits, noDigit d t rfl]
  · cases whole with
    | nil => exact absurd rfl ne
    | cons c more =>
      have notZero : c ≠ '0' := fun same => nonzero (by rw [same]; rfl)
      obtain ⟨first, others⟩ := List.forall_mem_cons.mp isDigit
      rw [List.cons_append]
      unfold wholeDigits
      dsimp only
      rw [if_neg notZero, if_pos first, takeDigits_append others noDigit]

theorem noDigit_of_endsValue (ends : EndsValue rest) : NoDigit rest :=
  fun _ _ same => (EndsValue.head (same ▸ ends)).1

/-- No number goes on behind its whole part and its fraction. -/
theorem noDigit_of_exponent {exponent : List Char} (isExponent : IsExponent exponent) (ends : EndsValue rest) :
    NoDigit (exponent ++ rest) ∧ ∀ t, exponent ++ rest ≠ '.' :: t := by
  have letters {letter : Char} {t : List Char} (isLetter : letter = 'e' ∨ letter = 'E') :
      NoDigit (letter :: t) ∧ ∀ u, letter :: t ≠ '.' :: u := by
    rcases isLetter with rfl | rfl <;> exact ⟨noDigit_cons (by decide), by simp⟩
  cases isExponent with
  | absent =>
    rw [List.nil_append]
    exact ⟨noDigit_of_endsValue ends, fun t same => (EndsValue.head (same ▸ ends)).2.1 rfl⟩
  | bare isLetter _ => exact letters isLetter
  | signed isLetter _ _ => exact letters isLetter

theorem exponentSign_append (isDigits : IsDigits digits) : exponentSign (digits ++ rest) = (false, digits ++ rest) := by
  obtain ⟨ne, isDigit⟩ := isDigits
  cases digits with
  | nil => exact absurd rfl ne
  | cons c more =>
    have digit := isDigit c List.mem_cons_self
    rw [List.cons_append]
    unfold exponentSign
    split
    · next same =>
      cases same
      cases digit
    · next same =>
      cases same
      cases digit
    · rfl

theorem skipExponent_append {exponent : List Char} (isExponent : IsExponent exponent) (ends : EndsValue rest) :
    (match exponent ++ rest with
      | c :: t => if c = 'e' ∨ c = 'E' then skipDigits (exponentSign t).2 else .ok (c :: t)
      | [] => .ok []) = Except.ok rest := by
  have noDigit := noDigit_of_endsValue ends
  cases isExponent with
  | absent =>
    cases rest with
    | nil => rfl
    | cons c t =>
      obtain ⟨_, _, notLower, notUpper⟩ := ends.head
      simp [notLower, notUpper]
  | bare isLetter isDigits =>
    rw [List.cons_append]
    dsimp only
    rw [if_pos isLetter, exponentSign_append isDigits, skipDigits_append isDigits noDigit]
  | signed isLetter isSign isDigits =>
    rw [List.cons_append, List.cons_append]
    dsimp only
    rw [if_pos isLetter]
    rcases isSign with rfl | rfl <;> exact skipDigits_append isDigits noDigit

theorem skip_append {number : List Char} (isUnsigned : IsUnsigned number) (ends : EndsValue rest) :
    skip (number ++ rest) = .ok rest := by
  cases isUnsigned with
  | @mk whole fraction exponent isWhole isFraction isExponent =>
    obtain ⟨noDigit, noPoint⟩ := noDigit_of_exponent isExponent ends
    have skipped := skipExponent_append isExponent ends
    rw [List.append_assoc, List.append_assoc]
    unfold skip
    cases isFraction with
    | absent =>
      rw [List.nil_append, wholeDigits_append isWhole noDigit]
      simp only [bind, Except.bind]
      generalize exponent ++ rest = t at skipped noPoint ⊢
      cases t with
      | nil => exact skipped
      | cons c u =>
        have notPoint : c ≠ '.' := fun same => noPoint u (by rw [same])
        simpa [notPoint] using skipped
    | point isDigits =>
      rw [List.cons_append, wholeDigits_append isWhole (noDigit_cons (by decide))]
      simp only [bind, Except.bind]
      rw [skipDigits_append isDigits noDigit]
      exact skipped

end Number

namespace Quotation

theorem skipBody_digits {digits : List Char} {count start final : Nat} (value : Nat) (high? : Option Nat)
    (rest : List Char) (length : count + digits.length = 4) (few : count < 4)
    (valued : digits.foldlM (fun n c => (Text.hexDigit? c).map (n * 16 + ·)) start = some final) :
    skipBody (.digits count value high?) (digits ++ rest) = skipBody .plain rest := by
  induction digits generalizing count value high? start with
  | nil => exact absurd length (Nat.ne_of_lt few)
  | cons c digits ih =>
    rw [List.foldlM_cons] at valued
    obtain ⟨next, mapped, valued⟩ := Option.bind_eq_some_iff.mp valued
    obtain ⟨d, digit, rfl⟩ := Option.map_eq_some_iff.mp mapped
    rw [List.length_cons] at length
    have isDigit : ¬(Text.hexDigit? c).isNone = true := by simp [digit]
    rw [List.cons_append, skipBody, if_neg isDigit]
    by_cases more : count < 3
    · rw [if_pos more]
      exact ih 0 none (by omega) (by omega) valued
    · rw [if_neg more]
      obtain rfl : digits = [] := List.eq_nil_of_length_eq_zero (by omega)
      rfl

theorem skip_append {quote : List Char} (isQuote : IsQuote quote) (rest : List Char) :
    skip (quote ++ '"' :: rest) = .ok rest := by
  unfold skip
  induction isQuote with
  | nil => simp [skipBody]
  | @plain c s isPlain _ ih =>
    obtain ⟨notQuote, notBackslash, noControl⟩ := isPlain
    simp [skipBody, notQuote, notBackslash, Nat.not_lt.mpr noControl, ih]
  | @short c s escape _ ih =>
    have notCode : c ≠ 'u' := by
      rintro rfl
      cases escape
    simp [skipBody, notCode, escape, ih]
  | @code digits value s codes _ ih =>
    have length : 0 + digits.length = 4 := by rw [codes.1]
    have skipped := skipBody_digits 0 none (s ++ '"' :: rest) length (by decide) codes.2
    rw [ih] at skipped
    simp [skipBody, enterDigits_of_codes codes, skipped]

end Quotation

theorem exists_digit {number : List Char} (isUnsigned : IsUnsigned number) :
    ∃ c t, number = c :: t ∧ c.isDigit = true := by
  cases isUnsigned with
  | @mk whole fraction exponent isWhole _ _ =>
    rcases isWhole with rfl | ⟨⟨ne, isDigit⟩, _⟩
    · exact ⟨_, _, rfl, by decide⟩
    · cases whole with
      | nil => exact absurd rfl ne
      | cons c more => exact ⟨c, _, rfl, isDigit c List.mem_cons_self⟩

/-- A value starts with a character that is neither white space nor the end of a list. -/
theorem exists_head {value : List Char} (isValue : IsValue value) :
    ∃ c t, value = c :: t ∧ isSpace c = false ∧ c ≠ ']' := by
  cases isValue with
  | number isUnsigned =>
    obtain ⟨c, t, rfl, digit⟩ := exists_digit isUnsigned
    obtain ⟨solid, notEnd⟩ := solid_of_digit digit
    exact ⟨c, t, rfl, solid, notEnd⟩
  | @nest frame _ _ _ _ _ => cases frame <;> exact ⟨_, _, rfl, by decide, by decide⟩
  | _ => exact ⟨_, _, rfl, by decide, by decide⟩

section Frames

variable {isFirst : Bool} {s t rest space : List Char} {c : Char}

theorem colon_append (spaces : IsSpace space) : colon (space ++ ':' :: rest) = .ok rest := by
  have solid : isSpace ':' = false := by decide
  simp [colon, skipSpace_append spaces solid]

theorem closeList_append (spaces : IsSpace space) : closeList (space ++ ']' :: rest) = .ok rest := by
  have solid : isSpace ']' = false := by decide
  simp [closeList, skipSpace_append spaces solid]

theorem finish_of_isSpace (spaces : IsSpace space) : finish space = .ok () := by
  have skipped : skipSpace (space ++ []) = [] := List.dropWhile_append_of_pos spaces
  rw [List.append_nil] at skipped
  simp [finish, skipped]

/-- What follows is behind white space, or behind a comma and white space on both sides of it. -/
theorem skipSpace_of_gap (gap : Gap isFirst s (space ++ c :: t)) (spaces : IsSpace space) (solid : isSpace c = false) :
    if isFirst then skipSpace s = c :: t else ∃ u, skipSpace s = ',' :: u ∧ skipSpace u = c :: t := by
  have behind := skipSpace_append (t := t) spaces solid
  cases isFirst with
  | true =>
    subst gap
    exact behind
  | false =>
    obtain ⟨before, isBefore, rfl⟩ := gap
    exact ⟨_, skipSpace_append isBefore (by decide), behind⟩

theorem nextItem_of_gap (gap : Gap isFirst s (space ++ c :: t)) (spaces : IsSpace space) (solid : isSpace c = false)
    (notEnd : c ≠ ']') : nextItem isFirst s = .ok (.further (c :: t)) := by
  have skipped := skipSpace_of_gap gap spaces solid
  cases isFirst with
  | true =>
    have first : skipSpace s = c :: t := skipped
    simp [nextItem, first]
  | false =>
    obtain ⟨u, comma, further⟩ := skipped
    simp [nextItem, comma, further, notEnd]

theorem nextMember_of_gap (gap : Gap isFirst s (space ++ '"' :: t)) (spaces : IsSpace space) :
    nextMember isFirst s = .ok (.further t) := by
  have skipped := skipSpace_of_gap gap spaces (by decide)
  cases isFirst with
  | true =>
    have first : skipSpace s = '"' :: t := skipped
    simp [nextMember, first]
  | false =>
    obtain ⟨u, comma, further⟩ := skipped
    simp [nextMember, comma, further]

theorem nextItem_closing (spaces : IsSpace space) : nextItem isFirst (space ++ ']' :: rest) = .ok (.closed rest) := by
  have solid : isSpace ']' = false := by decide
  simp [nextItem, skipSpace_append spaces solid]

theorem nextMember_closing (spaces : IsSpace space) :
    nextMember isFirst (space ++ '}' :: rest) = .ok (.closed rest) := by
  have solid : isSpace '}' = false := by decide
  simp [nextMember, skipSpace_append spaces solid]

/-- The end of a frame is found there. -/
theorem enterFrame_closing {frame : Frame} (spaces : IsSpace space) :
    enterFrame frame isFirst (space ++ frame.closing :: rest) = .ok (.closed rest) := by
  cases frame with
  | list => exact nextItem_closing spaces
  | object =>
    unfold enterFrame Frame.closing
    dsimp only
    rw [nextMember_closing spaces]

/-- What stands in front of the value of an entry is taken, save white space. -/
theorem enterFrame_further {frame : Frame} {front : List Char} (gap : Gap isFirst s (front ++ c :: t))
    (isFront : frame.IsFront front) (solid : isSpace c = false) (notEnd : c ≠ ']') :
    ∃ space, IsSpace space ∧ enterFrame frame isFirst s = .ok (.further (space ++ c :: t)) := by
  cases frame with
  | list => exact ⟨[], isSpace_nil, nextItem_of_gap gap isFront solid notEnd⟩
  | object =>
    cases isFront with
    | @mk before quote middle after isBefore isQuote isMiddle isAfter =>
      refine ⟨after, isAfter, ?_⟩
      have gapToName : Gap isFirst s (before ++ '"' :: (quote ++ '"' :: (middle ++ ':' :: (after ++ c :: t)))) := by
        simpa using gap
      unfold enterFrame
      dsimp only
      rw [nextMember_of_gap gapToName isBefore]
      dsimp only
      rw [Quotation.skip_append isQuote]
      dsimp only
      rw [colon_append isMiddle]
      rfl

end Frames

theorem Entry.length_le_further (entries : List Entry) : entries.length ≤ (further entries).length := by
  induction entries with
  | nil => exact Nat.le_refl _
  | cons e entries ih =>
    have same : further (e :: entries) = ',' :: e.text ++ further entries := rfl
    rw [same, List.length_append, List.length_cons, List.length_cons]
    omega

namespace Completes

variable {frame : Frame} {isFirst : Bool} {entries : List Entry} {s rest : List Char}

theorem of_nil (completes : Completes frame isFirst [] s rest) :
    ∃ space, IsSpace space ∧ s = space ++ frame.closing :: rest := by
  obtain ⟨last, isLast, whole⟩ := completes
  cases isFirst with
  | true => exact ⟨last, isLast, whole⟩
  | false =>
    obtain ⟨after, isAfter, rfl⟩ := whole
    exact ⟨after ++ last, isAfter.append isLast, by simp [Entry.further]⟩

theorem of_cons {e : Entry} (completes : Completes frame isFirst (e :: entries) s rest) (isSpace : IsSpace e.space) :
    ∃ t, Gap isFirst s (e.front ++ e.value ++ t) ∧ Completes frame false entries t rest := by
  obtain ⟨last, isLast, whole⟩ := completes
  refine ⟨e.space ++ Entry.further entries ++ last ++ frame.closing :: rest, ?_, last, isLast, e.space, isSpace, rfl⟩
  cases isFirst with
  | true =>
    have same : s = Entry.joined (e :: entries) ++ last ++ frame.closing :: rest := whole
    simpa [Gap, Entry.joined, Entry.text] using same
  | false =>
    obtain ⟨after, isAfter, rfl⟩ := whole
    exact ⟨after, isAfter, by simp [Entry.further, Entry.text]⟩

theorem endsValue (completes : Completes frame false entries s rest) : EndsValue s := by
  obtain ⟨last, isLast, after, isAfter, rfl⟩ := completes
  rw [List.append_assoc, List.append_assoc]
  refine EndsValue.behind_space ?_ isAfter
  cases entries with
  | nil => exact (EndsValue.closing frame rest).behind_space isLast
  | cons e more => exact EndsValue.comma _

/-- There is a comma between two entries, and an end behind the last. -/
theorem length_le (completes : Completes frame isFirst entries s rest) :
    entries.length + rest.length + (if isFirst then 0 else 1) ≤ s.length := by
  obtain ⟨last, _, whole⟩ := completes
  cases isFirst with
  | true =>
    obtain rfl : s = Entry.joined entries ++ last ++ frame.closing :: rest := whole
    cases entries with
    | nil =>
      simp only [List.length_nil, List.length_append, List.length_cons, if_true]
      omega
    | cons e more =>
      have commas := Entry.length_le_further more
      simp only [Entry.joined, List.length_append, List.length_cons, if_true]
      omega
  | false =>
    obtain ⟨after, _, rfl⟩ := whole
    have commas := Entry.length_le_further entries
    simp only [List.length_append, List.length_cons, Bool.false_eq_true, if_false]
    omega

end Completes

/-- The label of a member is taken up to white space in front of the value. -/
theorem exists_label {isFirst : Bool} {s t name : List Char} {e : Entry} (label : IsLabel (Spells · name) e.front)
    (gap : Gap isFirst s (e.front ++ e.value ++ t)) :
    ∃ opened named space, nextMember isFirst s = .ok (.further opened) ∧ Quotation.read opened = .ok (name, named) ∧
      colon named = .ok (space ++ e.value ++ t) ∧ IsSpace space := by
  generalize e.front = front at label gap
  cases label with
  | @mk before quote middle after isBefore spells isMiddle isAfter =>
    have gapToName : Gap isFirst s (before ++ '"' :: (quote ++ '"' :: (middle ++ ':' :: (after ++ e.value ++ t)))) := by
      simpa using gap
    exact ⟨_, _, after, nextMember_of_gap gapToName isBefore, Quotation.read_of_spells spells _,
      colon_append isMiddle, isAfter⟩

/-- A value is skipped in a number of steps for which its length is enough. -/
def Skips (value : List Char) : Prop :=
  ∀ space rest, IsSpace space → EndsValue rest → ∃ steps, steps ≤ 2 * value.length ∧ ∀ fuel frames,
    skipFrom (fuel + steps) .atValue frames (space ++ (value ++ rest)) = skipFrom fuel (.inFrame false) frames rest

theorem Gap.length_le {isFirst : Bool} {s t : List Char} (gap : Gap isFirst s t) :
    t.length + (if isFirst then 0 else 1) ≤ s.length := by
  cases isFirst with
  | true =>
    subst gap
    exact Nat.le_refl _
  | false =>
    obtain ⟨space, _, rfl⟩ := gap
    simp

/-- A frame is skipped to its end if its values are. -/
theorem skipFrom_inFrame {frame : Frame} {isFirst : Bool} {entries : List Entry} {s rest : List Char}
    (completes : Completes frame isFirst entries s rest) (values : Entry.Are frame.IsFront IsValue entries)
    (skips : ∀ e ∈ entries, Skips e.value) :
    ∃ steps, steps + 2 * rest.length ≤ 2 * s.length + (if isFirst then 1 else 0) ∧
      ∀ fuel frames, skipFrom (fuel + steps) (.inFrame isFirst) (frame :: frames) s =
        skipFrom fuel (.inFrame false) frames rest := by
  induction entries generalizing isFirst s with
  | nil =>
    obtain ⟨space, isSpace, rfl⟩ := completes.of_nil
    refine ⟨1, ?_, fun fuel frames => ?_⟩
    · rw [List.length_append, List.length_cons]
      omega
    · rw [skipFrom, enterFrame_closing isSpace]
  | cons e entries ih =>
    obtain ⟨⟨⟨isFront, isSpace⟩, isValue⟩, valuesLater⟩ := List.forall_mem_cons.mp values
    obtain ⟨skipsHere, skipsLater⟩ := List.forall_mem_cons.mp skips
    obtain ⟨t, gap, more⟩ := completes.of_cons isSpace
    obtain ⟨stepsLater, few, later⟩ := ih more valuesLater skipsLater
    have longer := gap.length_le
    obtain ⟨c, u, same, solid, notEnd⟩ := exists_head isValue
    have gapToValue := gap
    rw [List.append_assoc, same, List.cons_append] at gapToValue
    obtain ⟨space, isSpace, entered⟩ := enterFrame_further gapToValue isFront solid notEnd
    rw [← List.cons_append, ← same] at entered
    obtain ⟨steps, fewHere, here⟩ := skipsHere space t isSpace more.endsValue
    refine ⟨stepsLater + steps + 1, ?_, fun fuel frames => ?_⟩
    · rw [List.length_append, List.length_append] at longer
      simp only [Bool.false_eq_true, if_false] at few
      cases isFirst <;> simp only [Bool.false_eq_true, if_false, if_true] at longer ⊢ <;> omega
    · rw [← Nat.add_assoc, ← Nat.add_assoc, skipFrom, entered]
      dsimp only
      rw [here, later]

theorem skipScalar_digit {c : Char} {t : List Char} (digit : c.isDigit = true) :
    skipScalar (c :: t) = Number.skip (c :: t) := by
  unfold skipScalar
  split
  · next same => cases same
  · next same => cases same; cases digit
  · next same => cases same; cases digit
  · next same => cases same; cases digit
  · next same => cases same; cases digit
  · next same => cases same; cases digit
  · next same =>
    cases same
    rw [if_pos digit]

theorem skipFrom_scalar {s t rest : List Char} (skipped : skipSpace s = t) (scalar : skipScalar t = .ok rest)
    (fuel : Nat) (frames : List Frame) :
    skipFrom (fuel + 1) .atValue frames s = skipFrom fuel (.inFrame false) frames rest := by
  rw [skipFrom, skipped]
  split
  · cases scalar
  · cases scalar
  · rw [scalar]

/-- A value in which nothing is nested is skipped in one step. -/
theorem skips_of_scalar {c : Char} {value : List Char} (solid : isSpace c = false)
    (scalar : ∀ rest, EndsValue rest → skipScalar (c :: value ++ rest) = .ok rest) : Skips (c :: value) := by
  intro space rest spaces ends
  refine ⟨1, ?_, fun fuel frames => ?_⟩
  · rw [List.length_cons]
    omega
  · exact skipFrom_scalar (skipSpace_append spaces solid) (scalar rest ends) fuel frames

theorem skips_of_isValue {value : List Char} (isValue : IsValue value) : Skips value := by
  induction isValue with
  | null => exact skips_of_scalar (by decide) fun rest _ => word_append ['u', 'l', 'l'] rest
  | true => exact skips_of_scalar (by decide) fun rest _ => word_append ['r', 'u', 'e'] rest
  | false => exact skips_of_scalar (by decide) fun rest _ => word_append ['a', 'l', 's', 'e'] rest
  | number isUnsigned =>
    obtain ⟨c, t, rfl, digit⟩ := exists_digit isUnsigned
    refine skips_of_scalar (solid_of_digit digit).1 fun rest ends => ?_
    exact (skipScalar_digit digit).trans (Number.skip_append isUnsigned ends)
  | negative isUnsigned => exact skips_of_scalar (by decide) fun rest ends => Number.skip_append isUnsigned ends
  | @quoted quote isQuote =>
    refine skips_of_scalar (by decide) fun rest _ => ?_
    have skipped := Quotation.skip_append isQuote rest
    simpa [skipScalar] using skipped
  | @nest frame entries last fits values isLast ih =>
    intro space rest spaces ends
    have completes : Completes frame true entries (Entry.joined entries ++ last ++ frame.closing :: rest) rest :=
      ⟨last, isLast, rfl⟩
    obtain ⟨steps, few, skipped⟩ := skipFrom_inFrame completes (fun e member => ⟨fits e member, values e member⟩) ih
    refine ⟨steps + 1, ?_, fun fuel frames => ?_⟩
    · simp only [Frame.around, List.length_append, List.length_cons, if_true] at few ⊢
      omega
    · have opened : skipSpace (space ++ (frame.around entries last ++ rest)) =
          frame.opening :: (Entry.joined entries ++ last ++ frame.closing :: rest) := by
        rw [← skipSpace_append spaces frame.isSpace_opening]
        simp [Frame.around]
      rw [← Nat.add_assoc, skipFrom, opened]
      cases frame <;> exact skipped fuel frames

theorem skipValue_append {space value rest : List Char} (isValue : IsValue value) (isSpace : IsSpace space)
    (ends : EndsValue rest) : skipValue (space ++ value ++ rest) = .ok rest := by
  obtain ⟨steps, few, skips⟩ := skips_of_isValue isValue space rest isSpace ends
  have enough : ∃ fuel, 2 * (space ++ value ++ rest).length + 2 = fuel + 1 + steps := by
    refine ⟨2 * (space ++ value ++ rest).length + 1 - steps, ?_⟩
    simp only [List.length_append]
    omega
  obtain ⟨fuel, same⟩ := enough
  unfold skipValue
  rw [same, List.append_assoc, skips]
  rfl

end ContractSuite.Json
