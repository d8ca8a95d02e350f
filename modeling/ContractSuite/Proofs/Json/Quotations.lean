import ContractSuite.Proofs.Json.Grammar

namespace ContractSuite.Json

namespace Quotation

/-- What has been read of an escape that is not complete. -/
inductive Pending : State → List Char → Prop
  | plain : Pending .plain []
  | escaped : Pending .escaped ['\\']
  | digits {count digits value} : count < 4 → Codes count digits value →
      Pending (.digits count value none) ('\\' :: 'u' :: digits)
  | secondBackslash {digits high} : Codes 4 digits high → IsHighHalf high →
      Pending (.secondBackslash high) ('\\' :: 'u' :: digits)
  | secondLetter {digits high} : Codes 4 digits high → IsHighHalf high →
      Pending (.secondLetter high) ('\\' :: 'u' :: digits ++ ['\\'])
  | secondDigits {digits high count digits' value} : Codes 4 digits high → IsHighHalf high → count < 4 →
      Codes count digits' value →
      Pending (.digits count value (some high)) ('\\' :: 'u' :: digits ++ '\\' :: 'u' :: digits')

theorem codes_nil : Codes 0 [] 0 := ⟨rfl, rfl⟩

theorem codes_concat {count value n : Nat} {digits : List Char} {c : Char} (codes : Codes count digits value)
    (digit : Text.hexDigit? c = some n) : Codes (count + 1) (digits ++ [c]) (value * 16 + n) := by
  obtain ⟨rfl, valued⟩ := codes
  refine ⟨List.length_append, ?_⟩
  unfold hexValue? at valued ⊢
  rw [List.foldlM_append, valued]
  simp [digit]

theorem state_of_enterDigits {high? : Option Nat} {t : List Char} {state : State}
    (entered : enterDigits high? t = .ok state) : state = .digits 0 0 high? := by
  unfold enterDigits at entered
  split at entered <;> cases entered
  rfl

theorem part_none (value : Nat) :
    part value none = if IsLowHalf value then .flaw else if IsHighHalf value then .half value
      else .whole (Char.ofNat value) := rfl

theorem part_some (value high : Nat) :
    part value (some high) = if IsLowHalf value then .whole (joinHalves high value) else .flaw := rfl

theorem of_part_none {value : Nat} {c : Char} (whole : part value none = .whole c) :
    ¬IsHighHalf value ∧ ¬IsLowHalf value ∧ c = Char.ofNat value := by
  rw [part_none] at whole
  split at whole
  · cases whole
  · next notLow =>
    split at whole
    · cases whole
    · next notHigh =>
      injection whole with same
      exact ⟨notHigh, notLow, same.symm⟩

theorem of_part_some {value high : Nat} {c : Char} (whole : part value (some high) = .whole c) :
    IsLowHalf value ∧ c = joinHalves high value := by
  rw [part_some] at whole
  split at whole
  · next isLow =>
    injection whole with same
    exact ⟨isLow, same.symm⟩
  · cases whole

theorem of_part_half {value high : Nat} {high? : Option Nat} (half : part value high? = .half high) :
    high? = none ∧ IsHighHalf value ∧ high = value := by
  cases high? with
  | none =>
    rw [part_none] at half
    split at half
    · cases half
    · split at half
      · next isHigh =>
        injection half with same
        exact ⟨rfl, isHigh, same.symm⟩
      · cases half
  | some _ =>
    rw [part_some] at half
    split at half <;> cases half

/-- The text from the last complete character on, read in this state, is a quote that spells what is added. -/
theorem spells_of_body {state : State} {before s name rest pending : List Char}
    (taken : body state before s = .ok (name, rest)) (isPending : Pending state pending) :
    ∃ quote added, pending ++ s = quote ++ '"' :: rest ∧ Spells quote added ∧ name = before.reverse ++ added := by
  have reversed {before : List Char} (c : Char) (added : List Char) :
      (c :: before).reverse ++ added = before.reverse ++ c :: added := by
    rw [List.reverse_cons, ← List.append_cons]
  -- Within an escape the character joins what is pending. With its last one the quote is longer by the whole escape.
  fun_induction body state before s generalizing pending with
  | case2 before rest =>
    cases isPending
    cases taken
    exact ⟨[], [], rfl, .nil, (List.append_nil _).symm⟩
  | case3 before s _ ih =>
    cases isPending
    exact ih taken .escaped
  | case5 before c s notQuote notBackslash noControl ih =>
    cases isPending
    have isPlain : IsPlain c := ⟨notQuote, notBackslash, Nat.not_lt.mp noControl⟩
    obtain ⟨quote, added, same, spells, rfl⟩ := ih taken .plain
    exact ⟨c :: quote, c :: added, congrArg (c :: ·) same, .plain isPlain spells, reversed c added⟩
  | case6 before s state entered ih =>
    cases isPending
    obtain rfl := state_of_enterDigits entered
    exact ih taken (.digits (by decide) codes_nil)
  | case8 before c s _ d escape ih =>
    cases isPending
    obtain ⟨quote, added, same, spells, rfl⟩ := ih taken .plain
    exact ⟨'\\' :: c :: quote, d :: added, congrArg ('\\' :: c :: ·) same, .short escape spells, reversed d added⟩
  | case11 count value high? before c s n digit next more =>
    rename_i ih
    cases isPending with
    | digits _ codes => simpa using ih taken (.digits (Nat.succ_lt_succ more) (codes_concat codes digit))
    | secondDigits codes isHigh _ codes' =>
      simpa using ih taken (.secondDigits codes isHigh (Nat.succ_lt_succ more) (codes_concat codes' digit))
  | case12 count value high? before c s n digit next more d whole =>
    rename_i ih
    obtain ⟨quote, added, same, spells, rfl⟩ := ih taken .plain
    cases isPending with
    | @digits _ digits _ few codes =>
      obtain rfl : count = 3 := by omega
      obtain ⟨notHigh, notLow, rfl⟩ := of_part_none whole
      refine ⟨_, _, ?_, .code (codes_concat codes digit) notHigh notLow spells, reversed _ added⟩
      rw [List.nil_append] at same
      simp [same]
    | @secondDigits digits high _ digits' _ codes isHigh few codes' =>
      obtain rfl : count = 3 := by omega
      obtain ⟨isLow, joined⟩ := of_part_some whole
      rw [joined]
      refine ⟨_, _, ?_, .pair codes isHigh (codes_concat codes' digit) isLow spells, reversed _ added⟩
      rw [List.nil_append] at same
      simp [same]
  | case13 count value high? before c s n digit next more high half =>
    rename_i ih
    obtain ⟨rfl, isHigh, rfl⟩ := of_part_half half
    cases isPending with
    | @digits _ digits _ few codes =>
      obtain rfl : count = 3 := by omega
      simpa using ih taken (.secondBackslash (codes_concat codes digit) isHigh)
  | case15 high before s ih =>
    cases isPending with
    | secondBackslash codes isHigh => simpa using ih taken (.secondLetter codes isHigh)
  | case17 high before s state entered ih =>
    obtain rfl := state_of_enterDigits entered
    cases isPending with
    | secondLetter codes isHigh => simpa using ih taken (.secondDigits codes isHigh (by decide) codes_nil)
  | _ => cases taken

theorem spells_of_read {s name rest : List Char} (taken : read s = .ok (name, rest)) :
    ∃ quote, s = quote ++ '"' :: rest ∧ Spells quote name := by
  obtain ⟨quote, added, same, spells, rfl⟩ := spells_of_body taken .plain
  exact ⟨quote, same, spells⟩

theorem length_le_byteLength (s : List Char) : s.length ≤ byteLength s := by
  have counted (n : Nat) : n + s.length ≤ s.foldl (fun n c => n + c.utf8Size) n := by
    induction s generalizing n with
    | nil => exact Nat.le_refl n
    | cons c s ih =>
      have further := ih (n + c.utf8Size)
      have positive := c.utf8Size_pos
      rw [List.length_cons, List.foldl_cons]
      omega
  have fromZero := counted 0
  rwa [Nat.zero_add] at fromZero

theorem enterDigits_of_codes {digits rest : List Char} {value : Nat} (codes : Codes 4 digits value)
    (high? : Option Nat) : enterDigits high? (digits ++ rest) = .ok (.digits 0 0 high?) := by
  have length := length_le_byteLength (digits ++ rest)
  rw [List.length_append, codes.1] at length
  unfold enterDigits
  rw [if_neg (by omega)]

/-- The digits of an escape are read to their end. -/
theorem body_digits {digits : List Char} {count value final : Nat} (high? : Option Nat) (before rest : List Char)
    (length : count + digits.length = 4) (few : count < 4)
    (valued : digits.foldlM (fun n c => (Text.hexDigit? c).map (n * 16 + ·)) value = some final) :
    body (.digits count value high?) before (digits ++ rest) = match part final high? with
      | .whole c => body .plain (c :: before) rest
      | .half high => body (.secondBackslash high) before rest
      | .flaw => .error .malformed := by
  induction digits generalizing count value with
  | nil => exact absurd length (Nat.ne_of_lt few)
  | cons c digits ih =>
    rw [List.foldlM_cons] at valued
    obtain ⟨next, mapped, valued⟩ := Option.bind_eq_some_iff.mp valued
    obtain ⟨d, digit, rfl⟩ := Option.map_eq_some_iff.mp mapped
    rw [List.length_cons] at length
    rw [List.cons_append, body, digit]
    dsimp only
    by_cases more : count < 3
    · rw [if_pos more]
      exact ih (by omega) (by omega) valued
    · rw [if_neg more]
      obtain rfl : digits = [] := List.eq_nil_of_length_eq_zero (by omega)
      cases valued
      rfl

theorem body_code {digits : List Char} {value : Nat} (codes : Codes 4 digits value) (before rest : List Char) :
    body .plain before ('\\' :: 'u' :: digits ++ rest) = match part value none with
      | .whole c => body .plain (c :: before) rest
      | .half high => body (.secondBackslash high) before rest
      | .flaw => .error .malformed := by
  have length : 0 + digits.length = 4 := by rw [codes.1]
  have digitsRead := body_digits none before rest length (by decide) codes.2
  rw [← digitsRead]
  simp [body, enterDigits_of_codes codes]

/-- What a quote spells is what is read of it. -/
theorem body_of_spells {quote name : List Char} (spells : Spells quote name) (before rest : List Char) :
    body .plain before (quote ++ '"' :: rest) = .ok (before.reverse ++ name, rest) := by
  induction spells generalizing before with
  | nil => simp [body]
  | plain isPlain _ ih =>
    obtain ⟨notQuote, notBackslash, noControl⟩ := isPlain
    rw [List.cons_append, body, if_neg notQuote, if_neg notBackslash, if_neg (Nat.not_lt.mpr noControl), ih]
    simp
  | @short c d s name escape _ ih =>
    have notCode : c ≠ 'u' := by
      rintro rfl
      cases escape
    simp [body, notCode, escape, ih]
  | @code digits value s name codes notHigh notLow _ ih =>
    rw [List.append_assoc, body_code codes, part_none, if_neg notLow, if_neg notHigh]
    simp [ih]
  | @pair digits high digits' low s name codes isHigh codes' isLow _ ih =>
    have notLow : ¬IsLowHalf high := fun isLow => by omega
    rw [List.append_assoc, body_code codes, part_none, if_neg notLow, if_pos isHigh]
    have length : 0 + digits'.length = 4 := by rw [codes'.1]
    have second := body_digits (some high) before (s ++ '"' :: rest) length (by decide) codes'.2
    rw [part_some, if_pos isLow] at second
    simp [body, enterDigits_of_codes codes', second, ih]

theorem read_of_spells {quote name : List Char} (spells : Spells quote name) (rest : List Char) :
    read (quote ++ '"' :: rest) = .ok (name, rest) :=
  body_of_spells spells [] rest

/-- What has been skipped of an escape that is not complete. The value of its digits is not kept. -/
inductive SkipPending : State → List Char → Prop
  | plain : SkipPending .plain []
  | escaped : SkipPending .escaped ['\\']
  | digits {count digits value} : count < 4 → Codes count digits value →
      SkipPending (.digits count 0 none) ('\\' :: 'u' :: digits)

theorem isQuote_of_skipBody {state : State} {s rest pending : List Char} (taken : skipBody state s = .ok rest)
    (isPending : SkipPending state pending) : ∃ quote, pending ++ s = quote ++ '"' :: rest ∧ IsQuote quote := by
  fun_induction skipBody state s generalizing pending with
  | case2 s state entered ih =>
    cases isPending
    obtain rfl := state_of_enterDigits entered
    exact ih taken (.digits (by decide) codes_nil)
  | case4 c s _ escape ih =>
    cases isPending
    obtain ⟨quote, same, isQuote⟩ := ih taken .plain
    exact ⟨'\\' :: c :: quote, congrArg ('\\' :: c :: ·) same, .short escape isQuote⟩
  | case7 count value high? c s digit ih =>
    cases isPending with
    | digits few codes =>
      obtain ⟨n, digit⟩ := Option.ne_none_iff_exists'.mp (mt Option.isNone_iff_eq_none.mpr digit)
      by_cases more : count < 3
      · rw [if_pos more] at taken ih
        simpa using ih taken (.digits (Nat.succ_lt_succ more) (codes_concat codes digit))
      · obtain rfl : count = 3 := by omega
        rw [if_neg more] at taken ih
        obtain ⟨quote, same, isQuote⟩ := ih taken .plain
        refine ⟨_, ?_, .code (codes_concat codes digit) isQuote⟩
        rw [List.nil_append] at same
        simp [same]
  | case8 state s notEscaped noDigits =>
    cases taken
    cases isPending with
    | plain => exact ⟨[], rfl, .nil⟩
    | escaped => exact absurd rfl notEscaped
    | digits => exact absurd rfl (noDigits _ _ _)
  | case9 state s notEscaped noDigits _ ih =>
    cases isPending with
    | plain => exact ih taken .escaped
    | escaped => exact absurd rfl notEscaped
    | digits => exact absurd rfl (noDigits _ _ _)
  | case11 state c s notEscaped noDigits notQuote notBackslash noControl ih =>
    cases isPending with
    | plain =>
      obtain ⟨quote, same, isQuote⟩ := ih taken .plain
      exact ⟨c :: quote, congrArg (c :: ·) same, .plain ⟨notQuote, notBackslash, Nat.not_lt.mp noControl⟩ isQuote⟩
    | escaped => exact absurd rfl notEscaped
    | digits => exact absurd rfl (noDigits _ _ _)
  | _ => cases taken

theorem isQuote_of_skip {s rest : List Char} (taken : skip s = .ok rest) :
    ∃ quote, s = quote ++ '"' :: rest ∧ IsQuote quote :=
  isQuote_of_skipBody taken .plain

end Quotation

end ContractSuite.Json
