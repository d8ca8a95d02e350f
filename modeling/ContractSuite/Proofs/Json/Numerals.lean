import ContractSuite.Proofs.Decimal.Rounding
import ContractSuite.Proofs.Json.Grammar

namespace ContractSuite.Json

open Decimal

namespace Number

/-- The number that digits continue, and what they make of it. -/
def amountFrom (n : ℕ) (digits : List Char) : ℕ :=
  digits.foldl (fun n c => n * 10 + digit c) n

/-- What digits amount to. -/
def amount (digits : List Char) : ℕ :=
  amountFrom 0 digits

/-- Digits behind the point, and how they are written. -/
inductive IsFractionOf : List Char → List Char → Prop
  | absent : IsFractionOf [] []
  | point {digits} : IsDigits digits → IsFractionOf digits ('.' :: digits)

/-- A power of ten, and how it is written as an exponent. -/
inductive IsExponentOf : ℤ → List Char → Prop
  | absent : IsExponentOf 0 []
  | bare {letter digits} : letter = 'e' ∨ letter = 'E' → IsDigits digits →
      IsExponentOf (amount digits) (letter :: digits)
  | plus {letter digits} : letter = 'e' ∨ letter = 'E' → IsDigits digits →
      IsExponentOf (amount digits) (letter :: '+' :: digits)
  | minus {letter digits} : letter = 'e' ∨ letter = 'E' → IsDigits digits →
      IsExponentOf (-amount digits) (letter :: '-' :: digits)

end Number

/-- A number without a sign: its digits before and behind the point, and its power of ten. -/
structure Numeral where
  whole : List Char
  decimals : List Char
  power : ℤ

namespace Numeral

open Number

/-- Between a number without a sign and its text. -/
inductive Writes : Numeral → List Char → Prop
  | mk {whole decimals power fraction exponent} : IsWhole whole → IsFractionOf decimals fraction →
      IsExponentOf power exponent → Writes ⟨whole, decimals, power⟩ (whole ++ fraction ++ exponent)

/-- The exact size of a number. -/
def size (n : Numeral) : ℚ :=
  amount (n.whole ++ n.decimals) * 10 ^ (n.power - n.decimals.length)

/-- What the reader makes of the digits. -/
def scaled (n : Numeral) : Scaled :=
  let x := decimalPart n.decimals (wholePart n.whole { significand := 0, exponent := 0 })
  { x with exponent := x.exponent + n.power }

/-- Holds when what the reader makes of the digits is not too great for a double. -/
def IsInRange (n : Numeral) : Prop :=
  (Double.ofDecimal? n.scaled.significand n.scaled.exponent).isSome = true

end Numeral

theorem Number.IsFractionOf.isFraction {digits s : List Char} (isFraction : IsFractionOf digits s) : IsFraction s := by
  cases isFraction with
  | absent => exact .absent
  | point isDigits => exact .point isDigits

theorem Number.IsExponentOf.isExponent {power : ℤ} {s : List Char} (isExponent : IsExponentOf power s) :
    IsExponent s := by
  cases isExponent with
  | absent => exact .absent
  | bare isLetter isDigits => exact .bare isLetter isDigits
  | plus isLetter isDigits => exact .signed isLetter (Or.inl rfl) isDigits
  | minus isLetter isDigits => exact .signed isLetter (Or.inr rfl) isDigits

/-- The numbers of the grammar are those that are written so. -/
theorem isUnsigned_iff {s : List Char} : IsUnsigned s ↔ ∃ n : Numeral, n.Writes s := by
  constructor
  · intro isUnsigned
    cases isUnsigned with
    | @mk whole fraction exponent isWhole isFraction isExponent =>
      have ofFraction : ∃ decimals, Number.IsFractionOf decimals fraction := by
        cases isFraction with
        | absent => exact ⟨_, .absent⟩
        | point isDigits => exact ⟨_, .point isDigits⟩
      have ofExponent : ∃ power, Number.IsExponentOf power exponent := by
        cases isExponent with
        | absent => exact ⟨_, .absent⟩
        | bare isLetter isDigits => exact ⟨_, .bare isLetter isDigits⟩
        | signed isLetter isSign isDigits =>
          rcases isSign with rfl | rfl
          · exact ⟨_, .plus isLetter isDigits⟩
          · exact ⟨_, .minus isLetter isDigits⟩
      obtain ⟨decimals, isFraction⟩ := ofFraction
      obtain ⟨power, isExponent⟩ := ofExponent
      exact ⟨_, .mk isWhole isFraction isExponent⟩
  · rintro ⟨n, writes⟩
    cases writes with
    | mk isWhole isFraction isExponent => exact .mk isWhole isFraction.isFraction isExponent.isExponent

namespace Number

theorem amountFrom_append (n : ℕ) (digits more : List Char) :
    amountFrom n (digits ++ more) = amountFrom (amountFrom n digits) more := List.foldl_append

/-- Every further digit makes a number ten times as great or more. -/
theorem le_amountFrom (n : ℕ) (digits : List Char) : n * 10 ^ digits.length ≤ amountFrom n digits := by
  induction digits generalizing n with
  | nil => simp [amountFrom]
  | cons c more ih =>
    have step : (n * 10 + digit c) * 10 ^ more.length ≤ amountFrom (n * 10 + digit c) more := ih _
    have grows : n * 10 * 10 ^ more.length ≤ (n * 10 + digit c) * 10 ^ more.length :=
      Nat.mul_le_mul_right _ (Nat.le_add_right _ _)
    calc n * 10 ^ (c :: more).length
      _ = n * 10 * 10 ^ more.length := by rw [List.length_cons, pow_succ']; ring
      _ ≤ (n * 10 + digit c) * 10 ^ more.length := grows
      _ ≤ amountFrom n (c :: more) := step

/-- Where digits before the point are cut off, the significand and the next digit did not fit. -/
theorem wholePart_spec (digits : List Char) (x : Scaled) (fits : x.significand ≤ significandLimit) :
    (wholePart digits x).significand ≤ significandLimit ∧ ∃ cut : ℕ,
      (wholePart digits x).exponent = x.exponent + cut ∧
      (wholePart digits x).significand * 10 ^ cut ≤ amountFrom x.significand digits ∧
      (cut = 0 → (wholePart digits x).significand = amountFrom x.significand digits) ∧
      (0 < cut → significandLimit * 10 ^ (cut - 1) ≤ amountFrom x.significand digits) := by
  induction digits generalizing x with
  | nil => exact ⟨fits, 0, by simp [wholePart], by simp [wholePart, amountFrom], fun _ => rfl, nofun⟩
  | cons c more ih =>
    unfold wholePart
    dsimp only
    split
    · next tooGreat =>
      have atLeast := le_amountFrom (x.significand * 10 + digit c) more
      refine ⟨fits, more.length + 1, by push_cast; rfl, ?_, nofun, fun _ => ?_⟩
      · calc x.significand * 10 ^ (more.length + 1)
          _ = x.significand * 10 * 10 ^ more.length := by ring
          _ ≤ (x.significand * 10 + digit c) * 10 ^ more.length := Nat.mul_le_mul_right _ (Nat.le_add_right _ _)
          _ ≤ amountFrom x.significand (c :: more) := atLeast
      · exact (Nat.mul_le_mul_right _ tooGreat.le).trans atLeast
    · next small => exact ih { x with significand := x.significand * 10 + digit c } (Nat.not_lt.mp small)

theorem decimalPart_spec (digits : List Char) (x : Scaled) (fits : x.significand ≤ significandLimit) :
    (decimalPart digits x).significand ≤ significandLimit ∧ ∃ kept : ℕ, kept ≤ digits.length ∧
      (decimalPart digits x).exponent = x.exponent - kept ∧
      (kept = 0 → (decimalPart digits x).significand = x.significand) ∧
      (decimalPart digits x).significand * 10 ^ (digits.length - kept) ≤ amountFrom x.significand digits := by
  induction digits generalizing x with
  | nil => exact ⟨fits, 0, Nat.le_refl _, by simp [decimalPart], fun _ => rfl, by simp [decimalPart, amountFrom]⟩
  | cons c more ih =>
    unfold decimalPart
    dsimp only
    split
    · exact ⟨fits, 0, Nat.zero_le _, by simp, fun _ => rfl, le_amountFrom x.significand (c :: more)⟩
    · next small =>
      obtain ⟨fits', kept, within, exponent, _, amount⟩ :=
        ih { significand := x.significand * 10 + digit c, exponent := x.exponent - 1 } (Nat.not_lt.mp small)
      refine ⟨fits', kept + 1, Nat.succ_le_succ within, ?_, nofun, ?_⟩
      · rw [exponent]
        push_cast
        ring
      · rw [List.length_cons, Nat.add_sub_add_right]
        exact amount

end Number

namespace Numeral

open Number

theorem significand_lt (n : Numeral) : n.scaled.significand < 2 ^ 64 := by
  have whole := (wholePart_spec n.whole { significand := 0, exponent := 0 } (Nat.zero_le _)).1
  have decimals := (decimalPart_spec n.decimals _ whole).1
  unfold scaled
  unfold significandLimit at decimals
  dsimp only
  omega

/-- Digits that have been cut off make what is left smaller. -/
theorem scaled_le_size (n : Numeral) : (n.scaled.significand : ℚ) * 10 ^ n.scaled.exponent ≤ n.size := by
  obtain ⟨fits, cut, wholeExponent, wholeLess, wholeSame, wholeCut⟩ :=
    wholePart_spec n.whole { significand := 0, exponent := 0 } (Nat.zero_le _)
  obtain ⟨fits', kept, within, exponent, same, less⟩ := decimalPart_spec n.decimals _ fits
  have grown := le_amountFrom (amountFrom 0 n.whole) n.decimals
  have digits : n.scaled.significand * 10 ^ (cut + (n.decimals.length - kept)) ≤ amount (n.whole ++ n.decimals) := by
    have all : amount (n.whole ++ n.decimals) = amountFrom (amountFrom 0 n.whole) n.decimals := amountFrom_append _ _ _
    rw [all]
    unfold scaled
    dsimp only at *
    rcases Nat.eq_zero_or_pos cut with none | some
    · rw [wholeSame none] at less
      rw [none, Nat.zero_add]
      rwa [wholeSame none] at *
    · rcases Nat.eq_zero_or_pos kept with noDecimals | decimals
      · rw [same noDecimals, noDecimals, Nat.sub_zero, pow_add, ← mul_assoc]
        exact (Nat.mul_le_mul_right _ wholeLess).trans grown
      · have bound : n.scaled.significand * 10 ^ (cut + (n.decimals.length - kept)) ≤
            significandLimit * 10 ^ (cut - 1) * 10 ^ n.decimals.length := by
          rw [mul_assoc, ← pow_add]
          exact Nat.mul_le_mul fits' (Nat.pow_le_pow_right (by decide) (by omega))
        exact bound.trans ((Nat.mul_le_mul_right _ (wholeCut some)).trans grown)
  have ten : (10 : ℚ) ≠ 0 := by norm_num
  have power : n.scaled.exponent = ((cut + (n.decimals.length - kept) : ℕ) : ℤ) + (n.power - n.decimals.length) := by
    have sum : n.scaled.exponent = cut - kept + n.power := by
      unfold scaled
      dsimp only
      rw [exponent, wholeExponent]
      ring
    rw [sum]
    push_cast [Nat.cast_sub within]
    ring
  have cast : (n.scaled.significand : ℚ) * 10 ^ (cut + (n.decimals.length - kept)) ≤ amount (n.whole ++ n.decimals) := by
    exact_mod_cast digits
  rw [power, zpow_add₀ ten, zpow_natCast, ← mul_assoc]
  exact mul_le_mul_of_nonneg_right cast (zpow_nonneg (by norm_num) _)

theorem isInRange_of_size_le {n : Numeral} (bound : n.size ≤ Double.safeSize) : n.IsInRange :=
  Double.ofDecimal?_isSome n.significand_lt (n.scaled_le_size.trans bound)

/-- An integer of 64 bits is never too great. -/
theorem isInRange_of_exponent {n : Numeral} (integer : n.scaled.exponent = 0) : n.IsInRange := by
  refine Double.ofDecimal?_isSome n.significand_lt ?_
  have fits : (n.scaled.significand : ℚ) < 2 ^ 64 := by exact_mod_cast n.significand_lt
  rw [integer, zpow_zero, mul_one]
  exact fits.le.trans Double.two_pow_le_safeSize

end Numeral

/-- Between a number with its sign and its exact value. -/
inductive Denotes : List Char → ℚ → Prop
  | unsigned {n : Numeral} {s : List Char} : n.Writes s → Denotes s n.size
  | negative {n : Numeral} {s : List Char} : n.Writes s → Denotes ('-' :: s) (-n.size)

namespace Denotes

variable {s : List Char} {value : ℚ}

theorem isValue (denotes : Denotes s value) : IsValue s := by
  cases denotes with
  | unsigned writes => exact .number (isUnsigned_iff.mpr ⟨_, writes⟩)
  | negative writes => exact .negative (isUnsigned_iff.mpr ⟨_, writes⟩)

theorem eq_zero (denotes : Denotes s value) (alone : s = ['0']) : value = 0 := by
  cases denotes with
  | unsigned writes =>
    cases writes with
    | @mk whole decimals power fraction exponent isWhole isFraction _ =>
      have isZero : whole = ['0'] ∧ fraction = [] := by
        rcases isWhole with zero | ⟨⟨nonempty, _⟩, nonzero⟩
        · rw [zero, List.append_assoc, List.cons_append, List.cons.injEq, List.nil_append] at alone
          exact ⟨zero, (List.append_eq_nil_iff.mp alone.2).1⟩
        · cases whole with
          | nil => exact absurd rfl nonempty
          | cons c more =>
            rw [List.append_assoc, List.cons_append, List.cons.injEq] at alone
            exact absurd (congrArg some alone.1) nonzero
      obtain ⟨rfl, rfl⟩ := isZero
      cases isFraction
      simp [Numeral.size, Number.amount, Number.amountFrom, Number.digit]
  | negative _ => cases alone

end Denotes

end ContractSuite.Json
