import Mathlib.Algebra.Order.Field.Power
import Mathlib.Data.Rat.Floor
import Mathlib.Tactic.FieldSimp
import Mathlib.Tactic.Linarith
import Mathlib.Tactic.NormNum
import Mathlib.Tactic.Positivity
import Mathlib.Tactic.Ring
import ContractSuite.Decimal.Double

namespace ContractSuite.Decimal.Double

/-- The number that a double stands for. -/
def size (x : Double) : ℚ :=
  x.mantissa * 2 ^ x.exponent

theorem size_nonneg (x : Double) : 0 ≤ x.size :=
  mul_nonneg (Nat.cast_nonneg _) (zpow_nonneg two_pos.le _)

theorem zpow_two_of_neg {e : ℤ} (negative : e < 0) : (2 : ℚ) ^ e = ((2 : ℚ) ^ (-e).toNat)⁻¹ := by
  have whole : ((-e).toNat : ℤ) = -e := Int.toNat_of_nonneg (by omega)
  rw [← zpow_natCast, whole, zpow_neg, inv_inv]

theorem zpow_two_of_nonneg {e : ℤ} (nonneg : 0 ≤ e) : (2 : ℚ) ^ e = (2 : ℚ) ^ e.toNat := by
  rw [← zpow_natCast, Int.toNat_of_nonneg nonneg]

theorem scaled_pos {den : Nat} (positive : 0 < den) (num : Nat) (e : ℤ) : 0 < (scaled num den e).2 := by
  unfold scaled
  split
  · exact positive
  · exact Nat.mul_pos positive (Nat.pow_pos (by decide))

theorem scaled_eq (num den : Nat) (e : ℤ) :
    ((scaled num den e).1 : ℚ) / (scaled num den e).2 = num / den / 2 ^ e := by
  unfold scaled
  split
  · next negative =>
    rw [zpow_two_of_neg negative]
    simp only [Nat.pow_eq, Nat.cast_mul, Nat.cast_pow, Nat.cast_ofNat]
    rw [div_inv_eq_mul, mul_div_right_comm]
  · next nonneg =>
    rw [zpow_two_of_nonneg (by omega)]
    simp only [Nat.pow_eq, Nat.cast_mul, Nat.cast_pow, Nat.cast_ofNat]
    rw [div_div]

theorem ratio_pos (x : Double) : 0 < x.ratio.2 := by
  unfold ratio
  split
  · exact Nat.pow_pos (by decide)
  · exact Nat.one_pos

theorem ratio_eq (x : Double) : (x.ratio.1 : ℚ) / x.ratio.2 = x.size := by
  unfold ratio size
  split
  · next negative =>
    rw [zpow_two_of_neg negative]
    simp only [Nat.pow_eq, Nat.cast_pow, Nat.cast_ofNat]
    rw [div_eq_mul_inv]
  · next nonneg =>
    rw [zpow_two_of_nonneg (by omega)]
    simp only [Nat.pow_eq, Nat.cast_mul, Nat.cast_pow, Nat.cast_ofNat, Nat.cast_one, div_one]

/-- The nearest integer is at most half a unit away. -/
theorem nearest_bounds {num den : Nat} (positive : 0 < den) :
    (num : ℚ) / den - 1 / 2 ≤ nearest num den ∧ (nearest num den : ℚ) ≤ num / den + 1 / 2 := by
  have denPositive : (0 : ℚ) < den := by exact_mod_cast positive
  have parts : (num : ℚ) = den * (num / den : Nat) + (num % den : Nat) := by exact_mod_cast (Nat.div_add_mod num den).symm
  have short : ((num % den : Nat) : ℚ) < den := by exact_mod_cast Nat.mod_lt num positive
  have ratio : (num : ℚ) / den = (num / den : Nat) + ((num % den : Nat) : ℚ) / den := by
    rw [div_eq_iff denPositive.ne', add_mul, div_mul_cancel₀ _ denPositive.ne', mul_comm]
    exact parts
  rw [ratio]
  unfold nearest
  dsimp only
  split
  · next up =>
    have half : (den : ℚ) ≤ 2 * (num % den : Nat) := by exact_mod_cast (by omega : den ≤ 2 * (num % den))
    have atLeast : 1 / 2 ≤ ((num % den : Nat) : ℚ) / den := by
      rw [le_div_iff₀ denPositive]
      linarith
    have atMost : ((num % den : Nat) : ℚ) / den < 1 := (div_lt_one denPositive).mpr short
    push_cast
    constructor <;> linarith
  · next down =>
    have half : 2 * ((num % den : Nat) : ℚ) ≤ den := by exact_mod_cast (by omega : 2 * (num % den) ≤ den)
    have atMost : ((num % den : Nat) : ℚ) / den ≤ 1 / 2 := by
      rw [div_le_iff₀ denPositive]
      linarith
    have nonneg : 0 ≤ ((num % den : Nat) : ℚ) / den := by positivity
    constructor <;> linarith

/-- Where a ratio lies between powers of two. -/
theorem ratio_bracket {num den : Nat} (numPositive : 0 < num) (denPositive : 0 < den) :
    (2 : ℚ) ^ ((num.log2 : ℤ) - den.log2 - 1) ≤ num / den ∧
      (num : ℚ) / den ≤ 2 ^ ((num.log2 : ℤ) - den.log2 + 1) := by
  have two : (2 : ℚ) ≠ 0 := two_ne_zero
  have numLow : (2 : ℚ) ^ num.log2 ≤ num := by exact_mod_cast Nat.log2_self_le numPositive.ne'
  have numHigh : (num : ℚ) ≤ 2 ^ (num.log2 + 1) := by exact_mod_cast Nat.lt_log2_self.le
  have denLow : (2 : ℚ) ^ den.log2 ≤ den := by exact_mod_cast Nat.log2_self_le denPositive.ne'
  have denHigh : (den : ℚ) ≤ 2 ^ (den.log2 + 1) := by exact_mod_cast Nat.lt_log2_self.le
  have low : (2 : ℚ) ^ ((num.log2 : ℤ) - den.log2 - 1) = 2 ^ num.log2 / 2 ^ (den.log2 + 1) := by
    rw [sub_sub, zpow_sub₀ two]
    norm_cast
  have high : (2 : ℚ) ^ ((num.log2 : ℤ) - den.log2 + 1) = 2 ^ (num.log2 + 1) / 2 ^ den.log2 := by
    rw [sub_add_eq_add_sub, zpow_sub₀ two]
    norm_cast
  have denPositive' : (0 : ℚ) < den := by exact_mod_cast denPositive
  rw [low, high]
  exact ⟨div_le_div₀ (by positivity) numLow denPositive' denHigh, div_le_div₀ (by positivity) numHigh (by positivity) denLow⟩

/-- At the first guess a ratio has at most 54 binary digits before the point, and at least 53 of them unless the
guess is the least exponent. -/
theorem guessExponent_bounds {num den : Nat} (numPositive : 0 < num) (denPositive : 0 < den) :
    (num : ℚ) / den / 2 ^ guessExponent num den ≤ 2 ^ 54 ∧
      (2 ^ 52 ≤ (num : ℚ) / den / 2 ^ guessExponent num den ∨ guessExponent num den = leastExponent) := by
  obtain ⟨low, high⟩ := ratio_bracket numPositive denPositive
  have power (e : ℤ) : (0 : ℚ) < 2 ^ e := zpow_pos two_pos e
  have shift (e : ℤ) (n : ℕ) : (2 : ℚ) ^ n * 2 ^ e = 2 ^ (e + n) := by
    rw [mul_comm, zpow_add₀ two_ne_zero, zpow_natCast]
  constructor
  · rw [div_le_iff₀ (power _), shift]
    have least : (num.log2 : ℤ) - den.log2 - 53 ≤ guessExponent num den := le_max_right _ _
    exact high.trans (zpow_le_zpow_right₀ one_le_two (by push_cast; omega))
  · by_cases kept : (num.log2 : ℤ) - den.log2 - 53 ≤ leastExponent
    · exact Or.inr (max_eq_left kept)
    · have same : guessExponent num den = (num.log2 : ℤ) - den.log2 - 53 := max_eq_right (by omega)
      left
      rw [same, le_div_iff₀ (power _), shift]
      exact le_trans (zpow_le_zpow_right₀ one_le_two (by push_cast; omega)) low

/-- A mantissa for a number at an exponent: the nearest integer, at 53 binary digits before the point or fewer at the
least exponent. -/
structure Rounding (q : ℚ) (exponent : ℤ) (mantissa : ℕ) : Prop where
  lower : q / 2 ^ exponent - 1 / 2 ≤ mantissa
  upper : (mantissa : ℚ) ≤ q / 2 ^ exponent + 1 / 2
  short : q / 2 ^ exponent ≤ 2 ^ 53
  full : 2 ^ 52 ≤ q / 2 ^ exponent ∨ exponent = leastExponent

/-- The double with a mantissa of up to 53 digits or one more, if it is finite. -/
def ofMantissa? (mantissa : ℕ) (exponent : ℤ) : Option Double :=
  if mantissa = mantissaLimit then
    if exponent + 1 > greatestExponent then none else some ⟨leastNormal, exponent + 1⟩
  else if exponent > greatestExponent then none
  else some ⟨mantissa, exponent⟩

theorem ofRatio?_eq {num den : Nat} (positive : 0 < num) :
    ofRatio? num den =
      let guess := guessExponent num den
      let digits := scaled num den guess
      let exponent := if digits.1 / digits.2 ≥ mantissaLimit then guess + 1 else guess
      ofMantissa? (nearest (scaled num den exponent).1 (scaled num den exponent).2) exponent := by
  unfold ofRatio? ofMantissa?
  rw [if_neg positive.ne']
  dsimp only
  split_ifs <;> rfl

theorem exists_rounding {num den : Nat} (numPositive : 0 < num) (denPositive : 0 < den) :
    ∃ exponent mantissa, Rounding (num / den) exponent mantissa ∧ ofRatio? num den = ofMantissa? mantissa exponent := by
  obtain ⟨wide, full⟩ := guessExponent_bounds numPositive denPositive
  rw [ofRatio?_eq numPositive]
  dsimp only
  have guessed := scaled_eq num den (guessExponent num den)
  have positive := scaled_pos denPositive num (guessExponent num den)
  generalize guessExponent num den = guess at *
  generalize scaled num den guess = digits at *
  have digitsPositive : (0 : ℚ) < digits.2 := by exact_mod_cast positive
  refine ⟨_, _, ⟨?_, ?_, ?_, ?_⟩, rfl⟩
  · rw [← scaled_eq]
    exact (nearest_bounds (scaled_pos denPositive _ _)).1
  · rw [← scaled_eq]
    exact (nearest_bounds (scaled_pos denPositive _ _)).2
  · split
    · rw [zpow_add_one₀ two_ne_zero, ← div_div]
      linarith
    · next few =>
      rw [ge_iff_le, Nat.le_div_iff_mul_le positive, not_le] at few
      have fewer : (digits.1 : ℚ) < 2 ^ 53 * digits.2 := by exact_mod_cast few
      rw [← guessed, div_le_iff₀ digitsPositive]
      exact fewer.le
  · split
    · next many =>
      rw [ge_iff_le, Nat.le_div_iff_mul_le positive] at many
      have more : (2 : ℚ) ^ 53 * digits.2 ≤ digits.1 := by exact_mod_cast many
      rw [← le_div_iff₀ digitsPositive, guessed] at more
      left
      rw [zpow_add_one₀ two_ne_zero, ← div_div]
      linarith
    · exact full

/-- Half a unit in the last place of the greatest doubles. -/
def halfUnit : ℚ := 2 ^ (greatestExponent - 1)

/-- The least number that is too great: half a unit above the greatest double. -/
def overflow : ℚ := (2 ^ 54 - 1) * halfUnit

theorem halfUnit_pos : 0 < halfUnit := zpow_pos two_pos _

theorem overflow_pos : 0 < overflow := mul_pos (by norm_num) halfUnit_pos

theorem zpow_greatestExponent : (2 : ℚ) ^ greatestExponent = 2 * halfUnit := by
  rw [halfUnit, mul_comm, ← zpow_add_one₀ two_ne_zero, sub_add_cancel]

theorem size_of_ofMantissa? {mantissa : ℕ} {exponent : ℤ} {x : Double} (made : ofMantissa? mantissa exponent = some x) :
    x.size = mantissa * 2 ^ exponent := by
  unfold ofMantissa? at made
  split at made
  · next carried =>
    split at made
    · cases made
    · cases made
      have limit : (mantissaLimit : ℚ) = leastNormal * 2 := by norm_num [mantissaLimit, leastNormal]
      rw [size, carried, limit, zpow_add_one₀ two_ne_zero]
      ring
  · split at made
    · cases made
    · cases made
      rfl

namespace Rounding

variable {q : ℚ} {exponent : ℤ} {mantissa : ℕ}

theorem mantissa_le (rounding : Rounding q exponent mantissa) : mantissa ≤ 2 ^ 53 := by
  have close : (mantissa : ℚ) < ((2 ^ 53 + 1 : ℕ) : ℚ) := by
    have upper := rounding.upper
    have short := rounding.short
    push_cast
    linarith
  have less : mantissa < 2 ^ 53 + 1 := by exact_mod_cast close
  omega

/-- A number that is not too great is rounded to a finite double. -/
theorem isSome (rounding : Rounding q exponent mantissa) (bound : q < overflow) :
    (ofMantissa? mantissa exponent).isSome = true := by
  have power : (0 : ℚ) < 2 ^ exponent := zpow_pos two_pos exponent
  have unit := zpow_greatestExponent
  unfold overflow at bound
  unfold ofMantissa?
  split
  · next carried =>
    split
    · next high =>
      have large : (2 : ℚ) ^ greatestExponent ≤ 2 ^ exponent := zpow_le_zpow_right₀ one_le_two (by omega)
      have limit : (mantissaLimit : ℚ) = 2 ^ 53 := by norm_num [mantissaLimit]
      have upper := rounding.upper
      rw [carried, limit, ← sub_le_iff_le_add, le_div_iff₀ power] at upper
      linarith [halfUnit_pos]
    · rfl
  · split
    · next high =>
      have large : (2 : ℚ) ^ (greatestExponent + 1) ≤ 2 ^ exponent := zpow_le_zpow_right₀ one_le_two (by omega)
      rw [zpow_add_one₀ two_ne_zero, unit] at large
      -- At such an exponent 53 digits before the point are already too many.
      rcases rounding.full with full | least
      · rw [le_div_iff₀ power] at full
        linarith [halfUnit_pos]
      · exact absurd high (by rw [least]; decide)
    · rfl

/-- A rounded number is a finite double. -/
theorem size_lt (rounding : Rounding q exponent mantissa) {x : Double} (made : ofMantissa? mantissa exponent = some x) :
    x.size < overflow := by
  have positive := halfUnit_pos
  have unit := zpow_greatestExponent
  have atMost := rounding.mantissa_le
  rw [size_of_ofMantissa? made]
  unfold ofMantissa? at made
  unfold overflow
  split at made
  · next carried =>
    split at made
    · cases made
    · next low =>
      have small : (2 : ℚ) ^ exponent * 2 ≤ 2 * halfUnit := by
        rw [← zpow_add_one₀ two_ne_zero, ← unit]
        exact zpow_le_zpow_right₀ one_le_two (by omega)
      have limit : (mantissaLimit : ℚ) = 2 ^ 53 := by norm_num [mantissaLimit]
      rw [carried, limit]
      linarith
  · next whole =>
    split at made
    · cases made
    · next low =>
      have small : (2 : ℚ) ^ exponent ≤ 2 * halfUnit := by
        rw [← unit]
        exact zpow_le_zpow_right₀ one_le_two (by omega)
      have less : (mantissa : ℚ) ≤ 2 ^ 53 - 1 := by
        have fewer : mantissa + 1 ≤ 2 ^ 53 := by
          unfold mantissaLimit at whole
          omega
        have cast : (mantissa : ℚ) + 1 ≤ 2 ^ 53 := by exact_mod_cast fewer
        linarith
      calc (mantissa : ℚ) * 2 ^ exponent
        _ ≤ (2 ^ 53 - 1) * (2 * halfUnit) := mul_le_mul less small (zpow_nonneg two_pos.le _) (by norm_num)
        _ < (2 ^ 54 - 1) * halfUnit := by linarith

/-- A number from one on keeps 53 digits, so that rounding changes it by no more than the fraction `2 ^ -53` of it. -/
theorem size_bounds (rounding : Rounding q exponent mantissa) (atLeast : 1 ≤ q) :
    q / 2 ≤ mantissa * 2 ^ exponent ∧ mantissa * 2 ^ exponent ≤ q * (1 + 1 / 2 ^ 53) := by
  have power : (0 : ℚ) < 2 ^ exponent := zpow_pos two_pos exponent
  have full : 2 ^ 52 ≤ q / 2 ^ exponent := by
    rcases rounding.full with full | least
    · exact full
    · have small : (2 : ℚ) ^ exponent ≤ 2 ^ (-52 : ℤ) :=
        zpow_le_zpow_right₀ one_le_two (by rw [least]; decide)
      have inverse : (2 : ℚ) ^ (-52 : ℤ) * 2 ^ 52 = 1 := by norm_num
      rw [le_div_iff₀ power]
      linarith
  have same : q = q / 2 ^ exponent * 2 ^ exponent := (div_mul_cancel₀ q power.ne').symm
  have lower := rounding.lower
  have upper := rounding.upper
  generalize q / 2 ^ exponent = digits at *
  rw [same]
  constructor
  · rw [mul_div_right_comm]
    exact mul_le_mul_of_nonneg_right (by linarith) power.le
  · rw [mul_right_comm]
    exact mul_le_mul_of_nonneg_right (by linarith) power.le

end Rounding

section Ratios

variable {num den : Nat} {x y : Double}

theorem ofRatio?_isSome (positive : 0 < den) (bound : (num : ℚ) / den < overflow) :
    (ofRatio? num den).isSome = true := by
  by_cases zero : num = 0
  · rw [ofRatio?, if_pos zero]
    rfl
  · obtain ⟨exponent, mantissa, rounding, made⟩ := exists_rounding (Nat.pos_of_ne_zero zero) positive
    rw [made]
    exact rounding.isSome bound

theorem size_lt_of_ofRatio? (positive : 0 < den) (made : ofRatio? num den = some x) : x.size < overflow := by
  by_cases zero : num = 0
  · rw [ofRatio?, if_pos zero] at made
    cases made
    have nothing : Double.zero.size = 0 := by norm_num [size, Double.zero]
    rw [nothing]
    exact overflow_pos
  · obtain ⟨exponent, mantissa, rounding, same⟩ := exists_rounding (Nat.pos_of_ne_zero zero) positive
    rw [same] at made
    exact rounding.size_lt made

theorem mul?_eq (x y : Double) : x.mul? y = ofRatio? (x.ratio.1 * y.ratio.1) (x.ratio.2 * y.ratio.2) := rfl

theorem div?_eq (x y : Double) : x.div? y = ofRatio? (x.ratio.1 * y.ratio.2) (x.ratio.2 * y.ratio.1) := rfl

theorem mul?_isSome (bound : x.size * y.size < overflow) : (x.mul? y).isSome = true := by
  rw [mul?_eq]
  refine ofRatio?_isSome (Nat.mul_pos x.ratio_pos y.ratio_pos) ?_
  rw [Nat.cast_mul, Nat.cast_mul, mul_div_mul_comm, ratio_eq, ratio_eq]
  exact bound

theorem ratio_pos_of_size_pos (positive : 0 < x.size) : 0 < x.ratio.1 := by
  by_contra none
  have nothing := ratio_eq x
  rw [Nat.eq_zero_of_not_pos none, Nat.cast_zero, zero_div] at nothing
  exact positive.ne nothing

theorem div?_isSome (bound : x.size < overflow) (atLeast : 1 ≤ y.size) : (x.div? y).isSome = true := by
  rw [div?_eq]
  refine ofRatio?_isSome (Nat.mul_pos x.ratio_pos (ratio_pos_of_size_pos (by linarith))) ?_
  rw [Nat.cast_mul, Nat.cast_mul, ← div_div_div_eq, ratio_eq, ratio_eq]
  exact (div_le_self (size_nonneg x) atLeast).trans_lt bound

theorem size_lt_of_div? (atLeast : 1 ≤ y.size) {z : Double} (made : x.div? y = some z) : z.size < overflow := by
  rw [div?_eq] at made
  exact size_lt_of_ofRatio? (Nat.mul_pos x.ratio_pos (ratio_pos_of_size_pos (by linarith))) made

/-- An integer keeps 53 digits. -/
theorem size_bounds_of_ofRatio? (positive : 0 < num) (made : ofRatio? num 1 = some x) :
    (num : ℚ) / 2 ≤ x.size ∧ x.size ≤ num * (1 + 1 / 2 ^ 53) := by
  obtain ⟨exponent, mantissa, rounding, same⟩ := exists_rounding positive Nat.one_pos
  rw [same] at made
  rw [Nat.cast_one, div_one] at rounding
  rw [size_of_ofMantissa? made]
  exact rounding.size_bounds (by exact_mod_cast positive)

end Ratios

/-- A size up to which no number is too great, however it is rounded on the way: a few units below the greatest
double. -/
def safeSize : ℚ := (1 - 1 / 2 ^ 51) * 2 ^ 1024

theorem safeSize_eq : safeSize = (2 ^ 54 - 8) * halfUnit := by
  have half : halfUnit = 2 ^ 970 := zpow_natCast 2 970
  have power : (2 : ℚ) ^ 1024 = 2 ^ 54 * 2 ^ 970 := pow_add 2 54 970
  rw [safeSize, half, power, ← mul_assoc]
  congr 1
  norm_num

theorem halfUnit_eq : halfUnit = ((2 ^ 970 : ℕ) : ℚ) := by
  rw [Nat.cast_pow]
  exact zpow_natCast 2 970

theorem two_pow_le_safeSize : (2 : ℚ) ^ 64 ≤ safeSize := by
  have unit : (2 : ℚ) ^ (11 : ℤ) ≤ halfUnit := zpow_le_zpow_right₀ one_le_two (by decide)
  rw [safeSize_eq]
  norm_num at unit
  linarith

theorem ten_pow_lt_overflow : ((10 ^ 308 : ℕ) : ℚ) < overflow := by
  have less : 10 ^ 308 < 18014398509481983 * 2 ^ 970 := by decide +kernel
  have same : overflow = ((18014398509481983 * 2 ^ 970 : ℕ) : ℚ) := by
    rw [Nat.cast_mul, ← halfUnit_eq, overflow]
    norm_num
  rw [same]
  exact Nat.cast_lt.mpr less

theorem safeSize_lt_ten_pow : safeSize < ((10 ^ 309 : ℕ) : ℚ) := by
  have less : 18014398509481976 * 2 ^ 970 < 10 ^ 309 := by decide +kernel
  have same : safeSize = ((18014398509481976 * 2 ^ 970 : ℕ) : ℚ) := by
    rw [Nat.cast_mul, ← halfUnit_eq, safeSize_eq]
    norm_num
  rw [same]
  exact Nat.cast_lt.mpr less

theorem powerOfTen_bounds {n : ℕ} (small : n ≤ 308) :
    (10 : ℚ) ^ n / 2 ≤ (powerOfTen n).size ∧ (powerOfTen n).size ≤ 10 ^ n * (1 + 1 / 2 ^ 53) := by
  have same : powerOfTen n = (ofRatio? (10 ^ n) 1).getD zero := rfl
  have atMost : 10 ^ n ≤ 10 ^ 308 := pow_le_pow_right₀ (by decide) small
  have bound : ((10 ^ n : ℕ) : ℚ) / ((1 : ℕ) : ℚ) < overflow := by
    rw [Nat.cast_one, div_one]
    exact (Nat.cast_le.mpr atMost).trans_lt ten_pow_lt_overflow
  obtain ⟨x, made⟩ := Option.isSome_iff_exists.mp (ofRatio?_isSome Nat.one_pos bound)
  have bounds := size_bounds_of_ofRatio? (Nat.pow_pos (by decide)) made
  rw [Nat.cast_pow, Nat.cast_ofNat] at bounds
  rw [same, made, Option.getD_some]
  exact bounds

theorem one_le_powerOfTen {n : ℕ} (positive : 0 < n) (small : n ≤ 308) : 1 ≤ (powerOfTen n).size := by
  have lower := (powerOfTen_bounds small).1
  have ten : (10 : ℚ) ^ 1 ≤ 10 ^ n := pow_le_pow_right₀ (by norm_num) positive
  rw [pow_one] at ten
  linarith

/-- Division by powers of ten never leads beyond the greatest double. -/
theorem divide_isSome (x : Double) (power steps : ℕ) (bound : x.size < overflow) (positive : 0 < power) :
    (ofDecimal?.divide x power steps).isSome = true := by
  induction steps generalizing x power with
  | zero => rfl
  | succ steps ih =>
    unfold ofDecimal?.divide
    split
    · next small => exact div?_isSome bound (one_le_powerOfTen positive small)
    · next large =>
      have atLeast := one_le_powerOfTen (n := 308) (by decide) (Nat.le_refl 308)
      obtain ⟨next, made⟩ := Option.isSome_iff_exists.mp (div?_isSome bound atLeast)
      rw [made]
      dsimp only [bind, Option.bind]
      split
      · rfl
      · exact ih next (power - 308) (size_lt_of_div? atLeast made) (by omega)

/-- What is not too great as a whole number is not too great after it has been rounded, multiplied by a rounded power
of ten and rounded again. -/
theorem ofDecimal?_isSome {significand : ℕ} {exponent : ℤ} (fits : significand < 2 ^ 64)
    (bound : (significand : ℚ) * 10 ^ exponent ≤ safeSize) : (ofDecimal? significand exponent).isSome = true := by
  have startBound : (significand : ℚ) / ((1 : ℕ) : ℚ) < overflow := by
    have small : significand ≤ 10 ^ 308 := fits.le.trans (by decide +kernel)
    rw [Nat.cast_one, div_one]
    exact (Nat.cast_le.mpr small).trans_lt ten_pow_lt_overflow
  obtain ⟨start, made⟩ := Option.isSome_iff_exists.mp (ofRatio?_isSome Nat.one_pos startBound)
  have startLess := size_lt_of_ofRatio? Nat.one_pos made
  unfold ofDecimal?
  rw [made]
  dsimp only [bind, Option.bind]
  split
  · rfl
  · next nonzero =>
    have positive : 0 < significand := by
      by_contra none
      rw [Nat.eq_zero_of_not_pos none] at made
      cases made
      exact nonzero rfl
    split
    · next nonneg =>
      obtain ⟨n, rfl⟩ := Int.eq_ofNat_of_zero_le nonneg
      rw [zpow_natCast] at bound
      -- Beyond `10 ^ 308` only a zero stays within the bound.
      have small : n ≤ 308 := by
        by_contra great
        have more : 10 ^ 309 ≤ significand * 10 ^ n :=
          (pow_le_pow_right₀ (by decide) (by omega)).trans (Nat.le_mul_of_pos_left _ positive)
        have cast : ((significand * 10 ^ n : ℕ) : ℚ) = significand * 10 ^ n := by push_cast; rfl
        have atLeast : ((10 ^ 309 : ℕ) : ℚ) ≤ ((significand * 10 ^ n : ℕ) : ℚ) := Nat.cast_le.mpr more
        rw [cast] at atLeast
        exact absurd (atLeast.trans bound) (not_le.mpr safeSize_lt_ten_pow)
      rw [if_neg (by omega)]
      refine mul?_isSome ?_
      rw [Int.toNat_natCast]
      -- Both factors may have grown by rounding; `safeSize` leaves room for twice that fraction.
      have left := (size_bounds_of_ofRatio? positive made).2
      have right := (powerOfTen_bounds small).2
      calc start.size * (powerOfTen n).size
        _ ≤ significand * (1 + 1 / 2 ^ 53) * (10 ^ n * (1 + 1 / 2 ^ 53)) :=
          mul_le_mul left right (size_nonneg _) (by positivity)
        _ = significand * 10 ^ n * (1 + 1 / 2 ^ 53) ^ 2 := by ring
        _ ≤ safeSize * (1 + 1 / 2 ^ 53) ^ 2 := mul_le_mul_of_nonneg_right bound (by positivity)
        _ < overflow := by
          rw [safeSize_eq, overflow, mul_right_comm]
          exact mul_lt_mul_of_pos_right (by norm_num) halfUnit_pos
    · next negative => exact divide_isSome start _ _ startLess (by omega)

end ContractSuite.Decimal.Double
