import CardSearch.Number.Binary64
import Mathlib.Algebra.Order.Field.Power
import Mathlib.Algebra.Order.Ring.Rat
import Mathlib.Data.Nat.Cast.Order.Field
import Mathlib.Tactic.FieldSimp
import Mathlib.Tactic.Linarith
import Mathlib.Tactic.NormNum
import Mathlib.Tactic.Positivity
import Mathlib.Tactic.Ring

/-!
Rounding a fraction whose value is a double gives that double.
-/

namespace CardSearch.Number

theorem twoTo_eq (exponent : Nat) : twoTo exponent = 2 ^ exponent :=
  rfl

theorem roundQuotient_mul (quotient : Nat) {denominator : Nat} (positive : 0 < denominator) :
    roundQuotient (quotient * denominator) denominator = quotient := by
  simp [roundQuotient, positive]

namespace Binary64

theorem scale_positive (power : Int) (numerator : Nat) {denominator : Nat}
    (positive : 0 < denominator) : 0 < (scale power numerator denominator).2 := by
  cases power with
  | ofNat exponent => exact positive
  | negSucc exponent => exact Nat.mul_pos positive (Nat.two_pow_pos _)

theorem scale_value (power : Int) (numerator denominator : Nat) :
    ((scale power numerator denominator).1 : ℚ) / (scale power numerator denominator).2 =
      numerator / denominator * 2 ^ power := by
  cases power with
  | ofNat exponent =>
    simp only [scale, twoTo_eq, Int.ofNat_eq_natCast, zpow_natCast]
    push_cast
    ring
  | negSucc exponent =>
    simp only [scale, twoTo_eq, zpow_negSucc]
    push_cast
    ring

/-- The number of bits tells the unit of a fraction up to a factor of two. -/
theorem estimate_bounds {numerator denominator : Nat} (some : 0 < numerator)
    (positive : 0 < denominator) :
    let estimate : Int := (Nat.log2 numerator : Int) - Nat.log2 denominator - 52
    (2 : ℚ) ^ 51 < numerator / denominator * 2 ^ (-estimate) ∧
      (numerator : ℚ) / denominator * 2 ^ (-estimate) < 2 ^ 53 := by
  intro estimate
  have lower : (2 : ℚ) ^ Nat.log2 numerator ≤ numerator := by
    exact_mod_cast Nat.log2_self_le (Nat.ne_of_gt some)
  have upper : (numerator : ℚ) < 2 ^ Nat.log2 numerator * 2 := by
    exact_mod_cast @Nat.lt_log2_self numerator
  have lowerBelow : (2 : ℚ) ^ Nat.log2 denominator ≤ denominator := by
    exact_mod_cast Nat.log2_self_le (Nat.ne_of_gt positive)
  have upperBelow : (denominator : ℚ) < 2 ^ Nat.log2 denominator * 2 := by
    exact_mod_cast @Nat.lt_log2_self denominator
  have factor : (2 : ℚ) ^ (-estimate) =
      2 ^ 52 * 2 ^ Nat.log2 denominator / 2 ^ Nat.log2 numerator := by
    have exponent : -estimate = 52 + (Nat.log2 denominator : Int) - Nat.log2 numerator := by omega
    rw [exponent, zpow_sub₀ two_ne_zero, zpow_add₀ two_ne_zero, zpow_natCast, zpow_natCast]
    rfl
  have above : (0 : ℚ) < 2 ^ Nat.log2 numerator := by positivity
  have below : (0 : ℚ) < 2 ^ Nat.log2 denominator := by positivity
  have divisor : (0 : ℚ) < denominator := by exact_mod_cast positive
  rw [factor, div_mul_div_comm]
  constructor
  · rw [lt_div_iff₀ (by positivity)]
    calc (2 : ℚ) ^ 51 * (denominator * 2 ^ Nat.log2 numerator)
        < 2 ^ 51 * (2 ^ Nat.log2 denominator * 2 * 2 ^ Nat.log2 numerator) := by gcongr
      _ = 2 ^ Nat.log2 numerator * (2 ^ 52 * 2 ^ Nat.log2 denominator) := by ring
      _ ≤ numerator * (2 ^ 52 * 2 ^ Nat.log2 denominator) := by gcongr
  · rw [div_lt_iff₀ (by positivity)]
    calc (numerator : ℚ) * (2 ^ 52 * 2 ^ Nat.log2 denominator)
        < 2 ^ Nat.log2 numerator * 2 * (2 ^ 52 * 2 ^ Nat.log2 denominator) := by gcongr
      _ = 2 ^ 53 * (2 ^ Nat.log2 denominator * 2 ^ Nat.log2 numerator) := by ring
      _ ≤ 2 ^ 53 * (denominator * 2 ^ Nat.log2 numerator) := by gcongr

/-- In its unit, a fraction has 53 bits, unless its unit is the least one. -/
theorem exists_unit {numerator denominator : Nat} (some : 0 < numerator)
    (positive : 0 < denominator) :
    ∃ exact : Int, unit numerator denominator = (if exact < -1074 then -1074 else exact) ∧
      (2 : ℚ) ^ 52 ≤ numerator / denominator * 2 ^ (-exact) ∧
      (numerator : ℚ) / denominator * 2 ^ (-exact) < 2 ^ 53 := by
  let estimate : Int := (Nat.log2 numerator : Int) - Nat.log2 denominator - 52
  obtain ⟨lower, upper⟩ := estimate_bounds some positive
  have value := scale_value (-estimate) numerator denominator
  have divisor : (0 : ℚ) < (scale (-estimate) numerator denominator).2 := by
    exact_mod_cast scale_positive (-estimate) numerator positive
  rw [← value] at lower upper
  refine ⟨if (scale (-estimate) numerator denominator).1 <
    twoTo 52 * (scale (-estimate) numerator denominator).2 then estimate - 1 else estimate, rfl, ?_⟩
  split
  next less =>
    -- The estimate is one too high, and a unit of half the size doubles the value.
    have small : ((scale (-estimate) numerator denominator).1 : ℚ) /
        (scale (-estimate) numerator denominator).2 < 2 ^ 52 := by
      rw [div_lt_iff₀ divisor]
      exact_mod_cast less
    have twice : (numerator : ℚ) / denominator * 2 ^ (-(estimate - 1)) =
        2 * ((scale (-estimate) numerator denominator).1 /
          (scale (-estimate) numerator denominator).2) := by
      rw [value, neg_sub, sub_eq_add_neg, zpow_add₀ two_ne_zero, zpow_one]
      ring
    rw [twice]
    constructor <;> linarith
  next enough =>
    have large : (2 : ℚ) ^ 52 ≤ (scale (-estimate) numerator denominator).1 /
        (scale (-estimate) numerator denominator).2 := by
      rw [le_div_iff₀ divisor]
      exact_mod_cast Nat.not_lt.1 enough
    rw [← value]
    exact ⟨large, upper⟩

theorem unit_of_eq {numerator denominator significand : Nat} {power : Int}
    (nonzero : 0 < numerator) (positive : 0 < denominator)
    (same : (numerator : ℚ) / denominator = significand * 2 ^ power)
    (below : significand < 2 ^ 53) (least : -1074 ≤ power)
    (leading : 2 ^ 52 ≤ significand ∨ power = -1074) : unit numerator denominator = power := by
  obtain ⟨exact, found, lower, upper⟩ := exists_unit nonzero positive
  rw [same, mul_assoc, ← zpow_add₀ two_ne_zero, ← sub_eq_add_neg] at lower upper
  have small : (significand : ℚ) < 2 ^ 53 := by exact_mod_cast below
  have atMost : exact ≤ power := by
    by_contra above
    have half : (2 : ℚ) ^ (power - exact) ≤ 2 ^ (-1 : Int) :=
      zpow_le_zpow_right₀ (by norm_num) (by omega)
    norm_num at half
    nlinarith
  rw [found]
  rcases leading with leading | rfl
  · have large : (2 : ℚ) ^ 52 ≤ significand := by exact_mod_cast leading
    have atLeast : power ≤ exact := by
      by_contra above
      have double : (2 : ℚ) ^ (1 : Int) ≤ 2 ^ (power - exact) :=
        zpow_le_zpow_right₀ (by norm_num) (by omega)
      norm_num at double
      nlinarith
    rw [if_neg (by omega)]
    omega
  · split <;> omega

theorem ofFraction?_of_eq (negative : Bool) {numerator denominator significand : Nat} {power : Int}
    (nonzero : 0 < numerator) (positive : 0 < denominator)
    (same : (numerator : ℚ) / denominator = significand * 2 ^ power)
    (below : significand < 2 ^ 53) (least : -1074 ≤ power)
    (leading : 2 ^ 52 ≤ significand ∨ power = -1074)
    (bounded : (power + 1074).toNat * twoTo 52 + significand < 2047 * twoTo 52) :
    ofFraction? negative numerator denominator = some ⟨(zero negative).bits +
      UInt64.ofNat ((power + 1074).toNat * twoTo 52 + significand)⟩ := by
  have found := unit_of_eq nonzero positive same below least leading
  have value := scale_value (-power) numerator denominator
  have divisor := scale_positive (-power) numerator positive
  have whole : (scale (-power) numerator denominator).1 =
      significand * (scale (-power) numerator denominator).2 := by
    rw [same, mul_assoc, ← zpow_add₀ two_ne_zero, add_neg_cancel, zpow_zero, mul_one,
      div_eq_iff (by exact_mod_cast Nat.ne_of_gt divisor)] at value
    exact_mod_cast value
  have rounded := roundQuotient_mul significand divisor
  rw [← whole] at rounded
  simp only [ofFraction?, Nat.ne_of_gt nonzero, ↓reduceIte, found, rounded, bounded]

section Fields

variable (number : Binary64)

theorem exponentField_eq : number.exponentField = number.bits.toNat / 2 ^ 52 % 2 ^ 11 := by
  have mask : (0x7FF : UInt64).toNat = 2 ^ 11 - 1 := rfl
  rw [exponentField, UInt64.toNat_and, mask, Nat.and_two_pow_sub_one_eq_mod,
    UInt64.toNat_shiftRight, Nat.shiftRight_eq_div_pow]
  rfl

theorem fractionField_eq : number.fractionField = number.bits.toNat % 2 ^ 52 := by
  have mask : (0xFFFFFFFFFFFFF : UInt64).toNat = 2 ^ 52 - 1 := rfl
  rw [fractionField, UInt64.toNat_and, mask, Nat.and_two_pow_sub_one_eq_mod]

theorem negative_iff : number.negative ↔ 2 ^ 63 ≤ number.bits.toNat := by
  have bound := number.bits.toNat_lt
  have top : (number.bits >>> 63).toNat = number.bits.toNat / 2 ^ 63 := by
    rw [UInt64.toNat_shiftRight, Nat.shiftRight_eq_div_pow]
    rfl
  rw [negative, beq_iff_eq, ← UInt64.toNat_inj, top]
  change number.bits.toNat / 2 ^ 63 = 1 ↔ _
  omega

theorem significand_lt : number.significand < 2 ^ 53 := by
  have fraction : number.fractionField < 2 ^ 52 := by
    rw [fractionField_eq]
    exact Nat.mod_lt _ (by norm_num)
  unfold significand
  split
  · omega
  · rw [twoTo_eq]
    omega

theorem word_eq : (number.power + 1074).toNat * twoTo 52 + number.significand =
    number.exponentField * 2 ^ 52 + number.fractionField := by
  unfold power significand
  split
  next zero => simp [zero]
  next =>
    rw [twoTo_eq]
    omega

theorem bits_eq : (zero number.negative).bits +
    UInt64.ofNat (number.exponentField * 2 ^ 52 + number.fractionField) = number.bits := by
  have bound := number.bits.toNat_lt
  rw [← UInt64.toNat_inj, UInt64.toNat_add, UInt64.toNat_ofNat', exponentField_eq,
    fractionField_eq]
  by_cases sign : number.negative
  · have high := (negative_iff number).1 sign
    rw [sign]
    change (2 ^ 63 + _) % _ = _
    omega
  · have low : ¬2 ^ 63 ≤ number.bits.toNat := fun high => sign ((negative_iff number).2 high)
    rw [Bool.not_eq_true] at sign
    rw [sign]
    change (0 + _) % _ = _
    omega

theorem least_le_power : -1074 ≤ number.power := by
  unfold power
  split <;> omega

end Fields

/-- The value of a finite double is rounded to nothing but it. -/
theorem ofFraction?_exact {number : Binary64} (finite : number.isFinite)
    {numerator denominator : Nat} (nonzero : 0 < numerator) (positive : 0 < denominator)
    (same : (numerator : ℚ) / denominator = number.significand * 2 ^ number.power) :
    ofFraction? number.negative numerator denominator = some number := by
  have leading : 2 ^ 52 ≤ number.significand ∨ number.power = -1074 := by
    unfold significand power
    split
    next => exact .inr rfl
    next => exact .inl (Nat.le_add_right _ _)
  have bounded : (number.power + 1074).toNat * twoTo 52 + number.significand < 2047 * twoTo 52 := by
    have field : number.exponentField < 2047 := by simpa [isFinite] using finite
    rw [word_eq, fractionField_eq, twoTo_eq]
    omega
  rw [ofFraction?_of_eq number.negative nonzero positive same number.significand_lt
    number.least_le_power leading bounded, word_eq, bits_eq]

theorem isFinite_of_word (negative : Bool) {word : Nat} (small : word < 2047 * twoTo 52) :
    isFinite ⟨(zero negative).bits + UInt64.ofNat word⟩ := by
  rw [twoTo_eq] at small
  rw [isFinite, decide_eq_true_eq, exponentField_eq, UInt64.toNat_add, UInt64.toNat_ofNat']
  cases negative with
  | false =>
    change (0 + _) % _ / _ % _ < _
    omega
  | true =>
    change (2 ^ 63 + _) % _ / _ % _ < _
    omega

theorem isFinite_zero (negative : Bool) : (zero negative).isFinite := by
  cases negative <;> decide

theorem isFinite_of_ofFraction? {negative : Bool} {numerator denominator : Nat}
    {number : Binary64} (found : ofFraction? negative numerator denominator = some number) :
    number.isFinite := by
  rw [ofFraction?] at found
  split at found
  next =>
    cases found
    exact isFinite_zero negative
  next =>
    obtain ⟨small, same⟩ := Option.ite_none_right_eq_some.1 found
    rw [← Option.some.inj same]
    exact isFinite_of_word negative small

end Binary64

end CardSearch.Number
