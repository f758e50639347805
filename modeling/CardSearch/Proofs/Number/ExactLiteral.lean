import CardSearch.Proofs.Number.Binary64
import CardSearch.Proofs.Number.Literal
import CardSearch.Proofs.Number.Numeral

/-!
A literal for every finite double: its exact value, with all of its digits. A fraction of a power of
two is the same fraction of a power of ten with as many factors of five.
-/

namespace CardSearch.Number

theorem value_le_value_append (front : List Char) (digit : Char) :
    value front ≤ value (front ++ [digit]) := by
  rw [value, value, List.foldl_append]
  simp only [List.foldl_cons, List.foldl_nil]
  omega

/-- The cap on exponents is met by no shorter exponent. -/
theorem Decimal.exponentValue_eq {digits : List Char} (small : value digits < 65536) :
    exponentValue digits = value digits := by
  induction digits using List.reverseRecOn with
  | nil => rfl
  | append_singleton front digit ih =>
    have below := Nat.lt_of_le_of_lt (value_le_value_append front digit) small
    have same := ih below
    rw [exponentValue, value] at same ⊢
    rw [value] at below
    rw [List.foldl_append, List.foldl_append, same]
    simp only [List.foldl_cons, List.foldl_nil, below, ↓reduceIte]

namespace Decimal

def writtenExponent : Int → List Char
  | .ofNat exponent => Nat.toDigits 10 exponent
  | .negSucc exponent => '-' :: Nat.toDigits 10 (exponent + 1)

def written (number : Decimal) : List Char :=
  (if number.negative then ['-'] else []) ++
    (Nat.toDigits 10 number.digits ++ 'e' :: writtenExponent number.exponent)

theorem sign_toDigits (number : Nat) (rest : List Char) :
    sign (Nat.toDigits 10 number ++ rest) = (false, Nat.toDigits 10 number ++ rest) := by
  obtain ⟨first, more, same⟩ := List.exists_cons_of_ne_nil (@Nat.toDigits_ne_nil number 10)
  have digits := all_isDigit_toDigits number
  rw [same, List.all_cons, Bool.and_eq_true] at digits
  rw [same, List.cons_append]
  unfold sign
  split
  next minus =>
    obtain ⟨rfl, -⟩ := List.cons.inj minus
    exact absurd digits.1 (by decide)
  next plus =>
    obtain ⟨rfl, -⟩ := List.cons.inj plus
    exact absurd digits.1 (by decide)
  next => rfl

theorem exponent?_written {exponent : Int} (small : exponent.natAbs < 65536) :
    exponent? ('e' :: writtenExponent exponent) = some exponent := by
  have reads (number : Nat) (below : number < 65536) :
      exponentValue (Nat.toDigits 10 number) = number := by
    rw [exponentValue_eq (by rwa [value_toDigits]), value_toDigits]
  have nonempty (number : Nat) : (Nat.toDigits 10 number).isEmpty = false := by
    simp [Nat.toDigits_ne_nil]
  cases exponent with
  | ofNat exponent =>
    have signed := sign_toDigits exponent []
    rw [List.append_nil] at signed
    simp [exponent?, writtenExponent, signed, nonempty, all_isDigit_toDigits, reads exponent small]
  | negSucc exponent =>
    have signed : sign ('-' :: Nat.toDigits 10 (exponent + 1)) =
      (true, Nat.toDigits 10 (exponent + 1)) := rfl
    have read := reads (exponent + 1) small
    simp [exponent?, writtenExponent, signed, nonempty, all_isDigit_toDigits, read,
      Int.negSucc_eq]

theorem read?_written {number : Decimal} (small : number.exponent.natAbs < 65536) :
    read? number.written = some number := by
  have signed : sign number.written = (number.negative,
      Nat.toDigits 10 number.digits ++ 'e' :: writtenExponent number.exponent) := by
    unfold written
    split
    next negative =>
      rw [negative]
      rfl
    next positive =>
      rw [Bool.not_eq_true] at positive
      rw [positive]
      exact sign_toDigits _ _
  have digits := List.all_eq_true.1 (all_isDigit_toDigits number.digits)
  have letter : ¬Char.isDigit 'e' := by decide
  have taken : (Nat.toDigits 10 number.digits ++ 'e' :: writtenExponent number.exponent).takeWhile
      Char.isDigit = Nat.toDigits 10 number.digits := by
    rw [List.takeWhile_append_of_pos digits, List.takeWhile_cons_of_neg letter, List.append_nil]
  have left : (Nat.toDigits 10 number.digits ++ 'e' :: writtenExponent number.exponent).dropWhile
      Char.isDigit = 'e' :: writtenExponent number.exponent := by
    rw [List.dropWhile_append_of_pos digits, List.dropWhile_cons_of_neg letter]
  have none : places ('e' :: writtenExponent number.exponent) =
    ([], 'e' :: writtenExponent number.exponent) := rfl
  simp [read?, signed, taken, left, none, exponent?_written small, value_toDigits,
    Nat.toDigits_ne_nil]

def fraction (number : Decimal) : Nat × Nat :=
  match number.exponent with
  | .ofNat exponent => (number.digits * tenTo exponent, 1)
  | .negSucc exponent => (number.digits, tenTo (exponent + 1))

theorem toBinary64?_eq_ofFraction? {number : Decimal} (nonzero : 0 < number.digits)
    (large : -400 ≤ (width number.digits : Int) + number.exponent)
    (small : (width number.digits : Int) + number.exponent ≤ 400) :
    number.toBinary64? =
      Binary64.ofFraction? number.negative number.fraction.1 number.fraction.2 := by
  obtain ⟨negative, digits, exponent⟩ := number
  have rounds : ¬(digits = 0 || (width digits : Int) + exponent < -400) := by
    rw [Bool.or_eq_true, decide_eq_true_eq, decide_eq_true_eq]
    exact not_or.2 ⟨Nat.ne_of_gt nonzero, Int.not_lt.2 large⟩
  have bounded : ¬400 < (width digits : Int) + exponent := Int.not_lt.2 small
  cases exponent with
  | ofNat exponent => exact (if_neg rounds).trans (if_neg bounded)
  | negSucc exponent => exact (if_neg rounds).trans (if_neg bounded)

end Decimal

namespace Binary64

def exact (number : Binary64) : Decimal :=
  match number.power with
  | .ofNat exponent => ⟨number.negative, number.significand * twoTo exponent, 0⟩
  | .negSucc exponent =>
    ⟨number.negative, number.significand * 5 ^ (exponent + 1), .negSucc exponent⟩

theorem power_le {number : Binary64} (finite : number.isFinite) : number.power ≤ 971 := by
  have field : number.exponentField < 2047 := by simpa [isFinite] using finite
  unfold power
  split <;> omega

theorem zero_of_significand {number : Binary64} (none : number.significand = 0) :
    zero number.negative = number := by
  have word := number.word_eq
  have same := number.bits_eq
  have least : number.power = -1074 := by
    unfold significand at none
    unfold power
    split at none
    next field => rw [if_pos field]
    next =>
      rw [twoTo_eq] at none
      omega
  rw [none, least] at word
  rw [← word] at same
  obtain ⟨bits⟩ := number
  exact congrArg Binary64.mk ((UInt64.add_zero _).symm.trans same)

theorem twoTo_le_tenTo {exponent places : Nat} (range : exponent ≤ 3 * places) :
    2 ^ exponent ≤ 10 ^ places := by
  calc 2 ^ exponent ≤ 2 ^ (3 * places) := Nat.pow_le_pow_right (by norm_num) range
    _ = (2 ^ 3) ^ places := Nat.pow_mul 2 3 places
    _ ≤ 10 ^ places := Nat.pow_le_pow_left (by norm_num) places

theorem width_le_iff {number places : Nat} (some : 0 < places) :
    width number ≤ places ↔ number < 10 ^ places :=
  Nat.length_toDigits_le_iff (by norm_num) some

/-- A fraction of a power of two has about as many digits as its denominator has bits. -/
theorem width_bounds {significand exponent : Nat} (nonzero : 0 < significand)
    (small : significand < 2 ^ 53) (range : exponent ≤ 1074) :
    exponent ≤ width (significand * 5 ^ exponent) + 400 ∧
      width (significand * 5 ^ exponent) ≤ exponent + 400 := by
  have powers : 10 ^ exponent = 2 ^ exponent * 5 ^ exponent := Nat.mul_pow 2 5 exponent
  constructor
  · by_contra short
    have few : significand * 5 ^ exponent < 10 ^ (exponent - 400) := by
      rw [← width_le_iff (by omega)]
      omega
    have many : 10 ^ 400 * 10 ^ (exponent - 400) ≤ 10 ^ 400 * (significand * 5 ^ exponent) := by
      calc 10 ^ 400 * 10 ^ (exponent - 400) = 2 ^ exponent * 5 ^ exponent := by
            rw [← Nat.pow_add, ← powers, Nat.add_sub_cancel' (by omega)]
        _ ≤ 10 ^ 400 * (1 * 5 ^ exponent) := by
            rw [Nat.one_mul]
            exact Nat.mul_le_mul_right _ (twoTo_le_tenTo (by omega))
        _ ≤ 10 ^ 400 * (significand * 5 ^ exponent) := by gcongr; omega
    have less := Nat.le_of_mul_le_mul_left many (by positivity)
    omega
  · rw [width_le_iff (by omega), Nat.pow_add]
    calc significand * 5 ^ exponent < 2 ^ 53 * 5 ^ exponent := by gcongr
      _ ≤ 10 ^ exponent * 10 ^ 400 := by
        rw [Nat.mul_comm]
        exact Nat.mul_le_mul (Nat.pow_le_pow_left (by norm_num) _) (twoTo_le_tenTo (by norm_num))

theorem toBinary64?_exact {number : Binary64} (finite : number.isFinite) :
    number.exact.toBinary64? = some number := by
  have small := number.significand_lt
  have least := number.least_le_power
  have most := power_le finite
  by_cases none : number.significand = 0
  · have zero := zero_of_significand none
    unfold exact
    split <;> simp [Decimal.toBinary64?, none, zero]
  have nonzero : 0 < number.significand := Nat.pos_of_ne_zero none
  unfold exact
  split
  next exponent power =>
    have digits : 0 < number.significand * twoTo exponent :=
      Nat.mul_pos nonzero (Nat.two_pow_pos _)
    have short : width (number.significand * twoTo exponent) ≤ 400 := by
      rw [width_le_iff (by norm_num)]
      calc number.significand * 2 ^ exponent < 2 ^ 53 * 2 ^ exponent := by gcongr
        _ = 2 ^ (53 + exponent) := (Nat.pow_add 2 53 exponent).symm
        _ ≤ 10 ^ 400 := twoTo_le_tenTo (by rw [Int.ofNat_eq_natCast] at power; omega)
    rw [Decimal.toBinary64?_eq_ofFraction? digits (by simp) (by simpa using short)]
    change ofFraction? number.negative (number.significand * twoTo exponent * tenTo 0) 1 = _
    apply ofFraction?_exact finite (Nat.mul_pos digits (by decide)) (by norm_num)
    rw [power, Int.ofNat_eq_natCast, zpow_natCast, twoTo_eq]
    simp [tenTo]
  next exponent power =>
    -- Powers of five in the digits make up for those of the power of ten below them.
    have digits : 0 < number.significand * 5 ^ (exponent + 1) :=
      Nat.mul_pos nonzero (by positivity)
    have range : exponent + 1 ≤ 1074 := by
      rw [Int.negSucc_eq] at power
      omega
    obtain ⟨long, short⟩ := width_bounds nonzero small range
    rw [Decimal.toBinary64?_eq_ofFraction? digits]
    · apply ofFraction?_exact finite digits (Nat.pow_pos (by norm_num))
      have powers : 10 ^ (exponent + 1) = 2 ^ (exponent + 1) * 5 ^ (exponent + 1) :=
        Nat.mul_pow 2 5 _
      rw [power, powers, zpow_negSucc]
      push_cast
      field_simp
    · simp only [Int.negSucc_eq]
      omega
    · simp only [Int.negSucc_eq]
      omega

end Binary64

theorem exists_literal {number : Binary64} (finite : number.isFinite) :
    ∃ literal, real? literal = some number := by
  have small : number.exact.exponent.natAbs < 65536 := by
    have least := number.least_le_power
    unfold Binary64.exact
    split
    next => exact Nat.zero_lt_succ _
    next exponent power =>
      rw [power] at least
      change exponent + 1 < 65536
      omega
  refine ⟨number.exact.written, ?_⟩
  rw [real?, Decimal.read?_written small]
  exact number.toBinary64?_exact finite

theorem Decimal.isFinite_of_toBinary64? {decimal : Decimal} {number : Binary64}
    (found : decimal.toBinary64? = some number) : number.isFinite := by
  simp only [toBinary64?] at found
  split at found
  next =>
    cases found
    exact Binary64.isFinite_zero _
  split at found
  next => cases found
  split at found <;> exact Binary64.isFinite_of_ofFraction? found

theorem isFinite_of_real? {literal : List Char} {number : Binary64}
    (reads : real? literal = some number) : number.isFinite := by
  obtain ⟨decimal, -, found⟩ := Option.bind_eq_some_iff.1 reads
  exact Decimal.isFinite_of_toBinary64? found

end CardSearch.Number
