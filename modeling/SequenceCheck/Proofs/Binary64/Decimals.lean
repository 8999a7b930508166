import Mathlib.Tactic.Ring
import SequenceCheck.Binary64.Shortest

/-!
# Decimals that read back

Rounding a quotient depends on its value alone, and so does reading a decimal: a zero may be moved
between its digits and its exponent (`ofDecimal?_mul_pow`). Every number is read back from the
decimal that equals it (`readsBack_exactDecimal`).

Main statement: a number is read back from its shortest decimal (`ofDecimal?_shortest`).
-/

set_option autoImplicit false

namespace SequenceCheck.Binary64

/-! ## Rounding depends on the value -/

/-- A common factor has no influence on how a quotient is rounded. -/
theorem roundQuotient_mul {factor : Nat} (positive : 0 < factor) (numerator denominator : Nat) :
    roundQuotient (numerator * factor) (denominator * factor) =
      roundQuotient numerator denominator := by
  unfold roundQuotient
  simp only [Nat.mul_div_mul_right _ _ positive, Nat.mul_mod_mul_right, ← Nat.mul_assoc,
    Nat.mul_lt_mul_right positive]

theorem digitCount_eq_length (n : Nat) : digitCount n = (Nat.toDigits 10 n).length := by
  fun_induction digitCount n with
  | case1 n small => rw [Nat.toDigits_of_lt_base small, List.length_singleton]
  | case2 n large ih =>
    rw [Nat.toDigits_eq_if (by decide), if_neg large, List.length_append, ih, List.length_singleton]

/-- A number has at most `k` digits if it is below `10 ^ k`. -/
theorem digitCount_le_iff {n k : Nat} (positive : 0 < k) : digitCount n ≤ k ↔ n < 10 ^ k := by
  rw [digitCount_eq_length]
  exact Nat.length_toDigits_le_iff (by decide) positive

/-- A zero at the end is one more digit. -/
theorem digitCount_mul_ten {n : Nat} (positive : 0 < n) :
    digitCount (n * 10) = digitCount n + 1 := by
  rw [digitCount, if_neg (by omega), Nat.mul_div_cancel n (by decide)]

namespace Finite

/-- A common factor has no influence on which number is nearest to a quotient. -/
theorem nearest?_mul {factor : Nat} (positive : 0 < factor) (negative : Bool)
    (numerator denominator : Nat) :
    nearest? negative (numerator * factor) (denominator * factor) =
      nearest? negative numerator denominator := by
  unfold nearest?
  simp only [Nat.mul_div_mul_right _ _ positive, Nat.mul_right_comm denominator factor,
    roundQuotient_mul positive]

/-- Zero is read whatever the exponent. -/
theorem ofDecimal?_zero (negative : Bool) (exponent : Int) :
    ofDecimal? negative 0 exponent = some (zero negative) := by
  rw [ofDecimal?, if_pos (.inl rfl)]

/-- A zero at the end of the digits counts as one in the exponent. -/
theorem ofDecimal?_mul_ten (negative : Bool) (digits : Nat) (exponent : Int) :
    ofDecimal? negative (digits * 10) (exponent - 1) = ofDecimal? negative digits exponent := by
  rcases Nat.eq_zero_or_pos digits with rfl | positive
  · rw [Nat.zero_mul, ofDecimal?_zero, ofDecimal?_zero]
  · have top : exponent - 1 + ((digitCount digits + 1 : Nat) : Int) =
        exponent + (digitCount digits : Int) := by omega
    have nearest : nearest? negative
          (digits * 10 * 10 ^ (exponent - 1).toNat * 2 ^ unitExponent)
          (10 ^ (-(exponent - 1)).toNat) =
        nearest? negative (digits * 10 ^ exponent.toNat * 2 ^ unitExponent)
          (10 ^ (-exponent).toNat) := by
      generalize 2 ^ unitExponent = unit
      rcases Int.lt_or_le 0 exponent with whole | fraction
      · -- The factor stays in the numerator.
        rw [show exponent.toNat = (exponent - 1).toNat + 1 by omega,
          show (-(exponent - 1)).toNat = (-exponent).toNat by omega]
        congr 1
        ring
      · -- The factor is in the numerator and in the denominator.
        rw [show (exponent - 1).toNat = exponent.toNat by omega,
          show (-(exponent - 1)).toNat = (-exponent).toNat + 1 by omega, Nat.pow_succ,
          ← nearest?_mul (by decide : 0 < 10) negative (digits * 10 ^ exponent.toNat * unit)]
        congr 1
        ring
    have nonzero : digits * 10 ≠ 0 ∧ digits ≠ 0 := by omega
    rw [ofDecimal?, ofDecimal?, digitCount_mul_ten positive, top, nearest]
    simp only [nonzero.1, nonzero.2, false_or]

/-- Zeros at the end of the digits count in the exponent. -/
theorem ofDecimal?_mul_pow (negative : Bool) (digits : Nat) (exponent : Int) (zeros : Nat) :
    ofDecimal? negative (digits * 10 ^ zeros) (exponent - zeros) =
      ofDecimal? negative digits exponent := by
  induction zeros with
  | zero => rw [Nat.pow_zero, Nat.mul_one, Int.natCast_zero, Int.sub_zero]
  | succ zeros ih =>
    have moved := ofDecimal?_mul_ten negative (digits * 10 ^ zeros) (exponent - zeros)
    rw [← ih, ← moved, Nat.pow_succ, Nat.mul_assoc, Int.natCast_succ, ← Int.sub_sub]

/-- Without the zeros at its end a decimal is read as the same number. -/
theorem ofDecimal?_trim (negative : Bool) (d : Decimal) :
    ofDecimal? negative d.trim.digits d.trim.exponent =
      ofDecimal? negative d.digits d.exponent := by
  fun_induction Decimal.trim d with
  | case1 d zero ih =>
    rw [ih, ← ofDecimal?_mul_ten, Nat.div_mul_cancel (Nat.dvd_of_mod_eq_zero zero.2),
      Int.add_sub_cancel]
  | case2 d _ => rfl

/-! ## The decimal that equals a number -/

/-- The exponent of a number is the least one for its magnitude. -/
theorem exponentFor_units (x : Finite) : exponentFor x.units = x.exponent := by
  unfold exponentFor
  rcases x.normal with least | whole
  · have small : x.units < 2 ^ 53 := by
      rw [units, least, Nat.pow_zero, Nat.mul_one]
      exact x.significand_lt
    rcases Nat.eq_zero_or_pos x.units with none | positive
    · rw [none, least]
      decide
    · have := (Nat.log2_lt (Nat.pos_iff_ne_zero.1 positive)).2 small
      omega
  · have lower : 2 ^ (52 + x.exponent) ≤ x.units := by
      rw [units, Nat.pow_add]
      exact Nat.mul_le_mul_right _ whole
    have upper : x.units < 2 ^ (52 + x.exponent + 1) := by
      rw [units, Nat.add_right_comm, Nat.pow_add]
      exact Nat.mul_lt_mul_of_pos_right x.significand_lt (Nat.two_pow_pos _)
    have positive := Nat.lt_of_lt_of_le (Nat.two_pow_pos (52 + x.exponent)) lower
    rw [(Nat.log2_eq_iff (Nat.pos_iff_ne_zero.1 positive)).2 ⟨lower, upper⟩]
    omega

theorem ofRounded?_self {x : Finite} {significand exponent : Nat} {le : significand ≤ 2 ^ 53}
    {normal : exponent = 0 ∨ 2 ^ 52 ≤ significand} (sameSignificand : significand = x.significand)
    (sameExponent : exponent = x.exponent) :
    ofRounded? x.negative significand exponent le normal = some x := by
  subst sameSignificand sameExponent
  rw [ofRounded?, dif_neg (Nat.ne_of_lt x.significand_lt), dif_pos x.exponent_le]

/-- A number is nearest to its own magnitude. -/
theorem nearest?_units (x : Finite) : nearest? x.negative x.units 1 = some x := by
  unfold nearest?
  have exponent : exponentFor (x.units / 1) = x.exponent := by
    rw [Nat.div_one, exponentFor_units]
  refine ofRounded?_self ?_ exponent
  rw [exponent, units, roundQuotient_mul (Nat.two_pow_pos _), roundQuotient, Nat.div_one,
    Nat.mod_one]
  rfl

/-- Powers of five and two make one of ten. -/
theorem nearest?_mul_five_pow (negative : Bool) (n places : Nat) :
    nearest? negative (n * 5 ^ places * 2 ^ places) (10 ^ places) = nearest? negative n 1 := by
  have factors : 5 ^ places * 2 ^ places = 10 ^ places := (Nat.mul_pow 5 2 places).symm
  have positive : 0 < 10 ^ places := Nat.pow_pos (by decide)
  rw [Nat.mul_assoc, factors, ← nearest?_mul positive negative n 1, Nat.one_mul]

theorem le_mul_five_pow {n b c : Nat} (positive : 0 < n) (bound : 10 ^ c ≤ 5 ^ b) :
    10 ^ c ≤ n * 5 ^ b :=
  Nat.le_trans bound (Nat.le_mul_of_pos_left _ positive)

theorem mul_five_pow_lt {n a b c : Nat} (small : n < 2 ^ a) (bound : 2 ^ a * 5 ^ b ≤ 10 ^ c) :
    n * 5 ^ b < 10 ^ c :=
  Nat.lt_of_lt_of_le (Nat.mul_lt_mul_of_pos_right small (Nat.pow_pos (by decide))) bound

/-- The decimal that equals a number has its first digit between the places from which on magnitudes
vanish or overflow. -/
theorem digitCount_exactDecimal {x : Finite} (nonzero : x.significand ≠ 0) :
    750 < digitCount x.exactDecimal.digits ∧ digitCount x.exactDecimal.digits ≤ 1383 := by
  have positive : 0 < x.units := Nat.mul_pos (Nat.pos_of_ne_zero nonzero) (Nat.two_pow_pos _)
  have exponents : 53 + x.exponent ≤ 2098 := Nat.add_le_add_left x.exponent_le 53
  have magnitude := mul_two_pow_lt x.significand_lt exponents
  constructor
  · rw [← Nat.not_le, digitCount_le_iff (by decide), Nat.not_lt]
    exact le_mul_five_pow positive (by decide +kernel)
  · rw [digitCount_le_iff (by decide)]
    exact mul_five_pow_lt magnitude (by decide +kernel)

/-- A number is read back from the decimal that equals it. -/
theorem readsBack_exactDecimal {x : Finite} (nonzero : x.significand ≠ 0) :
    ofDecimal? x.negative x.exactDecimal.digits x.exactDecimal.exponent = some x := by
  obtain ⟨lower, upper⟩ := digitCount_exactDecimal nonzero
  have digits : x.exactDecimal.digits ≠ 0 := by
    intro none
    rw [none, digitCount, if_pos (by decide)] at lower
    omega
  have exponent : x.exactDecimal.exponent = -1074 := rfl
  have places : (-x.exactDecimal.exponent).toNat = unitExponent := rfl
  have nearest := (nearest?_mul_five_pow x.negative x.units unitExponent).trans x.nearest?_units
  rw [ofDecimal?, if_neg (by omega), if_neg (by omega), places]
  rw [exactDecimal, Int.toNat_neg_natCast, Nat.pow_zero, Nat.mul_one]
  exact nearest

/-! ## The shortest decimal -/

/-- A number that is zero is a zero. -/
theorem eq_zero_of_significand {x : Finite} (h : x.significand = 0) : x = zero x.negative := by
  rcases x with ⟨negative, significand, exponent, _, _, normal⟩
  obtain rfl : significand = 0 := h
  obtain rfl : exponent = 0 := normal.resolve_right (by decide)
  rfl

/-- A number is read back from its shortest decimal. -/
theorem ofDecimal?_shortest (x : Finite) (tie : Tie) :
    ofDecimal? x.negative (x.shortest tie).digits (x.shortest tie).exponent = some x := by
  rw [shortest]
  split
  · rename_i zero
    rw [ofDecimal?_zero, ← eq_zero_of_significand zero]
  · rename_i nonzero
    rw [ofDecimal?_trim]
    generalize List.map _ _ = grids
    cases found : grids.findSome? (x.onGrid? tie) with
    | none => exact readsBack_exactDecimal nonzero
    | some d =>
      obtain ⟨exponent, -, onGrid⟩ := List.exists_of_findSome?_eq_some found
      have reads := List.find?_some onGrid
      rw [readsBack, beq_iff_eq] at reads
      exact reads

/-- Only zero has a shortest decimal without digits other than zero. -/
theorem shortest_eq_zero_or (x : Finite) (tie : Tie) :
    x.shortest tie = ⟨0, 0⟩ ∨ (x.shortest tie).digits ≠ 0 := by
  by_cases zero : x.significand = 0
  · exact .inl (if_pos zero)
  · refine .inr fun none => zero ?_
    have reads := x.ofDecimal?_shortest tie
    rw [none, ofDecimal?_zero] at reads
    rw [← Option.some.inj reads]
    rfl

end Finite

end SequenceCheck.Binary64
