import SequenceCheck.Binary64.Basic

/-!
# Rounding to double precision

`Finite.nearest?` rounds a quotient of natural numbers, counted in units of the least positive
number, to the nearest number, a tie to the neighbour with an even significand. There is no answer
exactly when the rounded magnitude is beyond the largest number.

`Finite.ofDecimal?` does so for a decimal number `digits * 10 ^ exponent`. Magnitudes that are
zero or overflow whatever their digits are told from the place of the first digit alone, so that
an enormous exponent costs nothing.
-/

set_option autoImplicit false

namespace SequenceCheck.Binary64

/-- The natural number nearest to a quotient, a tie going to the even one. -/
def roundQuotient (numerator denominator : Nat) : Nat :=
  let quotient := numerator / denominator
  let twice := 2 * (numerator % denominator)
  if twice < denominator then quotient
  else if denominator < twice then quotient + 1
  else quotient + quotient % 2

/-- Rounding never goes below the whole part of a quotient. -/
theorem le_roundQuotient (numerator denominator : Nat) :
    numerator / denominator ≤ roundQuotient numerator denominator := by
  unfold roundQuotient
  dsimp only
  split
  · exact Nat.le_refl _
  · split <;> omega

/-- Rounding goes up to the next natural number at most. -/
theorem roundQuotient_le (numerator denominator : Nat) :
    roundQuotient numerator denominator ≤ numerator / denominator + 1 := by
  unfold roundQuotient
  dsimp only
  split
  · omega
  · split <;> omega

/-- The least exponent with which a magnitude fits a significand of 53 bits. -/
def exponentFor (magnitude : Nat) : Nat :=
  magnitude.log2 - 52

/-- With the least exponent a significand has at most 53 bits. -/
theorem div_exponentFor_lt (magnitude : Nat) : magnitude / 2 ^ exponentFor magnitude < 2 ^ 53 := by
  rw [Nat.div_lt_iff_lt_mul (Nat.two_pow_pos _), ← Nat.pow_add]
  refine Nat.lt_of_lt_of_le Nat.lt_log2_self (Nat.pow_le_pow_right (by decide) ?_)
  unfold exponentFor
  omega

/-- With the least exponent a significand has exactly 53 bits, unless the exponent is zero. -/
theorem le_div_exponentFor {magnitude : Nat} (positive : 0 < exponentFor magnitude) :
    2 ^ 52 ≤ magnitude / 2 ^ exponentFor magnitude := by
  have nonzero : magnitude ≠ 0 := by
    intro h
    simp [h, exponentFor] at positive
  rw [Nat.le_div_iff_mul_le (Nat.two_pow_pos _), ← Nat.pow_add]
  refine Nat.le_trans (Nat.pow_le_pow_right (by decide) ?_) (Nat.log2_self_le nonzero)
  unfold exponentFor at positive ⊢
  omega

namespace Finite

/-- The number of a significand and exponent, unless it is beyond the largest one. A significand
that rounding carried to `2 ^ 53` is halved. -/
def ofRounded? (negative : Bool) (significand exponent : Nat) (le : significand ≤ 2 ^ 53)
    (normal : exponent = 0 ∨ 2 ^ 52 ≤ significand) : Option Finite :=
  if carried : significand = 2 ^ 53 then
    if inRange : exponent + 1 ≤ 2045 then
      some ⟨negative, 2 ^ 52, exponent + 1, by decide, inRange, .inr (by decide)⟩
    else none
  else if inRange : exponent ≤ 2045 then
    some ⟨negative, significand, exponent, by omega, inRange, normal⟩
  else none

/-- The number nearest to `numerator / denominator` units, a tie going to the even
significand. -/
def nearest? (negative : Bool) (numerator denominator : Nat) : Option Finite :=
  let exponent := exponentFor (numerator / denominator)
  ofRounded? negative (roundQuotient numerator (denominator * 2 ^ exponent)) exponent
    (by
      have upper := roundQuotient_le numerator (denominator * 2 ^ exponent)
      have small : numerator / denominator / 2 ^ exponent < 2 ^ 53 := div_exponentFor_lt _
      rw [← Nat.div_div_eq_div_mul] at upper
      omega)
    (by
      have lower := le_roundQuotient numerator (denominator * 2 ^ exponent)
      rw [← Nat.div_div_eq_div_mul] at lower
      rcases Nat.eq_zero_or_pos exponent with none | positive
      · exact .inl none
      · exact .inr (Nat.le_trans (le_div_exponentFor positive) lower))

theorem isSome_ofRounded? {negative : Bool} {significand exponent : Nat}
    (le : significand ≤ 2 ^ 53) (normal : exponent = 0 ∨ 2 ^ 52 ≤ significand)
    (inRange : exponent < 2045) : (ofRounded? negative significand exponent le normal).isSome := by
  unfold ofRounded?
  split
  · rw [dif_pos (by omega)]
    rfl
  · rw [dif_pos (by omega)]
    rfl

theorem exponentFor_lt {magnitude : Nat} (small : magnitude < 2 ^ (unitExponent + 1023)) :
    exponentFor magnitude < 2045 := by
  unfold exponentFor
  rcases Nat.eq_zero_or_pos magnitude with rfl | positive
  · decide
  · have := (Nat.log2_lt (Nat.pos_iff_ne_zero.1 positive)).2 small
    have : unitExponent = 1074 := rfl
    omega

/-- A magnitude below `2 ^ 1023` does not overflow. -/
theorem isSome_nearest? {negative : Bool} {numerator denominator : Nat}
    (small : numerator / denominator < 2 ^ (unitExponent + 1023)) :
    (nearest? negative numerator denominator).isSome := by
  unfold nearest?
  exact isSome_ofRounded? _ _ (exponentFor_lt small)

theorem mul_two_pow_lt {n a b c : Nat} (small : n < 2 ^ a) (sum : a + b ≤ c) :
    n * 2 ^ b < 2 ^ c := by
  refine Nat.lt_of_lt_of_le (Nat.mul_lt_mul_of_pos_right small (Nat.two_pow_pos b)) ?_
  rw [← Nat.pow_add]
  exact Nat.pow_le_pow_right (by decide) sum

/-- The number nearest to a natural number of 64 bits. -/
def ofNat (n : Nat) (small : n < 2 ^ 64) : Finite :=
  (nearest? false (n * 2 ^ unitExponent) 1).get <| isSome_nearest? <| by
    rw [Nat.div_one]
    exact mul_two_pow_lt (b := unitExponent) small (by decide)

end Finite

/-- The number of decimal digits of a natural number; zero has one. -/
def digitCount (n : Nat) : Nat :=
  if n < 10 then 1 else digitCount (n / 10) + 1
termination_by n
decreasing_by omega

namespace Finite

/-- The number nearest to `digits * 10 ^ exponent`, a tie going to the even significand. With `top`
digits before the point, negative for zeros that follow it, the magnitude is below `10 ^ top` and
not below `10 ^ (top - 1)`: it rounds to zero below `10 ^ (-324)` and is beyond the largest number
from `10 ^ 309` on. -/
def ofDecimal? (negative : Bool) (digits : Nat) (exponent : Int) : Option Finite :=
  let top := exponent + digitCount digits
  if digits = 0 ∨ top ≤ -324 then some (zero negative)
  else if 310 ≤ top then none
  else
    nearest? negative (digits * 10 ^ exponent.toNat * 2 ^ unitExponent) (10 ^ (-exponent).toNat)

end Finite

end SequenceCheck.Binary64
