import Mathlib.Data.Nat.Dist
import Mathlib.Tactic.Ring
import SequenceCheck.Binary64.Rounding

/-!
# Rounding to the nearest number

`x.IsNearest numerator denominator` says that no magnitude is nearer to a quotient, counted in
units, than that of `x`, and that of two equally near numbers `x` is the even one.

Main statements: rounding a quotient gives a number that is nearest to it
(`isNearest_of_nearest?`), and so does taking a natural number of 64 bits for a double precision
number (`isNearest_ofNat`).
-/

set_option autoImplicit false

namespace SequenceCheck.Binary64

/-! ## Rounding a quotient -/

/-- A quotient is rounded down below the half and up above it, and at the half to the even
neighbour. -/
theorem roundQuotient_cases (numerator denominator : Nat) :
    (roundQuotient numerator denominator = numerator / denominator ∧
      (2 * (numerator % denominator) < denominator ∨
        2 * (numerator % denominator) = denominator ∧
          roundQuotient numerator denominator % 2 = 0)) ∨
    (roundQuotient numerator denominator = numerator / denominator + 1 ∧
      (denominator < 2 * (numerator % denominator) ∨
        2 * (numerator % denominator) = denominator ∧
          roundQuotient numerator denominator % 2 = 0)) := by
  unfold roundQuotient
  dsimp only
  split
  · omega
  · split <;> omega

/-- From a multiple below, a number is as far as whole steps and its remainder. -/
theorem dist_mul_of_le {k numerator denominator : Nat} (below : k ≤ numerator / denominator) :
    Nat.dist (k * denominator) numerator =
      (numerator / denominator - k) * denominator + numerator % denominator := by
  have split := Nat.div_add_mod' numerator denominator
  obtain ⟨steps, whole⟩ := Nat.exists_eq_add_of_le below
  rw [whole, Nat.add_mul] at split
  rw [whole, Nat.add_sub_cancel_left, Nat.dist_eq_sub_of_le (by omega)]
  omega

/-- From a multiple above, a number is as far as whole steps without its remainder. -/
theorem dist_mul_of_lt {k numerator denominator : Nat} (positive : 0 < denominator)
    (above : numerator / denominator < k) :
    Nat.dist (k * denominator) numerator =
      (k - numerator / denominator - 1) * denominator +
        (denominator - numerator % denominator) := by
  have small := Nat.mod_lt numerator positive
  have split := Nat.div_add_mod' numerator denominator
  obtain ⟨steps, whole⟩ := Nat.exists_eq_add_of_lt above
  have product : k * denominator =
      numerator / denominator * denominator + steps * denominator + denominator := by
    rw [whole]
    ring
  rw [show k - numerator / denominator - 1 = steps by omega, product,
    Nat.dist_eq_sub_of_le_right (by omega)]
  omega

/-- No multiple is nearer to a number than the rounded quotient, and if one is as near then it is
the same, or the rounded quotient is even. -/
theorem dist_roundQuotient_le {denominator : Nat} (positive : 0 < denominator)
    (numerator k : Nat) :
    Nat.dist (roundQuotient numerator denominator * denominator) numerator ≤
        Nat.dist (k * denominator) numerator ∧
      (Nat.dist (roundQuotient numerator denominator * denominator) numerator =
          Nat.dist (k * denominator) numerator →
        k = roundQuotient numerator denominator ∨ roundQuotient numerator denominator % 2 = 0) := by
  have small := Nat.mod_lt numerator positive
  -- The distance from `k` grows by the denominator with every step away from the quotient.
  have far : k = numerator / denominator ∧
        Nat.dist (k * denominator) numerator = numerator % denominator ∨
      k = numerator / denominator + 1 ∧
        Nat.dist (k * denominator) numerator = denominator - numerator % denominator ∨
      denominator ≤ Nat.dist (k * denominator) numerator := by
    rcases Nat.lt_trichotomy k (numerator / denominator) with below | same | above
    · have step := Nat.le_mul_of_pos_left denominator (Nat.sub_pos_of_lt below)
      rw [dist_mul_of_le below.le]
      omega
    · left
      rw [dist_mul_of_le same.le, same, Nat.sub_self, Nat.zero_mul, Nat.zero_add]
      exact ⟨rfl, rfl⟩
    · rw [dist_mul_of_lt positive above]
      rcases Nat.eq_zero_or_pos (k - numerator / denominator - 1) with next | further
      · right
        left
        rw [next, Nat.zero_mul, Nat.zero_add]
        exact ⟨by omega, rfl⟩
      · have step := Nat.le_mul_of_pos_left denominator further
        omega
  rcases roundQuotient_cases numerator denominator with ⟨down, half⟩ | ⟨up, half⟩
  · have here : Nat.dist (numerator / denominator * denominator) numerator = _ :=
      dist_mul_of_le (Nat.le_refl _)
    rw [Nat.sub_self, Nat.zero_mul, Nat.zero_add] at here
    rw [← down] at here far
    omega
  · have here := dist_mul_of_lt positive (Nat.lt_succ_self (numerator / denominator))
    rw [Nat.succ_eq_add_one, Nat.add_sub_cancel_left, Nat.sub_self, Nat.zero_mul,
      Nat.zero_add] at here
    rw [← up] at here far
    omega

namespace Finite

/-! ## Rounding to a number -/

/-- No magnitude is nearer to a quotient, counted in units, than that of a number; and one that is
as near is the same, or the number is the even one. -/
def IsNearest (x : Finite) (numerator denominator : Nat) : Prop :=
  ∀ y : Finite,
    Nat.dist (x.units * denominator) numerator ≤ Nat.dist (y.units * denominator) numerator ∧
      (Nat.dist (x.units * denominator) numerator = Nat.dist (y.units * denominator) numerator →
        y.units = x.units ∨ x.significand % 2 = 0)

/-- The number of a rounded significand has its sign and magnitude, and is even if it is. -/
theorem ofRounded?_eq_some {negative : Bool} {significand exponent : Nat}
    {le : significand ≤ 2 ^ 53} {normal : exponent = 0 ∨ 2 ^ 52 ≤ significand} {x : Finite}
    (h : ofRounded? negative significand exponent le normal = some x) :
    x.negative = negative ∧ x.units = significand * 2 ^ exponent ∧
      (significand % 2 = 0 → x.significand % 2 = 0) := by
  unfold ofRounded? at h
  split at h
  · rename_i carried
    split at h
    · cases h
      refine ⟨rfl, ?_, fun _ => Nat.pow_mod 2 52 2⟩
      rw [units, carried, Nat.pow_succ 2 exponent, Nat.pow_succ 2 52]
      ring
    · cases h
  · split at h
    · cases h
      exact ⟨rfl, rfl, id⟩
    · cases h

/-- A rounded number has the sign that was asked for and is nearest to the quotient. -/
theorem isNearest_of_nearest? {negative : Bool} {numerator denominator : Nat} {x : Finite}
    (positive : 0 < denominator) (h : nearest? negative numerator denominator = some x) :
    x.negative = negative ∧ x.IsNearest numerator denominator := by
  unfold nearest? at h
  obtain ⟨sign, magnitude, even⟩ := ofRounded?_eq_some h
  refine ⟨sign, fun y => ?_⟩
  generalize grid : exponentFor (numerator / denominator) = exponent at magnitude even
  have stepPositive : 0 < denominator * 2 ^ exponent :=
    Nat.mul_pos positive (Nat.two_pow_pos exponent)
  have scaled : x.units * denominator =
      roundQuotient numerator (denominator * 2 ^ exponent) * (denominator * 2 ^ exponent) := by
    rw [magnitude]
    ring
  rw [scaled]
  rcases Nat.lt_or_ge y.exponent exponent with fine | coarse
  · -- A number of a smaller exponent lies below the least one of this exponent, which lies below
    -- the quotient.
    have least : 2 ^ 52 ≤ numerator / (denominator * 2 ^ exponent) := by
      rw [← Nat.div_div_eq_div_mul, ← grid]
      exact le_div_exponentFor (by omega)
    have whole := Nat.mul_le_of_le_div _ _ _ least
    have lower : y.units * denominator < 2 ^ 52 * (denominator * 2 ^ exponent) := by
      have smaller : 2 ^ y.exponent * 2 ≤ 2 ^ exponent := by
        rw [← Nat.pow_succ]
        exact Nat.pow_le_pow_right (by decide) fine
      calc y.units * denominator
          = y.significand * (2 ^ y.exponent * denominator) := by rw [units, Nat.mul_assoc]
        _ < 2 ^ 53 * (2 ^ y.exponent * denominator) :=
            Nat.mul_lt_mul_of_pos_right y.significand_lt
              (Nat.mul_pos (Nat.two_pow_pos _) positive)
        _ = 2 ^ 52 * (denominator * (2 ^ y.exponent * 2)) := by ring
        _ ≤ 2 ^ 52 * (denominator * 2 ^ exponent) :=
            Nat.mul_le_mul_left _ (Nat.mul_le_mul_left _ smaller)
    obtain ⟨le, -⟩ := dist_roundQuotient_le stepPositive numerator (2 ^ 52)
    rw [Nat.dist_eq_sub_of_le whole] at le
    have far : Nat.dist (y.units * denominator) numerator = numerator - y.units * denominator :=
      Nat.dist_eq_sub_of_le (by omega)
    constructor
    · omega
    · omega
  · -- A number of this exponent or a greater one lies on the grid that was rounded to.
    have onGrid : y.units * denominator =
        y.significand * 2 ^ (y.exponent - exponent) * (denominator * 2 ^ exponent) := by
      rw [units, ← Nat.sub_add_cancel coarse, Nat.pow_add, Nat.add_sub_cancel]
      ring
    rw [onGrid]
    obtain ⟨le, tie⟩ := dist_roundQuotient_le stepPositive numerator
      (y.significand * 2 ^ (y.exponent - exponent))
    refine ⟨le, fun same => (tie same).imp (fun whole => ?_) even⟩
    rw [magnitude, ← whole, units, ← Nat.sub_add_cancel coarse, Nat.pow_add, Nat.add_sub_cancel]
    ring

/-- A natural number of 64 bits is taken for the number nearest to it. -/
theorem isNearest_ofNat {n : Nat} (small : n < 2 ^ 64) :
    (ofNat n small).negative = false ∧ (ofNat n small).IsNearest (n * 2 ^ unitExponent) 1 :=
  isNearest_of_nearest? Nat.one_pos (Option.some_get _).symm

end Finite

end SequenceCheck.Binary64
