/-!
# Double precision numbers

The numbers of sequences are IEEE 754 double precision numbers. They are held here as what they
are, a sign, a significand and an exponent, so that reading, writing and comparing them is exact
arithmetic on natural numbers.

The least positive number is `2 ^ (-1074)`, and each finite number is a multiple of it: its
magnitude is `significand * 2 ^ exponent` such units. The fields of `Finite` keep the
representation unique: the exponent is the least one with which the significand fits 53 bits.
-/

set_option autoImplicit false

namespace SequenceCheck

-- Powers are those of the core library, also beside an algebra library that has its own.
attribute [default_instance 20000] instPowNat

/-- Powers of natural numbers. -/
instance (priority := 2000) natPow : Pow Nat Nat :=
  instPowNat

namespace Binary64

/-- The least positive number, the unit in which magnitudes are counted, is
`2 ^ (-unitExponent)`. -/
def unitExponent : Nat := 1074

/-- A finite number: `significand * 2 ^ exponent` units, with a sign. Zero has two signs as
well. -/
structure Finite where
  negative : Bool
  significand : Nat
  exponent : Nat
  significand_lt : significand < 2 ^ 53
  exponent_le : exponent ≤ 2045
  normal : exponent = 0 ∨ 2 ^ 52 ≤ significand
  deriving DecidableEq

namespace Finite

/-- The magnitude of a number, counted in units. -/
def units (x : Finite) : Nat :=
  x.significand * 2 ^ x.exponent

/-- The zero of a sign. -/
def zero (negative : Bool) : Finite where
  negative := negative
  significand := 0
  exponent := 0
  significand_lt := by decide
  exponent_le := by decide
  normal := .inl rfl

/-- Equality of numbers: the two zeros are equal, all other numbers only to themselves. -/
def same (x y : Finite) : Bool :=
  x.significand == y.significand && x.exponent == y.exponent &&
    (x.significand == 0 || x.negative == y.negative)

theorem same_refl (x : Finite) : x.same x = true := by
  simp [same]

end Finite

end Binary64

/-- A double precision number. -/
inductive Binary64 where
  | nan
  | infinite (negative : Bool)
  | finite (x : Binary64.Finite)
  deriving DecidableEq

namespace Binary64

/-- Equality of numbers: a value that is not a number equals nothing, itself included. -/
def same : Binary64 → Binary64 → Bool
  | .infinite s, .infinite t => s == t
  | .finite x, .finite y => x.same y
  | _, _ => false

end Binary64

end SequenceCheck
