import SequenceCheck.Binary64.Rounding

/-!
# The shortest decimal of a number

Every finite number has a decimal with at most seventeen digits that is read back as the number.
`Finite.shortest` is the one with the fewest digits, and among these the nearest to the number. A
number may lie halfway between two decimals that are both read back; which of them is taken is for
the caller, as a `Tie`.

For one digit, two digits and so on, the decimals with that many digits form a grid, and if any
of them is read back as the number then one of the number's two neighbours on the grid is. A
neighbour is accepted only if `Finite.ofDecimal?` reads the number back from it, so the answer
always reads back. Were no grid to have an answer, the exact decimal would be taken.
-/

set_option autoImplicit false

namespace SequenceCheck.Binary64

/-- A decimal number `digits * 10 ^ exponent`. -/
structure Decimal where
  digits : Nat
  exponent : Int
  deriving DecidableEq, Repr

namespace Decimal

/-- The same number without zeros at the end of its digits. -/
def trim (d : Decimal) : Decimal :=
  if d.digits ≠ 0 ∧ d.digits % 10 = 0 then trim ⟨d.digits / 10, d.exponent + 1⟩ else d
termination_by d.digits
decreasing_by omega

end Decimal

/-- Which of two equally near decimals is taken. -/
inductive Tie where
  | even
  | up
  deriving DecidableEq, Repr

/-- The two neighbours of `numerator / denominator` among the natural numbers, the preferred one
first: the nearer, or at equal distance the one that `tie` names. -/
def neighbours (tie : Tie) (numerator denominator : Nat) : List Nat :=
  let below := numerator / denominator
  let twice := 2 * (numerator % denominator)
  if twice < denominator ∨ (twice = denominator ∧ tie = .even ∧ below % 2 = 0) then
    [below, below + 1]
  else [below + 1, below]

/-- The exponent of the first decimal digit of `numerator / denominator`: the greatest `e` with
`10 ^ e ≤ numerator / denominator`. -/
def firstExponent (numerator denominator : Nat) : Int :=
  if denominator ≤ numerator then digitCount (numerator / denominator) - 1
  else
    let zeros := digitCount (denominator / numerator)
    if denominator ≤ numerator * 10 ^ (zeros - 1) then 1 - zeros else -zeros

namespace Finite

/-- The decimal that equals the magnitude of a number exactly, as `2 ^ (-n)` equals
`5 ^ n * 10 ^ (-n)`. -/
def exactDecimal (x : Finite) : Decimal :=
  ⟨x.units * 5 ^ unitExponent, -unitExponent⟩

/-- Whether a decimal, with the sign of a number, is read back as the number. -/
def readsBack (x : Finite) (d : Decimal) : Bool :=
  ofDecimal? x.negative d.digits d.exponent == some x

/-- The nearest decimal on the grid of the multiples of `10 ^ exponent` that is read back as a
number, if there is one. -/
def onGrid? (x : Finite) (tie : Tie) (exponent : Int) : Option Decimal :=
  ((neighbours tie (x.units * 10 ^ (-exponent).toNat) (2 ^ unitExponent * 10 ^ exponent.toNat)).map
    fun digits => Decimal.mk digits exponent).find? x.readsBack

/-- The decimal of a number's magnitude with the fewest digits that is read back as the number. -/
def shortest (x : Finite) (tie : Tie) : Decimal :=
  if x.significand = 0 then ⟨0, 0⟩
  else
    let first := firstExponent x.units (2 ^ unitExponent)
    let grids := (List.range 17).map fun (following : Nat) => first - following
    ((grids.findSome? (x.onGrid? tie)).getD x.exactDecimal).trim

end Finite

end SequenceCheck.Binary64
