import SequenceCheck.Binary64.Shortest

/-!
# Writing numbers

The text of an integer is its decimal digits. The text of a double precision number is made of its
sign, the digits of its shortest decimal and a layout. A `Layout` says for which exponents the
digits are written around a point, whether a whole number keeps a fraction `.0`, whether a positive
exponent has a sign, and which of two equally near decimals is taken. The layouts in use stand
beside the output that they write.
-/

set_option autoImplicit false

namespace SequenceCheck

/-- The text of an integer in decimal digits. -/
def writeInteger (value : Int) : List Char :=
  (if value < 0 then ['-'] else []) ++ Nat.toDigits 10 value.natAbs

namespace Binary64

/-- How the digits of a number are laid out. -/
structure Layout where
  /-- Whether a number whose first digit has this exponent is written with a point rather than an
  exponent. -/
  positional : Int → Bool
  /-- Whether a whole number written with a point ends in `.0`. -/
  keepsFraction : Bool
  /-- Whether an exponent that is not negative is written with a plus sign. -/
  signsExponent : Bool
  /-- Which of two equally near decimals is taken. -/
  tie : Tie

namespace Layout

/-- Digits around a point, where the first digit has the given exponent. -/
def writePositional (layout : Layout) (digits : List Char) (first : Int) : List Char :=
  if first < 0 then
    '0' :: '.' :: List.replicate (-first - 1).toNat '0' ++ digits
  else
    let whole := first.toNat + 1
    if digits.length ≤ whole then
      digits ++ List.replicate (whole - digits.length) '0' ++
        if layout.keepsFraction then ['.', '0'] else []
    else
      digits.take whole ++ '.' :: digits.drop whole

/-- An exponent with its sign. -/
def writeExponent (layout : Layout) (exponent : Int) : List Char :=
  (if exponent < 0 then ['-'] else if layout.signsExponent then ['+'] else []) ++
    Nat.toDigits 10 exponent.natAbs

/-- Digits as one digit, a point and the others, followed by the exponent of the first digit. -/
def writeScientific (layout : Layout) (digits : List Char) (first : Int) : List Char :=
  digits.take 1 ++ (if digits.length ≤ 1 then [] else '.' :: digits.drop 1) ++
    'e' :: layout.writeExponent first

/-- The text of a decimal. -/
def writeDecimal (layout : Layout) (d : Decimal) : List Char :=
  let digits := Nat.toDigits 10 d.digits
  let first := d.exponent + digits.length - 1
  if layout.positional first then layout.writePositional digits first
  else layout.writeScientific digits first

/-- The text of a finite number; a zero has a sign like any other number. -/
def writeFinite (layout : Layout) (x : Finite) : List Char :=
  (if x.negative then ['-'] else []) ++ layout.writeDecimal (x.shortest layout.tie)

/-- The text of a number. -/
def write (layout : Layout) : Binary64 → List Char
  | .nan => ['N', 'a', 'N']
  | .infinite negative => (if negative then ['-'] else []) ++ ['i', 'n', 'f']
  | .finite x => layout.writeFinite x

end Layout

end Binary64

end SequenceCheck
