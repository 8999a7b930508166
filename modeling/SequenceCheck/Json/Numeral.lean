import SequenceCheck.Json.Basic

/-!
# Numbers as documents write them

A `Numeral` is a number as it stands in a JSON text: a sign, decimal digits and a power of ten. The
grammar is that of JSON: no leading zero, digits on both sides of a point, digits in an exponent.

`Numeral.number?` is the value. A numeral with neither a fraction nor an exponent that fits 64 bits,
with or without a sign, is an integer; minus zero and every other numeral is the nearest double
precision number, and there is none for a numeral that is too large.
-/

set_option autoImplicit false

namespace SequenceCheck.Json

/-- A number as written: `digits * 10 ^ exponent` with a sign. `whole` tells a numeral that has
neither a fraction nor an exponent. -/
structure Numeral where
  negative : Bool
  digits : Nat
  exponent : Int
  whole : Bool
  deriving DecidableEq, Repr

namespace Numeral

/-- The double precision number nearest to a numeral, unless it is too large. -/
def float? (numeral : Numeral) : Option Binary64.Finite :=
  Binary64.Finite.ofDecimal? numeral.negative numeral.digits numeral.exponent

/-- The value of a numeral, unless it is too large. -/
def number? (numeral : Numeral) : Option Number :=
  if whole : numeral.whole ∧ ¬ (numeral.negative ∧ numeral.digits = 0) ∧
      numeral.digits ≤ (if numeral.negative then 2 ^ 63 else 2 ^ 64 - 1) then
    some <| .integer (if numeral.negative then -numeral.digits else numeral.digits) <| by
      obtain ⟨_, _, fits⟩ := whole
      split at fits <;> simp_all <;> omega
  else
    numeral.float?.map .float

/-- The digits at the start of a text, and the rest of it. -/
def readDigits (text : List Char) : List Char × List Char :=
  (text.takeWhile Char.isDigit, text.dropWhile Char.isDigit)

/-- The digits before the point: a single zero, or digits that do not begin with one. -/
def readWhole? : List Char → Option (List Char × List Char)
  | '0' :: rest => some (['0'], rest)
  | text => if (readDigits text).1 = [] then none else some (readDigits text)

/-- The digits after a point, none if there is no point. -/
def readFraction? : List Char → Option (List Char × List Char)
  | '.' :: rest => if (readDigits rest).1 = [] then none else some (readDigits rest)
  | text => some ([], text)

/-- The digits of an exponent, as a number of the given sign. -/
def readPower? (negative : Bool) (text : List Char) : Option (Option Int × List Char) :=
  let (digits, rest) := readDigits text
  if digits = [] then none
  else
    let power : Int := Nat.ofDigitChars 10 digits 0
    some (some (if negative then -power else power), rest)

/-- The exponent, if there is one. -/
def readExponent? : List Char → Option (Option Int × List Char)
  | [] => some (none, [])
  | mark :: rest =>
    if mark = 'e' ∨ mark = 'E' then
      match rest with
      | '+' :: rest => readPower? false rest
      | '-' :: rest => readPower? true rest
      | rest => readPower? false rest
    else some (none, mark :: rest)

/-- A numeral without its sign, and the rest of the text. -/
def readUnsigned? (negative : Bool) (text : List Char) : Option (Numeral × List Char) := do
  let (whole, text) ← readWhole? text
  let (fraction, text) ← readFraction? text
  let (exponent, text) ← readExponent? text
  some (
    { negative
      digits := Nat.ofDigitChars 10 (whole ++ fraction) 0
      exponent := exponent.getD 0 - fraction.length
      whole := fraction.isEmpty && exponent.isNone },
    text)

/-- The numeral at the start of a text, and the rest of the text. -/
def read? : List Char → Option (Numeral × List Char)
  | '-' :: rest => readUnsigned? true rest
  | text => readUnsigned? false text

theorem length_readDigits (text : List Char) :
    (readDigits text).1.length + (readDigits text).2.length = text.length := by
  unfold readDigits
  rw [← List.length_append, List.takeWhile_append_dropWhile]

theorem length_readWhole? {text digits rest : List Char}
    (h : readWhole? text = some (digits, rest)) : rest.length < text.length := by
  have split := length_readDigits text
  unfold readWhole? at h
  split at h
  · simp_all
  · split at h
    · simp at h
    · rename_i nonempty
      have positive := List.length_pos_iff.2 nonempty
      rw [Option.some.injEq] at h
      rw [h] at split positive
      simp only at split positive
      omega

theorem length_readFraction? {text digits rest : List Char}
    (h : readFraction? text = some (digits, rest)) : rest.length ≤ text.length := by
  unfold readFraction? at h
  split at h
  · rename_i tail
    have split := length_readDigits tail
    split at h
    · simp at h
    · rw [Option.some.injEq] at h
      rw [h] at split
      simp only [List.length_cons] at split ⊢
      omega
  · simp_all

theorem length_readPower? {negative : Bool} {text rest : List Char} {power : Option Int}
    (h : readPower? negative text = some (power, rest)) : rest.length ≤ text.length := by
  have split := length_readDigits text
  unfold readPower? at h
  simp only at h
  split at h
  · simp at h
  · simp only [Option.some.injEq, Prod.mk.injEq] at h
    rw [h.2] at split
    omega

theorem length_readExponent? {text rest : List Char} {power : Option Int}
    (h : readExponent? text = some (power, rest)) : rest.length ≤ text.length := by
  unfold readExponent? at h
  split at h
  · simp_all
  · split at h
    · split at h
      all_goals
        have := length_readPower? h
        simp only [List.length_cons] at this ⊢
        omega
    · simp_all

theorem length_readUnsigned? {negative : Bool} {text rest : List Char} {numeral : Numeral}
    (h : readUnsigned? negative text = some (numeral, rest)) : rest.length < text.length := by
  unfold readUnsigned? at h
  simp only [Option.bind_eq_bind, Option.bind_eq_some_iff, Prod.exists, Option.some.injEq,
    Prod.mk.injEq] at h
  obtain ⟨_, _, whole, _, _, fraction, _, _, exponent, _, rfl⟩ := h
  have := length_readWhole? whole
  have := length_readFraction? fraction
  have := length_readExponent? exponent
  omega

theorem length_read? {text rest : List Char} {numeral : Numeral}
    (h : read? text = some (numeral, rest)) : rest.length < text.length := by
  unfold read? at h
  split at h
  · exact Nat.lt_succ_of_lt (length_readUnsigned? h)
  · exact length_readUnsigned? h

end Numeral

end SequenceCheck.Json

namespace SequenceCheck

/-- The double precision number that a text names: a numeral, or the name of a number that is not
finite. -/
def Binary64.ofText? (text : String) : Option Binary64 :=
  if text = "NaN" then some .nan
  else if text = "inf" then some (.infinite false)
  else if text = "-inf" then some (.infinite true)
  else
    match Json.Numeral.read? text.toList with
    | some (numeral, []) => numeral.float?.map .finite
    | _ => none

end SequenceCheck
