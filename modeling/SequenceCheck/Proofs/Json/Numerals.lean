import Mathlib.Tactic.IntervalCases
import SequenceCheck.Json.Printer
import SequenceCheck.Json.Numeral
import SequenceCheck.Proofs.Binary64.Decimals

/-!
# Numbers read back

A numeral is read part by part: the digits before the point, a fraction, an exponent. Each part is
read back from its text if what follows cannot belong to it; `EndsNumeral` says so of what follows a
whole numeral.

Main statements: the numeral of a number, `Number.numeral`, is read from the text of the number
(`read?_write`), and its value is the number (`number?_numeral`).
-/

set_option autoImplicit false

namespace SequenceCheck.Json

open Binary64

namespace Numeral

/-- What stands after digits is not one. -/
def EndsDigits (rest : List Char) : Prop :=
  ∀ c ∈ rest.head?, c.isDigit = false

/-- What stands after a numeral is neither a digit nor a point nor the mark of an exponent. -/
def EndsNumeral (rest : List Char) : Prop :=
  ∀ c ∈ rest.head?, c.isDigit = false ∧ c ≠ '.' ∧ c ≠ 'e' ∧ c ≠ 'E'

theorem endsDigits_cons {c : Char} (other : c.isDigit = false) (rest : List Char) :
    EndsDigits (c :: rest) := by
  intro next mem
  obtain rfl := Option.some.inj mem
  exact other

theorem endsNumeral_cons {c : Char}
    (other : c.isDigit = false ∧ c ≠ '.' ∧ c ≠ 'e' ∧ c ≠ 'E') (rest : List Char) :
    EndsNumeral (c :: rest) := by
  intro next mem
  obtain rfl := Option.some.inj mem
  exact other

theorem EndsNumeral.endsDigits {rest : List Char} (ends : EndsNumeral rest) : EndsDigits rest :=
  fun c mem => (ends c mem).1

/-- The digits before a point: a zero alone, or digits that do not begin with one. -/
inductive IsWhole : List Char → Prop
  | zero : IsWhole ['0']
  | digits {first : Char} {others : List Char} :
      first ≠ '0' → (∀ c ∈ first :: others, c.isDigit = true) → IsWhole (first :: others)

theorem IsWhole.exists_cons {digits : List Char} (whole : IsWhole digits) :
    ∃ first others, digits = first :: others ∧ first.isDigit = true := by
  cases whole with
  | zero => exact ⟨'0', [], rfl, by decide⟩
  | digits _ each => exact ⟨_, _, rfl, each _ List.mem_cons_self⟩

theorem isDigit_of_mem_toDigits {n : Nat} : ∀ c ∈ Nat.toDigits 10 n, c.isDigit = true :=
  fun _ mem => Nat.isDigit_of_mem_toDigits (by decide) (by decide) mem

/-- The digits of a positive number do not begin with a zero. -/
theorem exists_toDigits_eq_cons {n : Nat} (positive : 0 < n) :
    ∃ first others, Nat.toDigits 10 n = first :: others ∧ first ≠ '0' := by
  induction n using Nat.strongRecOn with
  | ind n ih =>
    rw [Nat.toDigits_eq_if (by decide)]
    split
    · rename_i small
      refine ⟨_, _, rfl, ?_⟩
      interval_cases n <;> decide
    · obtain ⟨first, others, digits, nonzero⟩ := ih (n / 10) (by omega) (by omega)
      exact ⟨first, others ++ [Nat.digitChar (n % 10)], by rw [digits]; rfl, nonzero⟩

theorem isWhole_toDigits (n : Nat) : IsWhole (Nat.toDigits 10 n) := by
  rcases Nat.eq_zero_or_pos n with rfl | positive
  · exact .zero
  · obtain ⟨first, others, digits, nonzero⟩ := exists_toDigits_eq_cons positive
    rw [digits]
    exact .digits nonzero fun c mem => isDigit_of_mem_toDigits c (digits ▸ mem)

/-! ## Reading a part -/

section Parts

variable {digits rest : List Char}

theorem readDigits_append (each : ∀ c ∈ digits, c.isDigit = true) (ends : EndsDigits rest) :
    readDigits (digits ++ rest) = (digits, rest) := by
  rw [readDigits, List.takeWhile_append_of_pos each, List.dropWhile_append_of_pos each]
  cases rest with
  | nil => rw [List.takeWhile_nil, List.dropWhile_nil, List.append_nil]
  | cons c others =>
    have other := ends c rfl
    rw [List.takeWhile_cons_of_neg (by simp [other]), List.dropWhile_cons_of_neg (by simp [other]),
      List.append_nil]

theorem readWhole?_append (whole : IsWhole digits) (ends : EndsDigits rest) :
    readWhole? (digits ++ rest) = some (digits, rest) := by
  cases whole with
  | zero => rfl
  | digits nonzero each =>
    unfold readWhole?
    split
    · rename_i same
      exact absurd (List.cons.inj same).1 nonzero
    · rw [readDigits_append each ends]
      rfl

theorem readFraction?_point (nonempty : digits ≠ []) (each : ∀ c ∈ digits, c.isDigit = true)
    (ends : EndsDigits rest) : readFraction? ('.' :: digits ++ rest) = some (digits, rest) := by
  rw [List.cons_append, readFraction?, readDigits_append each ends]
  exact if_neg nonempty

theorem readFraction?_none (absent : ∀ c ∈ rest.head?, c ≠ '.') :
    readFraction? rest = some ([], rest) := by
  cases rest with
  | nil => rfl
  | cons c others =>
    unfold readFraction?
    split
    · rename_i same
      exact absurd (List.cons.inj same).1 (absent c rfl)
    · rfl

theorem readExponent?_none (absent : ∀ c ∈ rest.head?, c ≠ 'e' ∧ c ≠ 'E') :
    readExponent? rest = some (none, rest) := by
  cases rest with
  | nil => rfl
  | cons c others =>
    unfold readExponent?
    exact if_neg (not_or.2 (absent c rfl))

theorem readPower?_append (negative : Bool) (n : Nat) (ends : EndsDigits rest) :
    readPower? negative (Nat.toDigits 10 n ++ rest) =
      some (some (if negative then -(n : Int) else n), rest) := by
  have nonempty : Nat.toDigits 10 n ≠ [] := by
    obtain ⟨first, others, digits, -⟩ := (isWhole_toDigits n).exists_cons
    rw [digits]
    exact List.cons_ne_nil _ _
  rw [readPower?, readDigits_append isDigit_of_mem_toDigits ends]
  simp only [nonempty, if_false, Nat.ofDigitChars_ten_toDigits]

theorem readExponent?_digit {first : Char} (digit : first.isDigit = true) (text : List Char) :
    readExponent? ('e' :: first :: text) = readPower? false (first :: text) := by
  unfold readExponent?
  dsimp only
  rw [if_pos (.inl rfl)]
  split
  · rename_i same
    rw [(List.cons.inj same).1] at digit
    exact absurd digit (by decide)
  · rename_i same
    rw [(List.cons.inj same).1] at digit
    exact absurd digit (by decide)
  · rfl

/-- An exponent is read back, with a sign or without. -/
theorem readExponent?_writeExponent (layout : Layout) (exponent : Int) (ends : EndsDigits rest) :
    readExponent? ('e' :: layout.writeExponent exponent ++ rest) =
      some (some exponent, rest) := by
  rw [List.cons_append, Layout.writeExponent, List.append_assoc]
  split
  · have power := readPower?_append true exponent.natAbs ends
    rw [if_pos rfl, show -(exponent.natAbs : Int) = exponent by omega] at power
    exact power
  · have power := readPower?_append false exponent.natAbs ends
    rw [if_neg Bool.false_ne_true, show (exponent.natAbs : Int) = exponent by omega] at power
    split
    · exact power
    · obtain ⟨first, others, digits, digit⟩ := (isWhole_toDigits exponent.natAbs).exists_cons
      rw [digits] at power ⊢
      exact (readExponent?_digit digit (others ++ rest)).trans power

end Parts

/-- A numeral is read from its parts, one after the other. -/
theorem readUnsigned?_eq {negative : Bool} {whole fraction text first second rest : List Char}
    {exponent : Option Int} (readsWhole : readWhole? text = some (whole, first))
    (readsFraction : readFraction? first = some (fraction, second))
    (readsExponent : readExponent? second = some (exponent, rest)) :
    readUnsigned? negative text = some (
      { negative
        digits := Nat.ofDigitChars 10 (whole ++ fraction) 0
        exponent := exponent.getD 0 - fraction.length
        whole := fraction.isEmpty && exponent.isNone },
      rest) := by
  rw [readUnsigned?, readsWhole, Option.bind_eq_bind, Option.bind_some]
  simp only [readsFraction, readsExponent, Option.bind_eq_bind, Option.bind_some]

/-- Without its sign a numeral begins with a digit. -/
theorem exists_cons_of_readUnsigned? {negative : Bool} {text : List Char}
    {read : Numeral × List Char} (h : readUnsigned? negative text = some read) :
    ∃ first others, text = first :: others ∧ first.isDigit = true := by
  unfold readUnsigned? at h
  obtain ⟨parts, whole, -⟩ := Option.bind_eq_some_iff.1 h
  unfold readWhole? at whole
  split at whole
  · exact ⟨'0', _, rfl, by decide⟩
  · split at whole
    · cases whole
    · rename_i nonempty
      cases text with
      | nil => exact absurd rfl nonempty
      | cons first others =>
        refine ⟨first, others, rfl, ?_⟩
        by_contra other
        exact nonempty (List.takeWhile_cons_of_neg other)

/-- A sign is read before the digits. -/
theorem read?_sign {negative : Bool} {text : List Char} {read : Numeral × List Char}
    (h : readUnsigned? negative text = some read) :
    read? ((if negative then ['-'] else []) ++ text) = some read := by
  cases negative with
  | true => exact h
  | false =>
    obtain ⟨first, others, rfl, digit⟩ := exists_cons_of_readUnsigned? h
    rw [if_neg Bool.false_ne_true, List.nil_append]
    unfold read?
    split
    · rename_i same
      rw [(List.cons.inj same).1] at digit
      exact absurd digit (by decide)
    · exact h

/-- A numeral begins with a sign or a digit. -/
theorem exists_cons_of_read? {text : List Char} {read : Numeral × List Char}
    (h : read? text = some read) :
    ∃ first others, text = first :: others ∧ (first = '-' ∨ first.isDigit = true) := by
  unfold read? at h
  split at h
  · exact ⟨'-', _, rfl, .inl rfl⟩
  · obtain ⟨first, others, same, digit⟩ := exists_cons_of_readUnsigned? h
    exact ⟨first, others, same, .inr digit⟩

/-- Digits around a point are read as all of them together. -/
theorem readUnsigned?_point (negative : Bool) {whole fraction rest : List Char}
    (isWhole : IsWhole whole) (nonempty : fraction ≠ [])
    (each : ∀ c ∈ fraction, c.isDigit = true) (ends : EndsNumeral rest) :
    readUnsigned? negative (whole ++ ('.' :: fraction ++ rest)) = some (
      { negative
        digits := Nat.ofDigitChars 10 (whole ++ fraction) 0
        exponent := -fraction.length
        whole := false },
      rest) := by
  have point : EndsDigits ('.' :: fraction ++ rest) := endsDigits_cons (by decide) _
  rw [readUnsigned?_eq (readWhole?_append isWhole point)
    (readFraction?_point nonempty each ends.endsDigits)
    (readExponent?_none fun c mem => (ends c mem).2.2)]
  simp [nonempty]

/-- A digit, further digits after a point if there are any, and an exponent are read as all digits
together. -/
theorem readUnsigned?_exponent (negative : Bool) {first : Char} {others rest : List Char}
    (layout : Layout) (exponent : Int) (each : ∀ c ∈ first :: others, c.isDigit = true)
    (ends : EndsDigits rest) :
    readUnsigned? negative
        (first :: ((if others = [] then [] else '.' :: others) ++
          ('e' :: layout.writeExponent exponent ++ rest))) = some (
      { negative
        digits := Nat.ofDigitChars 10 (first :: others) 0
        exponent := exponent - others.length
        whole := false },
      rest) := by
  have isWhole : IsWhole [first] := by
    by_cases zero : first = '0'
    · rw [zero]
      exact .zero
    · exact .digits zero fun c mem => each c (by simp_all)
  have mark : EndsDigits ('e' :: layout.writeExponent exponent ++ rest) :=
    endsDigits_cons (by decide) _
  have exponents := readExponent?_writeExponent layout exponent ends
  by_cases alone : others = []
  · subst alone
    rw [if_pos rfl, List.nil_append]
    rw [← List.singleton_append, readUnsigned?_eq (readWhole?_append isWhole mark)
      (readFraction?_none fun c mem => by
        obtain rfl := Option.some.inj mem
        decide) exponents]
    simp
  · have point : EndsDigits ('.' :: others ++ ('e' :: layout.writeExponent exponent ++ rest)) :=
      endsDigits_cons (by decide) _
    rw [if_neg alone, ← List.singleton_append,
      readUnsigned?_eq (readWhole?_append isWhole point)
        (readFraction?_point alone (fun c mem => each c (List.mem_cons_of_mem _ mem)) mark)
        exponents]
    simp

/-! ## Reading a decimal -/

/-- The numeral that a decimal is written as: without an exponent if it is a whole number of few
digits, which then has one more zero after the point. -/
def ofDecimal (negative : Bool) (d : Decimal) : Numeral :=
  if 0 ≤ d.exponent ∧ d.exponent + (Nat.toDigits 10 d.digits).length ≤ 16 then
    ⟨negative, d.digits * 10 ^ (d.exponent.toNat + 1), -1, false⟩
  else ⟨negative, d.digits, d.exponent, false⟩

/-- The numeral of a decimal has its value. -/
theorem float?_ofDecimal (negative : Bool) (d : Decimal) :
    (ofDecimal negative d).float? = Finite.ofDecimal? negative d.digits d.exponent := by
  rw [ofDecimal]
  split
  · rename_i whole
    rw [float?, ← Finite.ofDecimal?_mul_pow negative d.digits d.exponent (d.exponent.toNat + 1)]
    dsimp only
    congr 1
    omega
  · rfl

/-- Zero apart, a decimal has a first digit that is not zero. -/
theorem isWhole_toDigits_append {d : Decimal} (nonzero : d = ⟨0, 0⟩ ∨ d.digits ≠ 0)
    (zeros : Nat) (few : d = ⟨0, 0⟩ → zeros = 0) :
    IsWhole (Nat.toDigits 10 d.digits ++ List.replicate zeros '0') := by
  rcases nonzero with rfl | positive
  · rw [few rfl]
    exact .zero
  · obtain ⟨first, others, digits, notZero⟩ := exists_toDigits_eq_cons (Nat.pos_of_ne_zero positive)
    have each := digits ▸ isDigit_of_mem_toDigits (n := d.digits)
    rw [digits, List.cons_append]
    refine .digits notZero fun c mem => ?_
    rw [← List.cons_append] at mem
    rcases List.mem_append.1 mem with written | zero
    · exact each c written
    · rw [List.eq_of_mem_replicate zero]
      decide

/-- A number that is read from the digits of a decimal among zeros. -/
theorem ofDigitChars_zeros (before n after : Nat) :
    Nat.ofDigitChars 10 (List.replicate before '0' ++ Nat.toDigits 10 n ++
      List.replicate after '0') 0 = n * 10 ^ after := by
  rw [Nat.ofDigitChars_append, Nat.ofDigitChars_append, Nat.ofDigitChars_replicate_zero,
    Nat.ofDigitChars_replicate_zero, Nat.mul_zero, Nat.ofDigitChars_ten_toDigits, Nat.mul_comm]

section Decimals

variable {d : Decimal} {rest : List Char} (negative : Bool)

/-- Digits behind the point, after zeros. -/
theorem readUnsigned?_below {first : Int}
    (place : first = d.exponent + (Nat.toDigits 10 d.digits).length - 1) (below : first < 0)
    (ends : EndsNumeral rest) :
    readUnsigned? negative
        (numberLayout.writePositional (Nat.toDigits 10 d.digits) first ++ rest) =
      some (ofDecimal negative d, rest) := by
  have each : ∀ c ∈ List.replicate (-first - 1).toNat '0' ++ Nat.toDigits 10 d.digits,
      c.isDigit = true := by
    intro c mem
    rcases List.mem_append.1 mem with zero | written
    · rw [List.eq_of_mem_replicate zero]
      decide
    · exact isDigit_of_mem_toDigits c written
  obtain ⟨c, others, digits, -⟩ := (isWhole_toDigits d.digits).exists_cons
  have nonempty : List.replicate (-first - 1).toNat '0' ++ Nat.toDigits 10 d.digits ≠ [] := by
    simp [digits]
  have value := ofDigitChars_zeros ((-first - 1).toNat + 1) d.digits 0
  have length : 0 < (Nat.toDigits 10 d.digits).length := by simp [digits]
  have reads := readUnsigned?_point negative .zero nonempty each ends
  rw [Layout.writePositional, if_pos below, ofDecimal, if_neg (by omega)]
  simp only [List.replicate_zero, List.append_nil, Nat.pow_zero, Nat.mul_one,
    List.replicate_succ, List.cons_append, List.nil_append] at value reads ⊢
  rw [reads, value, List.length_append, List.length_replicate]
  congr
  omega

/-- A whole number, with a zero after the point. -/
theorem readUnsigned?_whole (nonzero : d = ⟨0, 0⟩ ∨ d.digits ≠ 0) {first : Int}
    (place : first = d.exponent + (Nat.toDigits 10 d.digits).length - 1)
    (whole : 0 ≤ d.exponent) (few : first ≤ 15) (ends : EndsNumeral rest) :
    readUnsigned? negative
        (numberLayout.writePositional (Nat.toDigits 10 d.digits) first ++ rest) =
      some (ofDecimal negative d, rest) := by
  obtain ⟨c, others, digits, -⟩ := (isWhole_toDigits d.digits).exists_cons
  have length : 0 < (Nat.toDigits 10 d.digits).length := by simp [digits]
  generalize zeros : first.toNat + 1 - (Nat.toDigits 10 d.digits).length = count
  have isWhole := isWhole_toDigits_append nonzero count (by
    rintro rfl
    dsimp only at *
    omega)
  have value := ofDigitChars_zeros 0 d.digits (count + 1)
  have reads := readUnsigned?_point negative isWhole (List.cons_ne_nil '0' [])
    (List.forall_mem_singleton.2 rfl) ends
  have places : d.exponent.toNat + 1 = count + 1 := by omega
  rw [List.replicate_zero, List.nil_append, List.replicate_succ', ← List.append_assoc] at value
  rw [value] at reads
  rw [Layout.writePositional, if_neg (by omega)]
  dsimp only
  rw [if_pos (by omega), if_pos (show numberLayout.keepsFraction = true from rfl), zeros, ofDecimal,
    if_pos (by omega), places, List.append_assoc]
  exact reads

/-- Digits on both sides of the point. -/
theorem readUnsigned?_around {first : Int}
    (place : first = d.exponent + (Nat.toDigits 10 d.digits).length - 1) (below : d.exponent < 0)
    (inside : 0 ≤ first) (ends : EndsNumeral rest) :
    readUnsigned? negative
        (numberLayout.writePositional (Nat.toDigits 10 d.digits) first ++ rest) =
      some (ofDecimal negative d, rest) := by
  have positive : 0 < d.digits := by
    rcases Nat.eq_zero_or_pos d.digits with none | positive
    · rw [none] at place
      simp at place
      omega
    · exact positive
  obtain ⟨c, others, digits, notZero⟩ := exists_toDigits_eq_cons positive
  have each := isDigit_of_mem_toDigits (n := d.digits)
  have isWhole : IsWhole ((Nat.toDigits 10 d.digits).take (first.toNat + 1)) := by
    rw [digits] at each ⊢
    exact .digits notZero fun other mem =>
      each other (List.cons_subset_cons c (List.take_subset _ others) mem)
  have nonempty : (Nat.toDigits 10 d.digits).drop (first.toNat + 1) ≠ [] := by
    rw [Ne, List.drop_eq_nil_iff]
    omega
  have reads := readUnsigned?_point negative isWhole nonempty
    (fun other mem => each other (List.mem_of_mem_drop mem)) ends
  rw [List.take_append_drop, Nat.ofDigitChars_ten_toDigits, List.length_drop] at reads
  rw [Layout.writePositional, if_neg (by omega)]
  dsimp only
  rw [if_neg (by omega), ofDecimal, if_neg (by omega), List.append_assoc, reads]
  congr
  omega

/-- One digit before the point and an exponent. -/
theorem readUnsigned?_scientific {first : Int}
    (place : first = d.exponent + (Nat.toDigits 10 d.digits).length - 1)
    (outside : first < 0 ∨ 15 < first) (ends : EndsNumeral rest) :
    readUnsigned? negative
        (numberLayout.writeScientific (Nat.toDigits 10 d.digits) first ++ rest) =
      some (ofDecimal negative d, rest) := by
  have each := isDigit_of_mem_toDigits (n := d.digits)
  have value := Nat.ofDigitChars_ten_toDigits (n := d.digits)
  obtain ⟨c, others, digits, -⟩ := (isWhole_toDigits d.digits).exists_cons
  rw [digits] at each value
  rw [digits, List.length_cons] at place
  have reads := readUnsigned?_exponent negative numberLayout first each
    ends.endsDigits
  have numeral : ofDecimal negative d = ⟨negative, d.digits, d.exponent, false⟩ := by
    rw [ofDecimal, digits, List.length_cons]
    exact if_neg (by omega)
  have alone : (c :: others).length ≤ 1 ↔ others = [] := by
    rw [List.length_cons, ← List.length_eq_zero_iff]
    omega
  have exponent : first - (others.length : Int) = d.exponent := by omega
  rw [value, exponent] at reads
  rw [Layout.writeScientific, numeral, digits]
  simp only [alone, List.take_succ_cons, List.take_zero, List.drop_succ_cons, List.drop_zero,
    List.append_assoc, List.cons_append, List.nil_append] at reads ⊢
  exact reads

/-- A decimal is read back from its text. -/
theorem readUnsigned?_writeDecimal (nonzero : d = ⟨0, 0⟩ ∨ d.digits ≠ 0)
    (ends : EndsNumeral rest) :
    readUnsigned? negative (numberLayout.writeDecimal d ++ rest) =
      some (ofDecimal negative d, rest) := by
  rw [Layout.writeDecimal]
  generalize place : d.exponent + (Nat.toDigits 10 d.digits).length - 1 = first
  by_cases positional : -5 ≤ first ∧ first ≤ 15
  · rw [if_pos (by simpa [numberLayout] using positional)]
    rcases Int.lt_or_le first 0 with below | inside
    · exact readUnsigned?_below negative place.symm below ends
    · rcases Int.lt_or_le d.exponent 0 with fraction | whole
      · exact readUnsigned?_around negative place.symm fraction inside ends
      · exact readUnsigned?_whole negative nonzero place.symm whole positional.2 ends
  · -- The first digit is too far from the point on either side.
    rw [if_neg (by simpa [numberLayout] using positional)]
    exact readUnsigned?_scientific negative place.symm (by omega) ends

/-- An integer is read back from its digits. -/
theorem readUnsigned?_toDigits (n : Nat) (ends : EndsNumeral rest) :
    readUnsigned? negative (Nat.toDigits 10 n ++ rest) = some (⟨negative, n, 0, true⟩, rest) := by
  rw [readUnsigned?_eq (readWhole?_append (isWhole_toDigits n) ends.endsDigits)
    (readFraction?_none fun c mem => (ends c mem).2.1)
    (readExponent?_none fun c mem => (ends c mem).2.2), List.append_nil,
    Nat.ofDigitChars_ten_toDigits]
  rfl

end Decimals

end Numeral

/-! ## Numbers -/

namespace Number

/-- The numeral that a number is written as. -/
def numeral : Number → Numeral
  | .integer value _ => ⟨decide (value < 0), value.natAbs, 0, true⟩
  | .float x => .ofDecimal x.negative (x.shortest numberLayout.tie)

/-- The numeral of a number is read from the text of the number. -/
theorem read?_write (number : Number) {rest : List Char} (ends : Numeral.EndsNumeral rest) :
    Numeral.read? (number.write ++ rest) = some (number.numeral, rest) := by
  cases number with
  | integer value inRange =>
    have reads := Numeral.readUnsigned?_toDigits (decide (value < 0)) value.natAbs ends
    rw [write, writeInteger, List.append_assoc, numeral]
    simpa only [decide_eq_true_eq] using Numeral.read?_sign reads
  | float x =>
    have reads := Numeral.readUnsigned?_writeDecimal x.negative
      (x.shortest_eq_zero_or numberLayout.tie) ends
    rw [write, Layout.writeFinite, List.append_assoc]
    exact Numeral.read?_sign reads

/-- The numeral of a number has the number for its value. -/
theorem number?_numeral (number : Number) : number.numeral.number? = some number := by
  cases number with
  | integer value inRange =>
    have sign : (if decide (value < 0) = true then -(value.natAbs : Int) else value.natAbs) =
        value := by
      simp only [decide_eq_true_eq]
      omega
    rw [numeral, Numeral.number?, dif_pos]
    · simp only [sign]
    · refine ⟨rfl, ?_, ?_⟩
      · simp only [decide_eq_true_eq]
        omega
      · simp only [decide_eq_true_eq]
        split <;> omega
  | float x =>
    have whole : (Numeral.ofDecimal x.negative (x.shortest numberLayout.tie)).whole = false := by
      rw [Numeral.ofDecimal]
      split <;> rfl
    rw [numeral, Numeral.number?, dif_neg (by simp [whole]), Numeral.float?_ofDecimal,
      Finite.ofDecimal?_shortest]
    rfl

end Number

end SequenceCheck.Json
