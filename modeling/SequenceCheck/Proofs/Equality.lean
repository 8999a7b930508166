import SequenceCheck.Keyed
import SequenceCheck.Value

/-!
# Equality of scalars and of JSON values

Two scalars are equal if they are the same, except that the two zeros are equal and that what is not
a number equals nothing (`Value.same_iff_equal`). A JSON value without repeated keys equals itself
(`Json.same_self`).
-/

set_option autoImplicit false

namespace SequenceCheck

/-! ## Scalars -/

/-- Equal scalars: of one type, and of one value. -/
inductive Value.Equal : Value → Value → Prop where
  | null : Equal .null .null
  | boolean (value : Bool) : Equal (.boolean value) (.boolean value)
  | integer (value : Int64) : Equal (.integer value) (.integer value)
  | float (value : Binary64) : value ≠ .nan → Equal (.float value) (.float value)
  | zeros (first second : Bool) :
      Equal (.float (.finite (.zero first))) (.float (.finite (.zero second)))
  | string (value : String) : Equal (.string value) (.string value)

/-- A finite number with the significand zero is one of the two zeros. -/
theorem Binary64.Finite.eq_zero_of_significand_eq {x : Finite} (h : x.significand = 0) :
    x = zero x.negative := by
  have exponent : x.exponent = 0 := by
    rcases x.normal with none | large
    · exact none
    · omega
  cases x
  simp_all [zero]

/-- Finite numbers are equal if they are the same or two zeros. -/
theorem Binary64.Finite.same_iff {x y : Finite} :
    x.same y = true ↔ x = y ∨ ∃ first second, x = zero first ∧ y = zero second := by
  constructor
  · intro h
    simp only [same, Bool.and_eq_true, Bool.or_eq_true, beq_iff_eq] at h
    obtain ⟨⟨significand, exponent⟩, none | sign⟩ := h
    · -- The sign does not matter if the significand is zero, and then both are zero.
      exact .inr ⟨_, _, eq_zero_of_significand_eq none,
        eq_zero_of_significand_eq (significand.symm.trans none)⟩
    · cases x
      cases y
      simp_all
  · rintro (rfl | ⟨first, second, rfl, rfl⟩)
    · exact same_refl x
    · rfl

namespace Value

/-- What the comparison of scalars finds equal is equal. -/
theorem same_iff_equal {a b : Value} : a.same b = true ↔ Equal a b := by
  constructor
  · intro h
    match a, b, h with
    | .null, .null, _ => exact .null
    | .boolean _, .boolean _, h => exact beq_iff_eq.1 h ▸ .boolean _
    | .integer _, .integer _, h => exact beq_iff_eq.1 h ▸ .integer _
    | .string _, .string _, h => exact beq_iff_eq.1 h ▸ .string _
    | .float (.infinite _), .float (.infinite _), h => exact beq_iff_eq.1 h ▸ .float _ (by simp)
    | .float (.finite _), .float (.finite _), h =>
      rcases Binary64.Finite.same_iff.1 h with rfl | ⟨first, second, rfl, rfl⟩
      · exact .float _ (by simp)
      · exact .zeros first second
  · intro h
    cases h with
    | null => rfl
    | boolean value => exact beq_self_eq_true value
    | integer value => exact beq_self_eq_true value
    | string value => exact beq_self_eq_true value
    | zeros first second => rfl
    | float value number =>
      cases value with
      | nan => exact absurd rfl number
      | infinite negative => exact beq_self_eq_true negative
      | finite value => exact value.same_refl

/-- A scalar equals itself unless it is not a number. -/
theorem same_self {value : Value} (number : value ≠ .float .nan) : value.same value = true := by
  cases value with
  | null => rfl
  | boolean value => exact same_iff_equal.2 (.boolean value)
  | integer value => exact same_iff_equal.2 (.integer value)
  | float value => exact same_iff_equal.2 (.float value fun h => number (congrArg Value.float h))
  | string value => exact same_iff_equal.2 (.string value)

end Value

/-! ## JSON values -/

namespace Json

theorem Number.same_self (number : Number) : number.same number = true := by
  cases number with
  | integer value inRange => exact beq_self_eq_true value
  | float value => exact value.same_refl

mutual

/-- A value without repeated keys equals itself. -/
theorem same_self : ∀ json : Json, json.KeysDistinct → json.same json = true
  | .null, _ => by rw [same]
  | .boolean value, _ => by rw [same, beq_self_eq_true]
  | .number held, _ => by rw [same, held.same_self]
  | .string value, _ => by rw [same, beq_self_eq_true]
  | .array items, distinct => by
    rw [KeysDistinct] at distinct
    rw [same, sameItems_self items distinct]
  | .object fields, distinct => by
    rw [KeysDistinct] at distinct
    obtain ⟨nodup, inner⟩ := distinct
    -- Every field is found under its key, since no other field has it.
    have found := sameFields_of_lookup fields fields inner fun _ _ => Keyed.lookup_of_mem nodup
    rw [same, beq_self_eq_true, found]
    rfl

theorem sameItems_self : ∀ items : List Json, KeysDistinctItems items →
    sameItems items items = true
  | [], _ => by rw [sameItems]
  | item :: items, distinct => by
    rw [KeysDistinctItems] at distinct
    rw [sameItems, same_self item distinct.1, sameItems_self items distinct.2]
    rfl

theorem sameFields_of_lookup : ∀ fields others : List (String × Json), KeysDistinctFields fields →
    (∀ key value, (key, value) ∈ fields → others.lookup key = some value) →
    sameFields fields others = true
  | [], _, _, _ => by rw [sameFields]
  | (key, value) :: fields, others, distinct, found => by
    rw [KeysDistinctFields] at distinct
    rw [sameFields, found key value List.mem_cons_self]
    simp only [same_self value distinct.1, Bool.true_and]
    exact sameFields_of_lookup fields others distinct.2 fun other json mem =>
      found other json (List.mem_cons_of_mem _ mem)

end

end Json

end SequenceCheck
