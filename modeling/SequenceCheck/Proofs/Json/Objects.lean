import SequenceCheck.Json.Format

/-!
# The fields of objects and the items of arrays

A JSON value has distinct keys if its parts have (`keysDistinctItems_iff`,
`keysDistinctFields_iff`), and `json.nesting` says how many arrays and objects are open at once in
it (`nestingItems_le_iff`, `nestingFields_le_iff`). A value that is found under a key is a part of
the object (`sizeOf_lt_of_lookup`, `keysDistinct_of_lookup`, `nesting_lt_of_lookup`).
-/

set_option autoImplicit false

namespace SequenceCheck.Json

theorem sizeOf_lt_of_lookup {key : String} {value : Json} :
    ∀ {fields : List (String × Json)}, fields.lookup key = some value →
      sizeOf value < sizeOf fields
  | (other, held) :: rest, found => by
    rw [List.lookup_cons] at found
    simp only [List.cons.sizeOf_spec, Prod.mk.sizeOf_spec]
    split at found
    · obtain rfl := Option.some.inj found
      omega
    · have := sizeOf_lt_of_lookup found
      omega

/-- A field of an object that is found under a key is a part of the whole object. -/
theorem sizeOf_lt_of_mem_object {fields entries : List (String × Json)} {key : String}
    {entry : String × Json} (found : fields.lookup key = some (.object entries))
    (mem : entry ∈ entries) : sizeOf entry.2 < sizeOf (object fields) := by
  have inObject := sizeOf_lt_of_lookup found
  have inEntries := List.sizeOf_lt_of_mem mem
  rcases entry with ⟨name, value⟩
  simp only [object.sizeOf_spec, Prod.mk.sizeOf_spec] at *
  omega

/-- An item of an array that is found under a key is a part of the whole object. -/
theorem sizeOf_lt_of_mem_array {fields : List (String × Json)} {items : List Json} {key : String}
    {item : Json} (found : fields.lookup key = some (.array items)) (mem : item ∈ items) :
    sizeOf item < sizeOf (object fields) := by
  have inObject := sizeOf_lt_of_lookup found
  have inItems := List.sizeOf_lt_of_mem mem
  simp only [object.sizeOf_spec, array.sizeOf_spec] at *
  omega

theorem keysDistinctItems_iff :
    ∀ {items : List Json}, KeysDistinctItems items ↔ ∀ item ∈ items, item.KeysDistinct
  | [] => by
    rw [KeysDistinctItems]
    exact iff_of_true trivial fun _ mem => absurd mem List.not_mem_nil
  | item :: items => by rw [KeysDistinctItems, List.forall_mem_cons, keysDistinctItems_iff]

theorem keysDistinctFields_iff :
    ∀ {fields : List (String × Json)},
      KeysDistinctFields fields ↔ ∀ field ∈ fields, field.2.KeysDistinct
  | [] => by
    rw [KeysDistinctFields]
    exact iff_of_true trivial fun _ mem => absurd mem List.not_mem_nil
  | (_, value) :: fields => by
    rw [KeysDistinctFields, List.forall_mem_cons, keysDistinctFields_iff]

/-- An object without repeated keys has none in the value of a field. -/
theorem keysDistinct_of_lookup {fields : List (String × Json)} {key : String} {value : Json}
    (distinct : (object fields).KeysDistinct) (found : fields.lookup key = some value) :
    value.KeysDistinct := by
  rw [KeysDistinct] at distinct
  obtain ⟨before, after, rfl, -⟩ := List.lookup_eq_some_iff.1 found
  exact keysDistinctFields_iff.1 distinct.2 _ (List.mem_append_right _ List.mem_cons_self)

/-- A text has no objects. -/
theorem keysDistinct_string (text : String) : (string text).KeysDistinct := by
  simp [KeysDistinct]

/-! ## Nesting -/

theorem nestingItems_le_iff {n : Nat} :
    ∀ {items : List Json}, nestingItems items ≤ n ↔ ∀ item ∈ items, item.nesting ≤ n
  | [] => by
    rw [nestingItems]
    exact iff_of_true (Nat.zero_le n) fun _ mem => absurd mem List.not_mem_nil
  | item :: items => by
    rw [nestingItems, Nat.max_le, List.forall_mem_cons, nestingItems_le_iff]

theorem nestingFields_le_iff {n : Nat} :
    ∀ {fields : List (String × Json)},
      nestingFields fields ≤ n ↔ ∀ field ∈ fields, field.2.nesting ≤ n
  | [] => by
    rw [nestingFields]
    exact iff_of_true (Nat.zero_le n) fun _ mem => absurd mem List.not_mem_nil
  | (_, value) :: fields => by
    rw [nestingFields, Nat.max_le, List.forall_mem_cons, nestingFields_le_iff]

/-- The value of a field is nested less than the object. -/
theorem nesting_lt_of_lookup {fields : List (String × Json)} {key : String} {value : Json}
    (found : fields.lookup key = some value) : value.nesting < (object fields).nesting := by
  obtain ⟨before, after, rfl, -⟩ := List.lookup_eq_some_iff.1 found
  rw [nesting, Nat.lt_succ_iff]
  have mem : (key, value) ∈ before ++ (key, value) :: after :=
    List.mem_append_right before List.mem_cons_self
  exact nestingFields_le_iff.1 (Nat.le_refl _) _ mem

end SequenceCheck.Json
