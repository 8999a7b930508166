import SequenceCheck.Outline.Decode

/-!
# Reading part by part

Arguments are read one after the other, and so is a body; `decodeArg` and `decodeChild` read one of
them. What is read of a field of an object is an argument of one of three sorts (`decodeArg_cases`),
and the fields `args` and `body` are those that the object has first under these keys
(`decodeArgsField_eq`, `decodeBodyField_eq`).
-/

set_option autoImplicit false

namespace SequenceCheck.Outline

/-- Steps that gave a result each gave one. -/
theorem exists_of_bind_eq_ok {ε α β : Type} {first : Except ε α} {next : α → Except ε β}
    {result : β} (h : (first >>= next) = .ok result) :
    ∃ a, first = .ok a ∧ next a = .ok result := by
  cases first with
  | ok a => exact ⟨a, rfl, h⟩
  | error e => cases h

/-- A JSON value that is neither a scalar nor a node. -/
def IsMalformed (raw : Json) : Prop :=
  Value.ofJson? raw = none ∧ namesKind raw = false

variable [Json.Format]

/-- The argument that a field of an object describes. -/
def decodeArg (path : Path) (key : String) (value : Json) :
    Except DecodeError (Arg Outline Value) :=
  match Value.ofJson? value with
  | some scalar => .ok (.leaf scalar)
  | none =>
    if namesKind value then (decode (path ++ [Step.arg key]) value).map .node
    else .ok (.malformed value)

/-- The body child that an item of an array describes. -/
def decodeChild (path : Path) (index : Nat) (item : Json) : Except DecodeError Outline :=
  if item.isObject then decode (path ++ [Step.child index]) item
  else .error (.badBody (path ++ [Step.child index]))

theorem decodeArgs_cons (path : Path) (key : String) (value : Json)
    (entries : List (String × Json)) :
    decodeArgs path ((key, value) :: entries) = (do
      let arg ← decodeArg path key value
      let args ← decodeArgs path entries
      .ok ((key, arg) :: args)) := by
  rw [decodeArgs, decodeArg]
  cases Value.ofJson? value with
  | some scalar => rfl
  | none => cases namesKind value <;> rfl

theorem decodeBody_cons (path : Path) (index : Nat) (item : Json) (items : List Json) :
    decodeBody path index (item :: items) = (do
      let child ← decodeChild path index item
      let children ← decodeBody path (index + 1) items
      .ok (child :: children)) := by
  rw [decodeBody, decodeChild]
  cases item.isObject <;> rfl

/-- What the field `args` of an object says about the arguments, if the object has the field. -/
theorem decodeArgsField_eq (path : Path) (fields : List (String × Json)) :
    decodeArgsField path fields =
      match fields.lookup "args" with
      | none | some .null => .ok []
      | some (.object entries) => decodeArgs path entries
      | some _ => .error (.badArgs path) := by
  induction fields with
  | nil => rw [decodeArgsField]; rfl
  | cons field rest ih =>
    rcases field with ⟨key, value⟩
    by_cases here : key = "args"
    · subst here
      rw [List.lookup_cons_self]
      cases value <;> simp [decodeArgsField]
    · have later : ("args" == key) = false := beq_false_of_ne (Ne.symm here)
      rw [List.lookup_cons, later, ← ih]
      cases value <;> simp [decodeArgsField, here]

/-- What the field `body` of an object says about the body, if the object has the field. -/
theorem decodeBodyField_eq (path : Path) (fields : List (String × Json)) :
    decodeBodyField path fields =
      match fields.lookup "body" with
      | none | some .null => .ok []
      | some (.array items) => decodeBody path 0 items
      | some _ => .error (.badBody path) := by
  induction fields with
  | nil => rw [decodeBodyField]; rfl
  | cons field rest ih =>
    rcases field with ⟨key, value⟩
    by_cases here : key = "body"
    · subst here
      rw [List.lookup_cons_self]
      cases value <;> simp [decodeBodyField]
    · have later : ("body" == key) = false := beq_false_of_ne (Ne.symm here)
      rw [List.lookup_cons, later, ← ih]
      cases value <;> simp [decodeBodyField, here]

/-! ## What was read of a part -/

/-- An argument is the leaf of a scalar, the node of an object that names a kind, or a malformed
value as it is. -/
theorem decodeArg_cases {path : Path} {key : String} {value : Json} {arg : Arg Outline Value}
    (h : decodeArg path key value = .ok arg) :
    (∃ scalar, Value.ofJson? value = some scalar ∧ arg = .leaf scalar) ∨
    (∃ outline, decode (path ++ [Step.arg key]) value = .ok outline ∧ arg = .node outline) ∨
    IsMalformed value ∧ arg = .malformed value := by
  rw [decodeArg] at h
  cases reads : Value.ofJson? value with
  | some scalar =>
    rw [reads] at h
    cases h
    exact .inl ⟨scalar, rfl, rfl⟩
  | none =>
    rw [reads] at h
    right
    cases names : namesKind value with
    | true =>
      rw [names] at h
      cases inner : decode (path ++ [Step.arg key]) value with
      | ok outline =>
        rw [inner] at h
        cases h
        exact .inl ⟨outline, rfl, rfl⟩
      | error e =>
        rw [inner] at h
        cases h
    | false =>
      rw [names] at h
      cases h
      exact .inr ⟨⟨reads, names⟩, rfl⟩

/-- A body child is the node of an object. -/
theorem decode_of_decodeChild {path : Path} {index : Nat} {item : Json} {outline : Outline}
    (h : decodeChild path index item = .ok outline) :
    decode (path ++ [Step.child index]) item = .ok outline := by
  rw [decodeChild] at h
  cases object : item.isObject with
  | true =>
    rw [if_pos object] at h
    exact h
  | false =>
    rw [if_neg (Bool.eq_false_iff.1 object)] at h
    cases h

end SequenceCheck.Outline
