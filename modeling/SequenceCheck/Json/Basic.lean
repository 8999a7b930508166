import SequenceCheck.Binary64.Layout

/-!
# JSON values

A JSON value with the fields of an object in written order. A number is either an integer that
fits 64 bits, with or without a sign, or a finite double precision number; `1` and `1.0` are
different values.

`Json.same` is equality of values: it compares numbers as numbers, so that the two zeros are equal,
and disregards the order of an object's fields. The objects of documents have each key once;
`Json.KeysDistinct` says so of a whole value.
-/

set_option autoImplicit false

namespace SequenceCheck

/-- A number of a JSON value: an integer of 64 bits, signed or unsigned, or a finite double
precision number. -/
inductive Json.Number where
  | integer (value : Int) (inRange : -2 ^ 63 ≤ value ∧ value < 2 ^ 64)
  | float (value : Binary64.Finite)
  deriving DecidableEq

/-- A JSON value. -/
inductive Json where
  | null
  | boolean (value : Bool)
  | number (value : Json.Number)
  | string (value : String)
  | array (items : List Json)
  | object (fields : List (String × Json))

namespace Json

/-- Equality of numbers: an integer and a double precision number differ. -/
def Number.same : Number → Number → Bool
  | .integer a _, .integer b _ => a == b
  | .float x, .float y => x.same y
  | _, _ => false

mutual

/-- Equality of values, whatever the order of an object's fields. -/
def same : Json → Json → Bool
  | .null, .null => true
  | .boolean a, .boolean b => a == b
  | .number a, .number b => a.same b
  | .string a, .string b => a == b
  | .array items, .array others => sameItems items others
  | .object fields, .object others => fields.length == others.length && sameFields fields others
  | _, _ => false

/-- Equality of the values of two lists, place by place. -/
def sameItems : List Json → List Json → Bool
  | [], [] => true
  | item :: items, other :: others => item.same other && sameItems items others
  | _, _ => false

/-- Whether each of some fields has an equal field of the same key among others. -/
def sameFields : List (String × Json) → List (String × Json) → Bool
  | [], _ => true
  | (key, value) :: fields, others =>
    (match others.lookup key with
      | some other => value.same other
      | none => false) && sameFields fields others

end

mutual

/-- Whether no object within a value has a key twice. -/
def KeysDistinct : Json → Prop
  | .array items => KeysDistinctItems items
  | .object fields => (fields.map Prod.fst).Nodup ∧ KeysDistinctFields fields
  | _ => True

/-- Whether no object within the values of a list has a key twice. -/
def KeysDistinctItems : List Json → Prop
  | [] => True
  | item :: items => item.KeysDistinct ∧ KeysDistinctItems items

/-- Whether no object within the values of fields has a key twice. -/
def KeysDistinctFields : List (String × Json) → Prop
  | [] => True
  | (_, value) :: fields => value.KeysDistinct ∧ KeysDistinctFields fields

end

/-- The value of a field of an object. -/
def field? (json : Json) (key : String) : Option Json :=
  match json with
  | .object fields => fields.lookup key
  | _ => none

/-- The text of a string. -/
def text? : Json → Option String
  | .string value => some value
  | _ => none

/-- Whether a value is an object. -/
def isObject : Json → Bool
  | .object _ => true
  | _ => false

end Json

end SequenceCheck
