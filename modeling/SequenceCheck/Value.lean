import SequenceCheck.Json.Basic
import SequenceCheck.Text.Quoted

/-!
# Scalar values

A leaf of a sequence holds a scalar: nothing, a truth value, an integer of 64 bits, a double
precision number or a text. This module has the scalars, their types, their reading from JSON and
their three written forms: as JSON, as plain text for messages, and as a description that names the
type.

Equality of values, `Value.same`, compares type and value, and numbers as numbers: the integer `1`
is not the number `1.0`, the two zeros are equal, and what is not a number equals nothing.
-/

set_option autoImplicit false

namespace SequenceCheck

/-- The type of a scalar. -/
inductive LeafType where
  | null
  | boolean
  | integer
  | float
  | string
  deriving DecidableEq, Repr

namespace LeafType

/-- Every type, in order. -/
def all : List LeafType :=
  [.null, .boolean, .integer, .float, .string]

/-- The name of a type in documents. -/
def name : LeafType → String
  | .null => "null"
  | .boolean => "boolean"
  | .integer => "integer"
  | .float => "float"
  | .string => "string"

/-- The name of a type in messages. -/
def title : LeafType → String
  | .null => "Null"
  | .boolean => "Boolean"
  | .integer => "Integer"
  | .float => "Float"
  | .string => "String"

/-- The type that has a name in documents. -/
def ofName? (name : String) : Option LeafType :=
  all.find? fun type => type.name == name

/-- The list of types has every type. -/
theorem mem_all (type : LeafType) : type ∈ all := by
  cases type <;> decide

/-- The name of a type, read back, gives the type. -/
@[simp]
theorem ofName?_name (type : LeafType) : ofName? type.name = some type := by
  cases type <;> decide

end LeafType

/-- A scalar. -/
inductive Value where
  | null
  | boolean (value : Bool)
  | integer (value : Int64)
  | float (value : Binary64)
  | string (value : String)
  deriving DecidableEq

namespace Value

/-- The type of a scalar. -/
def type : Value → LeafType
  | .null => .null
  | .boolean _ => .boolean
  | .integer _ => .integer
  | .float _ => .float
  | .string _ => .string

/-- The text of a scalar that is one. -/
def text? : Value → Option String
  | .string value => some value
  | _ => none

/-- Equality of type and value. -/
def same : Value → Value → Bool
  | .null, .null => true
  | .boolean a, .boolean b => a == b
  | .integer a, .integer b => a == b
  | .float a, .float b => a.same b
  | .string a, .string b => a == b
  | _, _ => false

/-- A JSON integer, taken as a natural number, fits 64 bits. -/
theorem toNat_lt_of_inRange {value : Int} (inRange : -2 ^ 63 ≤ value ∧ value < 2 ^ 64) :
    value.toNat < 2 ^ 64 := by
  omega

/-- The scalar of a JSON number: an integer that fits 64 bits with a sign stays one, a greater one
becomes the nearest double precision number. -/
def ofNumber : Json.Number → Value
  | .integer value inRange =>
    if value < 2 ^ 63 then .integer (Int64.ofInt value)
    else .float (.finite (.ofNat value.toNat (toNat_lt_of_inRange inRange)))
  | .float value => .float (.finite value)

/-- The scalar of a JSON value; arrays and objects are none. -/
def ofJson? : Json → Option Value
  | .null => some .null
  | .boolean value => some (.boolean value)
  | .number value => some (ofNumber value)
  | .string value => some (.string value)
  | .array _ | .object _ => none

/-- A signed integer of 64 bits is in the range of JSON integers. -/
theorem toInt_inRange (value : Int64) : -2 ^ 63 ≤ value.toInt ∧ value.toInt < 2 ^ 64 :=
  ⟨value.le_toInt, Int.lt_trans value.toInt_lt (by decide)⟩

/-- The JSON form of a scalar; a number that is not finite has none and is written as null. -/
def json : Value → Json
  | .null => .null
  | .boolean value => .boolean value
  | .integer value => .number (.integer value.toInt (toInt_inRange value))
  | .float (.finite value) => .number (.float value)
  | .float _ => .null
  | .string value => .string value

/-- In plain text a number never has an exponent, and a whole number has no fraction; a tie between
two shortest decimals goes up. -/
def plainLayout : Binary64.Layout where
  positional _ := true
  keepsFraction := false
  signsExponent := false
  tie := .up

/-- In descriptions numbers from `0.0001` up to sixteen digits are written with a point and a
fraction, all others with an exponent; a tie between two shortest decimals goes up. -/
def describedLayout : Binary64.Layout where
  positional first := -4 ≤ first && first ≤ 15
  keepsFraction := true
  signsExponent := false
  tie := .up

/-- The plain text of a scalar, as messages show it. -/
def display : Value → String
  | .null => "null"
  | .boolean value => if value then "true" else "false"
  | .integer value => String.ofList (writeInteger value.toInt)
  | .float value => String.ofList (plainLayout.write value)
  | .string value => value

/-- The description of a scalar: its type, and its value between parentheses. -/
def describe : Value → String
  | .null => "Null"
  | .boolean value => "Boolean(" ++ (if value then "true" else "false") ++ ")"
  | .integer value => "Integer(" ++ String.ofList (writeInteger value.toInt) ++ ")"
  | .float value => "Float(" ++ String.ofList (describedLayout.write value) ++ ")"
  | .string value => "String(" ++ Text.quoted value ++ ")"

end Value

end SequenceCheck
