import SequenceCheck.Json.Basic

/-!
# JSON texts

Which text is the document of which value is up to a format: a reader of texts and a printer of
values. Everything that reads or writes documents is given a format, and is the same in all of them.

The laws of a format (`Format.Lawful`) are about whole values. A value that is read has each key of
an object once, and no more containers are open at once in it than `nestingLimit` allows. A value
that is printed is read back if it is within this limit, and refused if it is not. How texts are
spelled is no part of the laws.
-/

set_option autoImplicit false

namespace SequenceCheck.Json

/-- A reader of JSON texts and a printer of JSON values. -/
class Format where
  /-- The value of a text, if the text is a document. -/
  read? : String → Option Json
  /-- The text of a value. -/
  write : Json → String

/-- The value of a text. -/
def ofText? [Format] (text : String) : Option Json :=
  Format.read? text

/-- The text of a value. -/
def text [Format] (json : Json) : String :=
  Format.write json

/-- How many arrays and objects may be open at once in a document that is read as a value. -/
def nestingLimit : Nat := 127

mutual

/-- How many arrays and objects are open at once in a value. -/
def nesting : Json → Nat
  | .null | .boolean _ | .number _ | .string _ => 0
  | .array items => nestingItems items + 1
  | .object fields => nestingFields fields + 1

/-- How many arrays and objects are open at once in one of the values of a list. -/
def nestingItems : List Json → Nat
  | [] => 0
  | item :: items => max item.nesting (nestingItems items)

/-- How many arrays and objects are open at once in the value of one of some fields. -/
def nestingFields : List (String × Json) → Nat
  | [] => 0
  | (_, value) :: fields => max value.nesting (nestingFields fields)

end

/-- The laws of a format. -/
structure Format.Lawful [Format] : Prop where
  /-- No object of a value that is read has a key twice. -/
  keysDistinct : ∀ {text : String} {json : Json}, ofText? text = some json → json.KeysDistinct
  /-- A value that is read is within the limit. -/
  nesting_le : ∀ {text : String} {json : Json}, ofText? text = some json →
    json.nesting ≤ nestingLimit
  /-- A value within the limit is read back from its text. -/
  readsBack : ∀ {json : Json}, json.KeysDistinct → json.nesting ≤ nestingLimit →
    ofText? json.text = some json
  /-- The text of a value beyond the limit is refused. -/
  refuses : ∀ {json : Json}, json.KeysDistinct → nestingLimit < json.nesting →
    ofText? json.text = none

end SequenceCheck.Json
