import SequenceCheck.Json.Basic

/-!
# Writing JSON

`Json.compact` writes a value without blanks, and `Json.pretty` with one item or field to a line,
two blanks to a level. In a string only the quotation mark, the backslash and the control characters
are escaped. A number that is not an integer always shows that it is none: by a point, or by an
exponent with its sign.
-/

set_option autoImplicit false

namespace SequenceCheck.Json

/-- Numbers whose first digit stands between the fifth place after the point and the sixteenth
before it are written with a point and a fraction, all others with a signed exponent; a tie between
two shortest decimals goes to the even one. -/
def numberLayout : Binary64.Layout where
  positional first := -5 ≤ first && first ≤ 15
  keepsFraction := true
  signsExponent := true
  tie := .even

/-- The text of a number. -/
def Number.write : Number → List Char
  | .integer value _ => writeInteger value
  | .float value => numberLayout.writeFinite value

/-- A character within a string. -/
def writeChar (c : Char) : List Char :=
  if c = '"' then ['\\', '"']
  else if c = '\\' then ['\\', '\\']
  else if c = '\x08' then ['\\', 'b']
  else if c = '\x0c' then ['\\', 'f']
  else if c = '\n' then ['\\', 'n']
  else if c = '\r' then ['\\', 'r']
  else if c = '\t' then ['\\', 't']
  else if c.toNat < 0x20 then
    ['\\', 'u', '0', '0', Nat.digitChar (c.toNat / 16), Nat.digitChar (c.toNat % 16)]
  else [c]

/-- A string between quotation marks. -/
def writeString (value : String) : List Char :=
  '"' :: value.toList.flatMap writeChar ++ ['"']

mutual

/-- The characters of a value, without blanks. -/
def write : Json → List Char
  | .null => ['n', 'u', 'l', 'l']
  | .boolean true => ['t', 'r', 'u', 'e']
  | .boolean false => ['f', 'a', 'l', 's', 'e']
  | .number value => value.write
  | .string value => writeString value
  | .array [] => ['[', ']']
  | .array (item :: items) => '[' :: item.write ++ writeItems items
  | .object [] => ['\x7b', '\x7d']
  | .object ((key, value) :: fields) =>
    '\x7b' :: writeString key ++ ':' :: value.write ++ writeFields fields

/-- The characters from the end of one item to the end of the array. -/
def writeItems : List Json → List Char
  | [] => [']']
  | item :: items => ',' :: item.write ++ writeItems items

/-- The characters from the end of one field to the end of the object. -/
def writeFields : List (String × Json) → List Char
  | [] => ['\x7d']
  | (key, value) :: fields => ',' :: writeString key ++ ':' :: value.write ++ writeFields fields

end

/-- The text of a value, without blanks. -/
def compact (json : Json) : String :=
  String.ofList json.write

/-- A new line at a level of nesting. -/
def newLine (level : Nat) : List Char :=
  '\n' :: List.replicate (2 * level) ' '

mutual

/-- The characters of a value at a level of nesting, one item or field to a line. -/
def writeLines (level : Nat) : Json → List Char
  | .null => ['n', 'u', 'l', 'l']
  | .boolean true => ['t', 'r', 'u', 'e']
  | .boolean false => ['f', 'a', 'l', 's', 'e']
  | .number value => value.write
  | .string value => writeString value
  | .array [] => ['[', ']']
  | .array (item :: items) =>
    '[' :: newLine (level + 1) ++ item.writeLines (level + 1) ++ writeItemLines level items
  | .object [] => ['\x7b', '\x7d']
  | .object ((key, value) :: fields) =>
    '\x7b' :: newLine (level + 1) ++ writeString key ++ ':' :: ' ' ::
      value.writeLines (level + 1) ++ writeFieldLines level fields

/-- The characters from the end of one item to the end of the array. -/
def writeItemLines (level : Nat) : List Json → List Char
  | [] => newLine level ++ [']']
  | item :: items =>
    ',' :: newLine (level + 1) ++ item.writeLines (level + 1) ++ writeItemLines level items

/-- The characters from the end of one field to the end of the object. -/
def writeFieldLines (level : Nat) : List (String × Json) → List Char
  | [] => newLine level ++ ['\x7d']
  | (key, value) :: fields =>
    ',' :: newLine (level + 1) ++ writeString key ++ ':' :: ' ' :: value.writeLines (level + 1) ++
      writeFieldLines level fields

end

/-- The text of a value, one item or field to a line. -/
def pretty (json : Json) : String :=
  String.ofList (json.writeLines 0)

end SequenceCheck.Json
