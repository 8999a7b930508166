import SequenceCheck.Json.Written
import SequenceCheck.Keyed

/-!
# Reading JSON

`Json.ofTextWithin?` is the value of a JSON text in the standard format. Numerals must be within the
range of double precision numbers, strings and keys must spell text, and the containers that are
open at once may be limited. If an object has a key more than once, the last value counts, in the
place of the first.
-/

set_option autoImplicit false

namespace SequenceCheck.Json

mutual

/-- The value of a document. -/
def Written.json? : Written → Option Json
  | .null => some .null
  | .boolean value => some (.boolean value)
  | .numeral value => value.number?.map .number
  | .string content => content.map .string
  | .array items => (Written.jsonItems? items).map .array
  | .object fields => (Written.jsonFields? [] fields).map .object

/-- The values of the items of an array. -/
def Written.jsonItems? : List Written → Option (List Json)
  | [] => some []
  | item :: items => do
    let value ← item.json?
    let values ← Written.jsonItems? items
    some (value :: values)

/-- The fields of an object, after those that are `done`. -/
def Written.jsonFields? (done : List (String × Json)) :
    List (Option String × Written) → Option (List (String × Json))
  | [] => some done
  | (key, value) :: fields => do
    let key ← key
    let value ← value.json?
    Written.jsonFields? (Keyed.put key value done) fields

end

/-- The value of a text whose nesting is limited as given. -/
def ofTextWithin? (limit : Option Nat) (text : String) : Option Json :=
  (Written.ofText? limit text).bind Written.json?

end SequenceCheck.Json
