/-!
# Lists in messages

Two ways to write a list of names in a message: quoted, as in `["wait", "home"]`, and bare, as in
`[Integer, Float]`. Names are written as they are, whatever characters they hold.
-/

set_option autoImplicit false

namespace SequenceCheck.Text

/-- The items between brackets, with a comma and a blank between neighbours. -/
def bareList (items : List String) : String :=
  "[" ++ String.intercalate ", " items ++ "]"

/-- The items between brackets, each within double quotes. -/
def quotedList (items : List String) : String :=
  bareList (items.map fun item => "\"" ++ item ++ "\"")

end SequenceCheck.Text
