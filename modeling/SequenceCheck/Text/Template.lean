import SequenceCheck.Text.Replace

/-!
# Message templates

A template is a text with holes. Its wording shows a hole as its name between braces, and
`fillInTurn` fills the holes one name after the other: each step replaces every occurrence of the
name between braces in the text as it stands by then. A value that itself contains a later name
between braces is therefore filled as well.
-/

set_option autoImplicit false

namespace SequenceCheck.Text

/-- A part of a template. -/
inductive Piece where
  | text (words : String)
  | hole (name : String)
  deriving DecidableEq, Repr

/-- A text with holes. -/
abbrev Template := List Piece

/-- A name between braces. -/
def marker (name : String) : String :=
  "\x7b" ++ name ++ "\x7d"

namespace Template

/-- The text of a template that is not filled yet. -/
def wording (template : Template) : String :=
  String.join <| template.map fun
    | .text words => words
    | .hole name => marker name

/-- Replace one marker after the other by its value. -/
def fillInTurn (template : Template) (values : List (String × String)) : String :=
  values.foldl (fun text entry => replaceAll (marker entry.1) entry.2 text) template.wording

end Template

end SequenceCheck.Text
