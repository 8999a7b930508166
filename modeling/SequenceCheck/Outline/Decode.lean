import SequenceCheck.Outline.Basic
import SequenceCheck.Json.Format

/-!
# Reading outlines from JSON

A node is an object with a `kind`, and possibly `args`, a `body` and a `comment`; other fields mean
nothing. Null for the arguments or the body is the same as leaving them out.

What stands under a key of the arguments is a leaf if it is a scalar, and a node if it is an object
whose `kind` names a kind. Everything else is kept as malformed, which is for the checker to object
to. The entries of a body have no such freedom: each must be a node.

The first offence ends the reading: at a node its kind, then its arguments in written order, then
its body in order. `DecodeError` names the offence and where it is. A kind that is not a string is
named by its text, so that reading needs a format even if it begins with a value.
-/

set_option autoImplicit false

namespace SequenceCheck

/-- A step from a node to one below it. -/
inductive Outline.Step where
  | arg (key : String)
  | child (index : Nat)
  deriving DecidableEq, Repr

/-- A place within a document: the steps that lead there from the root. -/
abbrev Outline.Path := List Outline.Step

namespace Outline

/-- A step as error messages write it. -/
def Step.text : Step → String
  | .arg key => ".args." ++ key
  | .child index => ".body[" ++ toString index ++ "]"

/-- A place as error messages write it. -/
def Path.text (path : Path) : String :=
  "root" ++ String.join (path.map Step.text)

end Outline

/-- Why a document is not a sequence. -/
inductive DecodeError where
  /-- The text is not JSON. -/
  | invalidJson
  /-- The kind of a node is not the name of a kind. -/
  | unknownKind (name : String)
  /-- The document is not an object. -/
  | notANode (path : Outline.Path)
  /-- A node has no kind, or null for its kind. -/
  | missingKind (path : Outline.Path)
  /-- The arguments of a node are not an object. -/
  | badArgs (path : Outline.Path)
  /-- The body of a node is not an array, or has an entry that is not an object. -/
  | badBody (path : Outline.Path)
  deriving DecidableEq, Repr

namespace DecodeError

/-- The message of an error. What is wrong with a text that is not JSON is not said. -/
def message? : DecodeError → Option String
  | .invalidJson => none
  | .unknownKind name => some ("unknown node kind '" ++ name ++ "'")
  | .notANode path => some ("expected a node object at " ++ path.text)
  | .missingKind path => some ("node at " ++ path.text ++ " has no 'kind'")
  | .badArgs path => some ("'args' of node at " ++ path.text ++ " must be an object")
  | .badBody path => some ("'body' of node at " ++ path.text ++ " must be an array of nodes")

end DecodeError

namespace Outline

/-- Whether a value is an object whose `kind` names a kind. -/
def namesKind (json : Json) : Bool :=
  (((json.field? "kind").bind Json.text?).bind Kind.ofName?).isSome

/-- The comment of the node that an object's fields describe; only a string is one. -/
def decodeComment (fields : List (String × Json)) : Option String :=
  (fields.lookup "comment").bind Json.text?

variable [Json.Format]

/-- The kind of the node that an object's fields describe. A kind that is not a string is named by
its JSON text. -/
def decodeKind (path : Path) (fields : List (String × Json)) : Except DecodeError Kind :=
  match fields.lookup "kind" with
  | none | some .null => .error (.missingKind path)
  | some (.string name) =>
    match Kind.ofName? name with
    | some kind => .ok kind
    | none => .error (.unknownKind name)
  | some other => .error (.unknownKind other.text)

mutual

/-- The node that a JSON value describes. -/
def decode (path : Path) : Json → Except DecodeError Outline
  | .object fields => do
    let kind ← decodeKind path fields
    let args ← decodeArgsField path fields
    let body ← decodeBodyField path fields
    .ok { kind, args, body, comment := decodeComment fields }
  | _ => .error (.notANode path)

/-- The arguments of the node that an object's fields describe. -/
def decodeArgsField (path : Path) :
    List (String × Json) → Except DecodeError (List (String × Arg Outline Value))
  | [] => .ok []
  | (key, value) :: fields =>
    if key = "args" then
      match value with
      | .null => .ok []
      | .object entries => decodeArgs path entries
      | _ => .error (.badArgs path)
    else decodeArgsField path fields

/-- The arguments that the fields of an object describe, one by one. -/
def decodeArgs (path : Path) :
    List (String × Json) → Except DecodeError (List (String × Arg Outline Value))
  | [] => .ok []
  | (key, value) :: entries => do
    let arg ←
      match Value.ofJson? value with
      | some scalar => .ok (.leaf scalar)
      | none =>
        if namesKind value then (decode (path ++ [.arg key]) value).map .node
        else .ok (.malformed value)
    let args ← decodeArgs path entries
    .ok ((key, arg) :: args)

/-- The body of the node that an object's fields describe. -/
def decodeBodyField (path : Path) : List (String × Json) → Except DecodeError (List Outline)
  | [] => .ok []
  | (key, value) :: fields =>
    if key = "body" then
      match value with
      | .null => .ok []
      | .array items => decodeBody path 0 items
      | _ => .error (.badBody path)
    else decodeBodyField path fields

/-- The body children that the items of an array describe, the first having the given index. -/
def decodeBody (path : Path) (index : Nat) : List Json → Except DecodeError (List Outline)
  | [] => .ok []
  | item :: items => do
    let child ←
      if item.isObject then decode (path ++ [.child index]) item
      else .error (.badBody (path ++ [.child index]))
    let children ← decodeBody path (index + 1) items
    .ok (child :: children)

end

/-- The sequence that a JSON value describes. -/
def ofJson (json : Json) : Except DecodeError Outline :=
  decode [] json

/-- The sequence that a text describes. -/
def ofText (text : String) : Except DecodeError Outline :=
  match Json.ofText? text with
  | some json => ofJson json
  | none => .error .invalidJson

end Outline

end SequenceCheck
