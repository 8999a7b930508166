import SequenceCheck.Outline.Basic
import SequenceCheck.Json.Format

/-!
# Writing outlines as JSON

A node is written as an object with its kind, its arguments (even if there are none), its body
unless it is empty, and its comment if there is one, in this order. Malformed arguments are written
as they were received. If a key comes more than once, the last argument counts, in the place of the
first.
-/

set_option autoImplicit false

namespace SequenceCheck.Outline

mutual

/-- The JSON form of an outline. -/
def json : Outline → Json
  | ⟨kind, args, body, comment⟩ =>
    .object <|
      [("kind", .string kind.name), ("args", .object (Keyed.collect (jsonArgs args)))] ++
        (if body.isEmpty then [] else [("body", .array (jsonBody body))]) ++
        match comment with
        | some text => [("comment", .string text)]
        | none => []

/-- The fields for arguments. -/
def jsonArgs : List (String × Arg Outline Value) → List (String × Json)
  | [] => []
  | (key, .node outline) :: rest => (key, outline.json) :: jsonArgs rest
  | (key, .leaf value) :: rest => (key, Value.json value) :: jsonArgs rest
  | (key, .malformed raw) :: rest => (key, raw) :: jsonArgs rest

/-- The items for a body. -/
def jsonBody : List Outline → List Json
  | [] => []
  | outline :: rest => outline.json :: jsonBody rest

end

/-- The text of an outline in a format. -/
def text [Json.Format] (outline : Outline) : String :=
  outline.json.text

end SequenceCheck.Outline
