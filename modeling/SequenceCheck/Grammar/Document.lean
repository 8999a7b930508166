import SequenceCheck.Grammar.Schema
import SequenceCheck.Json.Standard

/-!
# Schema documents

This module has the format in which programs read and write schemas (`Schema.standardFormat`). A
schema document is a JSON text for a schema. A record, that is the schema itself and each of its
entries, is written as an object with named fields or as an array of its fields in order. In an
object a field may be left out if it is a list, which is then empty, no field of the record may
appear twice, and fields of other names are skipped. In an array the last fields may be left out
likewise, and nothing may follow them.

What is skipped only has to be well formed: its nesting is not limited, its numerals may be too
large and its strings need not spell text. Documents are therefore read as they are written
(`Json.Written`), not as values. A leaf type is written as its name, or as an object that has the
name as its only key, with null under it.
-/

set_option autoImplicit false

namespace SequenceCheck

namespace Json.Written

/-- The text of a string. -/
def text? : Written → Option String
  | .string content => content
  | _ => none

/-- The items of an array, each read by a given function. -/
def listOf? {α : Type} (read? : Written → Option α) : Written → Option (List α)
  | .array items => items.mapM read?
  | _ => none

/-- The fields of a record that has the given names, in their order; a field may be missing. -/
def record? (names : List String) : Written → Option (List (Option Written))
  | .object fields => do
    let fields ← fields.mapM fun field => field.1.map fun key => (key, field.2)
    let repeated := names.any fun name => decide (1 < (fields.filter (·.1 == name)).length)
    if repeated then none else some (names.map fun name => fields.lookup name)
  | .array items =>
    if items.length ≤ names.length then
      some (items.map some ++ List.replicate (names.length - items.length) none)
    else none
  | _ => none

/-- The value of a field that is a list, empty if the field is missing. -/
def listField? {α : Type} (read? : Written → Option α) : Option Written → Option (List α)
  | some written => written.listOf? read?
  | none => some []

end Json.Written

open Json

/-- The kind that a document names. -/
def Kind.ofWritten? (written : Written) : Option Kind :=
  written.text?.bind Kind.ofName?

/-- The leaf type that a document names. -/
def LeafType.ofWritten? : Written → Option LeafType
  | .string content => content.bind LeafType.ofName?
  | .object [(key, .null)] => key.bind LeafType.ofName?
  | _ => none

/-- The entry for an argument key that a document describes. -/
def ArgSchema.ofWritten? (written : Written) : Option ArgSchema := do
  match ← written.record? ["name", "allowed_kinds", "allowed_leaf_types"] with
  | [name, kinds, types] =>
    some
      { name := ← name.bind Written.text?
        kinds := ← Written.listField? Kind.ofWritten? kinds
        types := ← Written.listField? LeafType.ofWritten? types }
  | _ => none

/-- The entry for a kind of node that a document describes. -/
def NodeSchema.ofWritten? (written : Written) : Option NodeSchema := do
  match ← written.record? ["name", "allowed_args", "allowed_body_types"] with
  | [kind, keys, children] =>
    some
      { kind := ← kind.bind Kind.ofWritten?
        keys := ← Written.listField? Written.text? keys
        children := ← Written.listField? Kind.ofWritten? children }
  | _ => none

namespace Schema

/-- The schema that a document describes. -/
def ofWritten? (written : Written) : Option Schema := do
  match ← written.record? ["args", "nodes"] with
  | [args, nodes] =>
    some
      { args := ← Written.listField? ArgSchema.ofWritten? args
        nodes := ← Written.listField? NodeSchema.ofWritten? nodes }
  | _ => none

/-- A list of texts as JSON. -/
def jsonTexts (texts : List String) : Json :=
  .array (texts.map .string)

/-- The JSON form of a schema. -/
def json (schema : Schema) : Json :=
  .object
    [("args", .array <| schema.args.map fun arg => .object
        [("name", .string arg.name),
          ("allowed_kinds", jsonTexts (arg.kinds.map Kind.name)),
          ("allowed_leaf_types", jsonTexts (arg.types.map LeafType.name))]),
      ("nodes", .array <| schema.nodes.map fun node => .object
        [("name", .string node.kind.name),
          ("allowed_args", jsonTexts node.keys),
          ("allowed_body_types", jsonTexts (node.children.map Kind.name))])]

/-- The format in which programs are run: one item or field to a line. -/
instance standardFormat : Format where
  read? text := (Written.ofText? none text).bind ofWritten?
  write schema := schema.json.pretty

end Schema

end SequenceCheck
