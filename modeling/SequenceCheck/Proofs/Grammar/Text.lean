import SequenceCheck.Grammar.Document
import SequenceCheck.Proofs.Json.Lines

/-!
# Schemas read back from their text

The text of a schema is the document of its JSON form, one field or item to a line. Each record in
it names all its fields, so nothing is left to defaults when it is read.

Main statements: the standard format reads back every schema, whatever its keys spell
(`Schema.readsBack_standardFormat`), and in a format that reads back a grammar is loaded from the
text of a schema just as from the schema itself (`Grammar.ofText_text`).
-/

set_option autoImplicit false

namespace SequenceCheck

open Json

/-! ## Lists -/

/-- The items of a list are read one by one. -/
theorem Json.Written.listOf?_written {α : Type} {read? : Written → Option α} {json : α → Json}
    (reads : ∀ a, read? (json a).written = some a) (items : List α) :
    (Json.array (items.map json)).written.listOf? read? = some items := by
  have each : (writtenItems (items.map json)).mapM read? = some items := by
    induction items with
    | nil => rfl
    | cons item rest ih =>
      rw [List.map_cons, writtenItems, List.mapM_cons, reads, ih]
      rfl
  rw [written, listOf?, each]

/-- A list under a field is read. -/
theorem Json.Written.listField?_written {α : Type} {read? : Written → Option α} {json : α → Json}
    (reads : ∀ a, read? (json a).written = some a) (items : List α) :
    listField? read? (some (Json.array (items.map json)).written) = some items :=
  listOf?_written reads items

theorem text?_written (text : String) : (Json.string text).written.text? = some text := by
  rw [written, Written.text?]

theorem Kind.ofWritten?_written (kind : Kind) :
    Kind.ofWritten? (Json.string kind.name).written = some kind := by
  rw [Kind.ofWritten?, text?_written, Option.bind_some, Kind.ofName?_name]

theorem LeafType.ofWritten?_written (type : LeafType) :
    LeafType.ofWritten? (Json.string type.name).written = some type := by
  rw [written, LeafType.ofWritten?, Option.bind_some, LeafType.ofName?_name]

/-- The list of the names of kinds is read as the kinds. -/
theorem listField?_kinds (kinds : List Kind) :
    Written.listField? Kind.ofWritten? (some (Schema.jsonTexts (kinds.map Kind.name)).written) =
      some kinds := by
  rw [Schema.jsonTexts, List.map_map]
  exact Written.listField?_written Kind.ofWritten?_written kinds

/-! ## Records -/

/-- The fields of an object have their keys. -/
theorem mapM_writtenFields (fields : List (String × Json)) :
    ((writtenFields fields).mapM fun field => field.1.map fun key => (key, field.2)) =
      some (fields.map fun field => (field.1, field.2.written)) := by
  induction fields with
  | nil => rfl
  | cons field rest ih =>
    rw [writtenFields, List.mapM_cons, ih]
    rfl

/-- If keys are distinct, one entry at most has a key. -/
theorem length_filter_key_le {α : Type} {entries : List (String × α)}
    (once : (Keyed.keys entries).Nodup) (name : String) :
    (entries.filter (·.1 == name)).length ≤ 1 := by
  have count : (entries.filter (·.1 == name)).length = (Keyed.keys entries).count name := by
    rw [← List.countP_eq_length_filter, List.count, Keyed.keys, List.countP_map]
    rfl
  rw [count]
  exact List.nodup_iff_count.1 once name

/-- A record that has all its fields, in order, is taken apart into them. -/
theorem record?_written {fields : List (String × Json)} (once : (Keyed.keys fields).Nodup) :
    (Json.object fields).written.record? (Keyed.keys fields) =
      some (fields.map fun field => some field.2.written) := by
  have entries := mapM_writtenFields fields
  have keys : Keyed.keys (fields.map fun field => (field.1, field.2.written)) =
      Keyed.keys fields := by
    rw [Keyed.keys, List.map_map]
    rfl
  have distinct := once
  rw [← keys] at distinct
  -- No name is given twice, and each one finds its own field.
  have single : ((Keyed.keys fields).any fun name =>
      decide (1 < ((fields.map fun field => (field.1, field.2.written)).filter
        (·.1 == name)).length)) = false := by
    rw [List.any_eq_false]
    intro name _
    rw [decide_eq_true_eq, Nat.not_lt]
    exact length_filter_key_le distinct name
  have found : ((Keyed.keys fields).map fun name =>
      (fields.map fun field => (field.1, field.2.written)).lookup name) =
        fields.map fun field => some field.2.written := by
    rw [Keyed.keys, List.map_map]
    apply List.map_congr_left
    intro field mem
    exact Keyed.lookup_of_mem distinct (List.mem_map.2 ⟨field, mem, rfl⟩)
  rw [written, Written.record?, entries]
  simp only [Option.bind_eq_bind, Option.bind_some]
  rw [single, found]
  rfl

/-! ## Schemas -/

/-- The fields of an entry for a key. -/
def ArgSchema.fields (arg : ArgSchema) : List (String × Json) :=
  [("name", .string arg.name),
    ("allowed_kinds", Schema.jsonTexts (arg.kinds.map Kind.name)),
    ("allowed_leaf_types", Schema.jsonTexts (arg.types.map LeafType.name))]

/-- The fields of an entry for a kind. -/
def NodeSchema.fields (node : NodeSchema) : List (String × Json) :=
  [("name", .string node.kind.name),
    ("allowed_args", Schema.jsonTexts node.keys),
    ("allowed_body_types", Schema.jsonTexts (node.children.map Kind.name))]

/-- The fields of a schema. -/
def Schema.fields (schema : Schema) : List (String × Json) :=
  [("args", .array (schema.args.map fun arg => .object arg.fields)),
    ("nodes", .array (schema.nodes.map fun node => .object node.fields))]

/-- An entry for a key is read from its fields. -/
theorem ArgSchema.ofWritten?_written (arg : ArgSchema) :
    ArgSchema.ofWritten? (Json.object arg.fields).written = some arg := by
  have once : (Keyed.keys arg.fields).Nodup := by
    change ["name", "allowed_kinds", "allowed_leaf_types"].Nodup
    decide
  have fields := record?_written once
  have kinds := listField?_kinds arg.kinds
  have types : Written.listField? LeafType.ofWritten?
      (some (Schema.jsonTexts (arg.types.map LeafType.name)).written) = some arg.types := by
    rw [Schema.jsonTexts, List.map_map]
    exact Written.listField?_written LeafType.ofWritten?_written arg.types
  change (Json.object arg.fields).written.record?
    ["name", "allowed_kinds", "allowed_leaf_types"] = _ at fields
  rw [ArgSchema.ofWritten?, fields]
  simp only [ArgSchema.fields, List.map_cons, List.map_nil, Option.bind_eq_bind, Option.bind_some,
    text?_written, kinds, types]

/-- An entry for a kind is read from its fields. -/
theorem NodeSchema.ofWritten?_written (node : NodeSchema) :
    NodeSchema.ofWritten? (Json.object node.fields).written = some node := by
  have once : (Keyed.keys node.fields).Nodup := by
    change ["name", "allowed_args", "allowed_body_types"].Nodup
    decide
  have fields := record?_written once
  have keys : Written.listField? Written.text? (some (Schema.jsonTexts node.keys).written) =
      some node.keys :=
    Written.listField?_written text?_written node.keys
  have children := listField?_kinds node.children
  change (Json.object node.fields).written.record?
    ["name", "allowed_args", "allowed_body_types"] = _ at fields
  rw [NodeSchema.ofWritten?, fields]
  simp only [NodeSchema.fields, List.map_cons, List.map_nil, Option.bind_eq_bind, Option.bind_some,
    Kind.ofWritten?_written, keys, children]

namespace Schema

/-- A schema is read from its fields. -/
theorem ofWritten?_written (schema : Schema) :
    Schema.ofWritten? (Json.object schema.fields).written = some schema := by
  have once : (Keyed.keys schema.fields).Nodup := by
    change ["args", "nodes"].Nodup
    decide
  have fields := record?_written once
  have args := Written.listField?_written ArgSchema.ofWritten?_written schema.args
  have nodes := Written.listField?_written NodeSchema.ofWritten?_written schema.nodes
  change (Json.object schema.fields).written.record? ["args", "nodes"] = _ at fields
  rw [Schema.ofWritten?, fields]
  simp only [Schema.fields, List.map_cons, List.map_nil, Option.bind_eq_bind, Option.bind_some,
    args, nodes]

/-- The standard format of schemas reads back what it prints. -/
theorem readsBack_standardFormat : @Format.ReadsBack standardFormat := by
  intro schema
  change (Written.ofText? none schema.json.pretty).bind Schema.ofWritten? = some schema
  rw [written_ofText?_pretty]
  exact ofWritten?_written schema

end Schema

/-- In a format that reads back a grammar is loaded from the text of a schema as from the schema. -/
theorem Grammar.ofText_text [Schema.Format] {D : Type} (readsBack : Schema.Format.ReadsBack)
    (schema : Schema) :
    (Grammar.ofText schema.text : Except SchemaError (Grammar D)) = ofSchema schema := by
  rw [Grammar.ofText, readsBack]

end SequenceCheck
