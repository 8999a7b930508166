import SequenceCheck.Grammar.Basic

/-!
# Schemas

A schema is a grammar as plain data: lists of entries without rules. `Grammar.ofSchema` builds the
grammar of a schema and `Grammar.schema` gives the schema of a grammar in its canonical form: keys
in alphabetical order, kinds and types in their own order, nothing twice.

A schema must define each key and each kind once, and must define every key that a node uses. The
keys are looked at first; then each kind of node in turn, for having been defined before and then
for its keys. The first offence is the error.

Schemas are read from texts and written as texts in a format of their own (`Schema.Format`). One
that reads back all that it prints is said to read back (`Schema.Format.ReadsBack`).
-/

set_option autoImplicit false

namespace SequenceCheck

/-- What may stand under an argument key, as data. -/
structure ArgSchema where
  name : String
  kinds : List Kind
  types : List LeafType
  deriving DecidableEq, Repr

/-- What a node of a kind consists of, as data. -/
structure NodeSchema where
  kind : Kind
  keys : List String
  children : List Kind
  deriving DecidableEq, Repr

/-- A grammar without rules, as data. -/
structure Schema where
  args : List ArgSchema
  nodes : List NodeSchema
  deriving DecidableEq, Repr

namespace Schema

/-- A reader of schema documents and a printer of schemas. -/
class Format where
  /-- The schema of a text, if the text is a schema document. -/
  read? : String → Option Schema
  /-- The text of a schema. -/
  write : Schema → String

/-- The schema of a text. -/
def ofText? [Format] (text : String) : Option Schema :=
  Format.read? text

/-- The text of a schema. -/
def text [Format] (schema : Schema) : String :=
  Format.write schema

/-- A format reads back the schemas that it prints. -/
def Format.ReadsBack [Format] : Prop :=
  ∀ schema : Schema, ofText? schema.text = some schema

end Schema

/-- Why a schema document is not the schema of a grammar. -/
inductive SchemaError where
  /-- The document is not a schema at all. -/
  | invalidJson
  /-- An argument key is defined twice. -/
  | duplicateArg (name : String)
  /-- A kind of node is defined twice. -/
  | duplicateNode (kind : Kind)
  /-- A node uses a key that is not defined. -/
  | undeclaredArg (kind : Kind) (name : String)
  deriving DecidableEq, Repr

namespace SchemaError

/-- The message of an error. What is wrong with a document that is no schema is not said. -/
def message? : SchemaError → Option String
  | .invalidJson => none
  | .duplicateArg name => some ("argument '" ++ name ++ "' is defined twice")
  | .duplicateNode kind => some ("node '" ++ kind.name ++ "' is defined twice")
  | .undeclaredArg kind name =>
    some ("node '" ++ kind.name ++ "' uses argument '" ++ name ++ "', which is not defined")

end SchemaError

namespace Grammar

variable {D : Type}

/-- Add an entry for an argument key that has none yet. -/
def addArg (grammar : Grammar D) (arg : ArgSchema) : Except SchemaError (Grammar D) :=
  if grammar.hasArg arg.name then .error (.duplicateArg arg.name)
  else .ok (grammar.defineArg arg.name arg.kinds arg.types)

/-- Add an entry for a kind of node that has none yet and uses only defined keys. -/
def addNode (grammar : Grammar D) (node : NodeSchema) : Except SchemaError (Grammar D) :=
  if grammar.hasNode node.kind then .error (.duplicateNode node.kind)
  else
    match node.keys.find? fun key => !grammar.hasArg key with
    | some key => .error (.undeclaredArg node.kind key)
    | none => .ok (grammar.defineNode node.kind node.keys node.children)

/-- The grammar of a schema. -/
def ofSchema (schema : Schema) : Except SchemaError (Grammar D) := do
  let grammar ← schema.args.foldlM addArg empty
  schema.nodes.foldlM addNode grammar

/-- The grammar of a schema document. -/
def ofText [Schema.Format] (text : String) : Except SchemaError (Grammar D) :=
  match Schema.ofText? text with
  | some schema => ofSchema schema
  | none => .error .invalidJson

/-- The schema of a grammar, in canonical form. -/
def schema (grammar : Grammar D) : Schema where
  args := grammar.args.toList.map fun (_, entry) => ⟨entry.name, entry.kinds, entry.types⟩
  nodes := (Kind.all.filterMap grammar.nodes).map fun entry =>
    ⟨entry.kind, entry.keys, entry.children⟩

end Grammar

end SequenceCheck
