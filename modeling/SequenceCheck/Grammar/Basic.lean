import Std.Data.TreeMap.Basic
import SequenceCheck.Tree.Position
import SequenceCheck.Diagnostic

/-!
# Grammars

A grammar says what a sequence may look like. For each argument key it has an entry with the kinds
of node and the types of leaf that may stand under the key; for each kind of node an entry with the
exact keys of the node's arguments and the kinds that may stand in its body. Either entry may carry
a rule: a function that sees the argument or node in its tree, and the device that the sequence is
for, and may object.

Grammars are built from `Grammar.empty` by defining entries and attaching rules. A definition
replaces an earlier one of the same key or kind, along with its rule; a rule for a key or kind
without an entry is not attached.
-/

set_option autoImplicit false

namespace SequenceCheck

/-- A rule for an argument: it passes, or it objects with a diagnostic. -/
abbrev ArgRule (D : Type) := (tree : Tree) → tree.ArgAt → D → Except Diagnostic Unit

/-- A rule for a node: it passes, or it objects with a diagnostic. -/
abbrev NodeRule (D : Type) := (tree : Tree) → tree.NodeAt → D → Except Diagnostic Unit

/-- What may stand under an argument key. -/
structure ArgEntry (D : Type) where
  name : String
  allowsKind : Kind → Bool
  allowsType : LeafType → Bool
  rule : Option (ArgRule D)

/-- What a node of a kind consists of: its argument keys, and what may stand in its body. -/
structure NodeEntry (D : Type) where
  kind : Kind
  keys : List String
  allowsChild : Kind → Bool
  rule : Option (NodeRule D)

namespace ArgEntry

variable {D : Type}

/-- The kinds of node that may stand under a key, in order. -/
def kinds (entry : ArgEntry D) : List Kind :=
  Kind.all.filter entry.allowsKind

/-- The types of leaf that may stand under a key, in order. -/
def types (entry : ArgEntry D) : List LeafType :=
  LeafType.all.filter entry.allowsType

end ArgEntry

/-- The kinds that may stand in the body of a node, in order. -/
def NodeEntry.children {D : Type} (entry : NodeEntry D) : List Kind :=
  Kind.all.filter entry.allowsChild

/-- The entries for argument keys and for kinds of node. -/
structure Grammar (D : Type) where
  args : Std.TreeMap String (ArgEntry D)
  nodes : Kind → Option (NodeEntry D)

namespace Grammar

variable {D : Type}

/-- The grammar without entries. -/
def empty : Grammar D :=
  ⟨∅, fun _ => none⟩

/-- Define what may stand under an argument key. -/
def defineArg (grammar : Grammar D) (name : String) (kinds : List Kind) (types : List LeafType) :
    Grammar D :=
  { grammar with
    args := grammar.args.insert name
      { name, allowsKind := kinds.contains, allowsType := types.contains, rule := none } }

/-- Define what a node of a kind consists of. A key that is given twice counts once. -/
def defineNode (grammar : Grammar D) (kind : Kind) (keys : List String) (children : List Kind) :
    Grammar D :=
  { grammar with
    nodes := fun other =>
      if other = kind then
        some { kind, keys := keys.eraseDups, allowsChild := children.contains, rule := none }
      else grammar.nodes other }

/-- Attach a rule to the entry of an argument key. -/
def attachArgRule (grammar : Grammar D) (name : String) (rule : ArgRule D) : Grammar D :=
  { grammar with args := grammar.args.modify name fun entry => { entry with rule := some rule } }

/-- Attach a rule to the entry of a kind of node. -/
def attachNodeRule (grammar : Grammar D) (kind : Kind) (rule : NodeRule D) : Grammar D :=
  { grammar with
    nodes := fun other =>
      if other = kind then (grammar.nodes other).map fun entry => { entry with rule := some rule }
      else grammar.nodes other }

/-! ## Questions to a grammar -/

/-- Whether a grammar has an entry for an argument key. -/
def hasArg (grammar : Grammar D) (name : String) : Bool :=
  grammar.args.contains name

/-- Whether a grammar has an entry for a kind of node. -/
def hasNode (grammar : Grammar D) (kind : Kind) : Bool :=
  (grammar.nodes kind).isSome

/-- The entry for an argument key. -/
def argEntry (grammar : Grammar D) (name : String) : Except Diagnostic (ArgEntry D) :=
  match grammar.args[name]? with
  | some entry => .ok entry
  | none => .error (.unknownArg name)

/-- The entry for a kind of node. -/
def nodeEntry (grammar : Grammar D) (kind : Kind) : Except Diagnostic (NodeEntry D) :=
  match grammar.nodes kind with
  | some entry => .ok entry
  | none => .error (.unknownNode kind)

theorem argEntry_of_some {grammar : Grammar D} {name : String} {entry : ArgEntry D}
    (known : grammar.args[name]? = some entry) : grammar.argEntry name = .ok entry := by
  rw [argEntry, known]

theorem argEntry_of_none {grammar : Grammar D} {name : String}
    (unknown : grammar.args[name]? = none) : grammar.argEntry name = .error (.unknownArg name) := by
  rw [argEntry, unknown]

theorem nodeEntry_of_some {grammar : Grammar D} {kind : Kind} {entry : NodeEntry D}
    (known : grammar.nodes kind = some entry) : grammar.nodeEntry kind = .ok entry := by
  rw [nodeEntry, known]

theorem nodeEntry_of_none {grammar : Grammar D} {kind : Kind}
    (unknown : grammar.nodes kind = none) :
    grammar.nodeEntry kind = .error (.unknownNode kind) := by
  rw [nodeEntry, unknown]

/-- The exact keys of the arguments of a node of a kind. -/
def requiredKeys (grammar : Grammar D) (kind : Kind) : Except Diagnostic (List String) :=
  (grammar.nodeEntry kind).map NodeEntry.keys

/-- The kinds that may stand in the body of a node of a kind, in order. -/
def allowedChildren (grammar : Grammar D) (kind : Kind) : Except Diagnostic (List Kind) :=
  (grammar.nodeEntry kind).map NodeEntry.children

/-- The rule attached to an argument key. -/
def argRule? (grammar : Grammar D) (name : String) : Option (ArgRule D) :=
  grammar.args[name]?.bind ArgEntry.rule

/-- The rule for a key is the one that its entry carries. -/
theorem argRule?_eq_some_iff {grammar : Grammar D} {name : String} {rule : ArgRule D} :
    grammar.argRule? name = some rule ↔
      ∃ entry, grammar.args[name]? = some entry ∧ entry.rule = some rule :=
  Option.bind_eq_some_iff

/-- The kinds of node that have an entry, in order. -/
def definedKinds (grammar : Grammar D) : List Kind :=
  Kind.all.filter grammar.hasNode

/-- The description of a grammar: how many entries of each sort it has. -/
def describe (grammar : Grammar D) : String :=
  "Corpus \x7b args: " ++ toString grammar.args.size ++ ", nodes: " ++
    toString grammar.definedKinds.length ++ " \x7d"

end Grammar

end SequenceCheck
