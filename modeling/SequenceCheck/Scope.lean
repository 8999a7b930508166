import SequenceCheck.Tree.Position
import SequenceCheck.Diagnostic

/-!
# Scopes and identifiers

An identifier refers to a declaration by a label. A node opens a scope if a scope declaration stands
under its argument `locals`; the declarations of the scope are the body of that scope declaration.
An identifier is resolved by looking through the scopes of the identifier itself, its parent and so
on up to the root: the first scope with a declaration of the same label decides, and in it the first
such declaration. Scopes beside or below the identifier are never consulted.

An identifier without a label refers to nothing.
-/

set_option autoImplicit false

namespace SequenceCheck.Scope

variable {tree : Tree}

open SequenceCheck.Tree

/-- Whether a node has a given label. -/
def hasLabel (label : Value) (node : tree.NodeAt) : Bool :=
  match node.leafValue? "label" with
  | some own => own.same label
  | none => false

/-- The first declaration of a label in the scope that a node opens. -/
def declarationIn? (node : tree.NodeAt) (label : Value) : Option tree.NodeAt :=
  match node.nodeArg? "locals" with
  | some locals =>
    if locals.kind = .scopeDeclaration then locals.body.find? (hasLabel label) else none
  | none => none

/-- The declaration of a label that is nearest to a node, going up from the node. -/
def search (label : Value) (node : tree.NodeAt) : Option tree.NodeAt :=
  match declarationIn? node label with
  | some declaration => some declaration
  | none =>
    match _above : node.parent with
    | some parent => search label parent
    | none => none
termination_by node.id
decreasing_by exact NodeAt.parent_id_lt _above

/-- A reference without a declaration: the label as messages show it, and the node. -/
structure Unbound where
  label : String
  reference : Nat
  deriving DecidableEq, Repr

/-- The diagnostic for a reference without a declaration. -/
def Unbound.diagnostic (unbound : Unbound) : Diagnostic :=
  (Diagnostic.unboundVariable unbound.label).located unbound.reference

/-- The declaration that a node refers to by its label. -/
def resolve (reference : tree.NodeAt) : Except Unbound tree.NodeAt :=
  match reference.leafValue? "label" with
  | none => .error ⟨"", reference.id⟩
  | some label =>
    match search label reference with
    | some declaration => .ok declaration
    | none => .error ⟨label.display, reference.id⟩

/-- What a declaration declares. -/
inductive Binding where
  /-- A parameter, with the type that it names, if it names one. -/
  | parameter (type : Option String)
  /-- A variable, with the kind of its value, if that is a node. -/
  | variableOf (kind : Option Kind)
  /-- Anything else that has the label. -/
  | other (kind : Kind)
  deriving DecidableEq, Repr

/-- What a node declares. -/
def binding (declaration : tree.NodeAt) : Binding :=
  match declaration.kind with
  | .parameterDeclaration =>
    .parameter ((declaration.leafValue? "data_type").bind Value.text?)
  | .variableDeclaration =>
    .variableOf ((declaration.nodeArg? "data_value").map NodeAt.kind)
  | kind => .other kind

end SequenceCheck.Scope
