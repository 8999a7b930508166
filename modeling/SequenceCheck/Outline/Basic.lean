import SequenceCheck.Kind
import SequenceCheck.Value
import SequenceCheck.Keyed

/-!
# Outlines

An outline describes a node and everything below it as one nested value: a kind, arguments in
declared order, body children in order and a comment. It is what documents are read into and what
trees are laid out from.

An argument is a node, a leaf or something malformed, in outlines as well as in trees; `Arg` is that
choice for any kind of node and any kind of leaf.

Outlines are built from `Outline.ofKind` by adding parts. Setting a key that is there already
replaces its argument in place, so that an outline built this way has each key once
(`Outline.KeysDistinct`).
-/

set_option autoImplicit false

namespace SequenceCheck

/-- An argument: a node, a leaf, or a JSON value that is neither, kept as it was received. -/
inductive Arg (ν l : Type) where
  | node (value : ν)
  | leaf (value : l)
  | malformed (raw : Json)

namespace Arg

variable {ν l : Type}

/-- The node of an argument that is one. -/
def node? : Arg ν l → Option ν
  | .node value => some value
  | _ => none

/-- The leaf of an argument that is one. -/
def leaf? : Arg ν l → Option l
  | .leaf value => some value
  | _ => none

/-- Equality of arguments, given equality of nodes and of leaves. -/
def same (sameNode : ν → ν → Bool) (sameLeaf : l → l → Bool) : Arg ν l → Arg ν l → Bool
  | .node a, .node b => sameNode a b
  | .leaf a, .leaf b => sameLeaf a b
  | .malformed a, .malformed b => a.same b
  | _, _ => false

end Arg

/-- A node and everything below it. -/
structure Outline where
  kind : Kind
  args : List (String × Arg Outline Value)
  body : List Outline
  comment : Option String

namespace Outline

/-- No node of an outline has a key twice. -/
inductive KeysDistinct : Outline → Prop where
  | node {outline : Outline} :
      (Keyed.keys outline.args).Nodup →
      (∀ key inner, (key, Arg.node inner) ∈ outline.args → KeysDistinct inner) →
      (∀ child ∈ outline.body, KeysDistinct child) →
      KeysDistinct outline

/-- A node of a kind with nothing below it. -/
def ofKind (kind : Kind) : Outline :=
  ⟨kind, [], [], none⟩

/-- Set an argument: in its place if the key is there, at the end otherwise. -/
def withArg (outline : Outline) (key : String) (arg : Arg Outline Value) : Outline :=
  { outline with args := Keyed.put key arg outline.args }

/-- Take out an argument. -/
def withoutArg (outline : Outline) (key : String) : Outline :=
  { outline with args := Keyed.drop key outline.args }

/-- Add children at the end of the body. -/
def withChildren (outline : Outline) (children : List Outline) : Outline :=
  { outline with body := outline.body ++ children }

/-- Add one child at the end of the body. -/
def withChild (outline : Outline) (child : Outline) : Outline :=
  outline.withChildren [child]

/-- Set the comment. -/
def withComment (outline : Outline) (comment : String) : Outline :=
  { outline with comment := some comment }

mutual

/-- Equality of outlines: leaves are compared as values, malformed arguments as JSON. -/
def same : Outline → Outline → Bool
  | ⟨kind, args, body, comment⟩, other =>
    kind == other.kind && sameArgs args other.args && sameBody body other.body &&
      comment == other.comment

/-- Equality of argument lists: the same keys in the same order, with equal arguments. -/
def sameArgs : List (String × Arg Outline Value) → List (String × Arg Outline Value) → Bool
  | [], [] => true
  | (key, .node a) :: rest, (other, .node b) :: others =>
    key == other && a.same b && sameArgs rest others
  | (key, .leaf a) :: rest, (other, .leaf b) :: others =>
    key == other && Value.same a b && sameArgs rest others
  | (key, .malformed a) :: rest, (other, .malformed b) :: others =>
    key == other && Json.same a b && sameArgs rest others
  | _, _ => false

/-- Equality of bodies, place by place. -/
def sameBody : List Outline → List Outline → Bool
  | [], [] => true
  | a :: rest, b :: others => a.same b && sameBody rest others
  | _, _ => false

end

end Outline

end SequenceCheck
