import SequenceCheck.Outline.Basic

/-!
# Trees

A tree holds its nodes and its leaves in two lists and refers to them by number. The root is node
zero. Every node but the root knows its parent, and every leaf the node that owns it, so that a
reader of the tree can go up as well as down.

The fields of `Tree` keep what makes that safe: every number in a tree is that of a node or leaf it
has, a child has a greater number than its parent, and there is a root. So going down or up ends
after finitely many steps.
-/

set_option autoImplicit false

namespace SequenceCheck

/-- A node as a tree stores it. Its arguments and body refer to nodes and leaves by number. -/
structure Tree.Node where
  kind : Kind
  args : List (String × Arg Nat Nat)
  body : List Nat
  parent : Option Nat
  comment : Option String

/-- A leaf as a tree stores it: the key it is stored under, its value, and the number of the node
that has it as an argument. -/
structure Tree.Leaf where
  key : String
  value : Value
  owner : Nat

namespace Tree

/-- The nodes right below a node: those among its arguments, then its body. -/
def Node.children (node : Node) : List Nat :=
  node.args.filterMap (fun entry => entry.2.node?) ++ node.body

/-- The leaves of a node. -/
def Node.leaves (node : Node) : List Nat :=
  node.args.filterMap fun entry => entry.2.leaf?

end Tree

/-- A tree of numbered nodes and leaves. -/
structure Tree where
  nodes : Array Tree.Node
  leaves : Array Tree.Leaf
  nonempty : 0 < nodes.size
  children_inRange : ∀ {id : Nat} {node : Tree.Node}, nodes[id]? = some node →
    ∀ child ∈ node.children, id < child ∧ child < nodes.size
  leaves_inRange : ∀ {id : Nat} {node : Tree.Node}, nodes[id]? = some node →
    ∀ leaf ∈ node.leaves, leaf < leaves.size
  parent_lt : ∀ {id : Nat} {node : Tree.Node}, nodes[id]? = some node →
    ∀ parent ∈ node.parent, parent < id
  owner_lt : ∀ {id : Nat} {leaf : Tree.Leaf}, leaves[id]? = some leaf →
    leaf.owner < nodes.size

namespace Tree

/-- The number of nodes of a tree. -/
def nodeCount (tree : Tree) : Nat :=
  tree.nodes.size

/-- The number of leaves of a tree. -/
def leafCount (tree : Tree) : Nat :=
  tree.leaves.size

/-- Equality of argument lists of nodes: the same keys in the same order, with the same numbers or
equal malformed values. -/
def sameArgs (args others : List (String × Arg Nat Nat)) : Bool :=
  args.length == others.length &&
    (args.zip others).all fun (a, b) => a.1 == b.1 && a.2.same (· == ·) (· == ·) b.2

/-- Equality of stored nodes. -/
def Node.same (a b : Node) : Bool :=
  a.kind == b.kind && sameArgs a.args b.args && a.body == b.body && a.parent == b.parent &&
    a.comment == b.comment

/-- Equality of stored leaves. -/
def Leaf.same (a b : Leaf) : Bool :=
  a.key == b.key && a.value.same b.value && a.owner == b.owner

/-- Equality of trees: equal nodes and equal leaves, number by number. -/
def same (tree other : Tree) : Bool :=
  tree.nodes.size == other.nodes.size && tree.leaves.size == other.leaves.size &&
    (tree.nodes.toList.zip other.nodes.toList).all (fun (a, b) => a.same b) &&
    (tree.leaves.toList.zip other.leaves.toList).all (fun (a, b) => a.same b)

end Tree

end SequenceCheck
