import SequenceCheck.Proofs.Outline.Rewritten
import SequenceCheck.Proofs.Tree.Alike

/-!
# Trees of one layout

Two trees are of one layout (`SameLayout`) if they have the same nodes and leaves under the same
numbers, except that comments may differ and that the values of the one are rewritten in the other.

Main statements: the tree of a rewritten outline is of the layout of the original
(`sameLayout_rewritten`), and nodes of one number look alike, with their arguments in the same order
(`SameLayout.alike`, `SameLayout.args`).
-/

set_option autoImplicit false

namespace SequenceCheck.Tree

/-- A stored node without its comment. -/
def Node.uncommented (node : Node) : Node :=
  { node with comment := none }

theorem Node.uncommented_comp_recommented (recomment : Option String → Option String) :
    uncommented ∘ recommented recomment = uncommented :=
  rfl

/-- Two trees have the same nodes but for comments, and the same leaves but for values. -/
structure SameLayout (revalue : String → Value → Value) (tree copy : Tree) : Prop where
  nodes : tree.nodes.map Node.uncommented = copy.nodes.map Node.uncommented
  leaves : copy.leaves = tree.leaves.map (Leaf.revalued revalue)

/-- Two nodes of two trees have the same number. -/
def SameNumber {tree copy : Tree} (x : tree.NodeAt) (y : copy.NodeAt) : Prop :=
  x.id = y.id

/-- Two leaves of two trees have the same number. -/
def SameLeafNumber {tree copy : Tree} (l : tree.LeafAt) (m : copy.LeafAt) : Prop :=
  l.id = m.id

/-- The tree of a rewritten outline is of the layout of the original. -/
theorem sameLayout_rewritten (revalue : String → Value → Value)
    (recomment : Option String → Option String) (outline : Outline) :
    SameLayout revalue (ofOutline outline) (ofOutline (outline.rewritten revalue recomment)) where
  nodes := by
    change (outline.laidNodes none 0 0).toArray.map _ =
      ((outline.rewritten revalue recomment).laidNodes none 0 0).toArray.map _
    rw [Outline.laidNodes_rewritten, List.map_toArray, List.map_toArray, List.map_map,
      Node.uncommented_comp_recommented]
  leaves := by
    change ((outline.rewritten revalue recomment).laidLeaves 0).toArray =
      (outline.laidLeaves 0).toArray.map _
    rw [Outline.laidLeaves_rewritten, List.map_toArray]

namespace SameLayout

variable {revalue : String → Value → Value} {tree copy : Tree} {x : tree.NodeAt} {y : copy.NodeAt}

theorem nodeCount_eq (layout : SameLayout revalue tree copy) : tree.nodeCount = copy.nodeCount := by
  have sizes := congrArg Array.size layout.nodes
  rw [Array.size_map, Array.size_map] at sizes
  exact sizes

/-- Nodes of one number are stored alike, but for their comments. -/
theorem stored (layout : SameLayout revalue tree copy) (number : SameNumber x y) :
    x.stored.uncommented = y.stored.uncommented := by
  have nodes := congrArg (fun nodes => nodes[x.id]?) layout.nodes
  rw [Array.getElem?_map, Array.getElem?_map, x.getElem?_id, number, y.getElem?_id] at nodes
  exact Option.some.inj nodes

/-- Leaves of one number are stored alike, but for their values. -/
theorem stored_leaf (layout : SameLayout revalue tree copy) {l : tree.LeafAt} {m : copy.LeafAt}
    (number : SameLeafNumber l m) : m.stored = l.stored.revalued revalue := by
  have leaves := congrArg (fun leaves => leaves[m.id]?) layout.leaves
  rw [Array.getElem?_map, m.getElem?_id, ← number, l.getElem?_id] at leaves
  exact Option.some.inj leaves

theorem rel_of_numberArg {a : tree.ArgAt} {b : copy.ArgAt} (same : numberArg a = numberArg b) :
    Arg.Rel SameNumber SameLeafNumber a b := by
  cases a with
  | node child =>
    obtain ⟨counterpart, rfl, number⟩ := eq_node_of_numberArg same.symm
    exact .node number.symm
  | leaf held =>
    obtain ⟨counterpart, rfl, number⟩ := eq_leaf_of_numberArg same.symm
    exact .leaf number.symm
  | malformed raw =>
    obtain rfl := eq_malformed_of_numberArg same.symm
    exact .malformed

/-- Nodes of one number have the same keys in the same order, with arguments of the same numbers. -/
theorem args (layout : SameLayout revalue tree copy) (number : SameNumber x y) :
    List.Forall₂ (Keyed.Rel (Arg.Rel SameNumber SameLeafNumber)) x.args y.args := by
  obtain ⟨_, stored, _⟩ := Node.mk.inj (layout.stored number)
  rw [← NodeAt.map_numberArg_args, ← NodeAt.map_numberArg_args] at stored
  apply (forall₂_of_map_eq stored).imp
  rintro ⟨key, a⟩ ⟨other, b⟩ same
  obtain ⟨rfl, numbers⟩ := Prod.mk.inj same
  exact .entry (rel_of_numberArg numbers)

/-- Nodes of one number look alike. -/
theorem alike (layout : SameLayout revalue tree copy) :
    Alike (@SameNumber tree copy) SameLeafNumber where
  kind number := (Node.mk.inj (layout.stored number)).1
  arg? number key := Keyed.lookup_of_forall₂ (layout.args number) key
  body {x y} number := by
    obtain ⟨_, _, stored, _⟩ := Node.mk.inj (layout.stored number)
    rw [← NodeAt.map_id_body, ← NodeAt.map_id_body] at stored
    exact forall₂_of_map_eq stored
  parent {x y} number := by
    obtain ⟨_, _, _, stored, _⟩ := Node.mk.inj (layout.stored number)
    rw [← NodeAt.map_id_parent, ← NodeAt.map_id_parent] at stored
    exact rel_of_map_eq stored

/-- Under a key of nodes of one number stand leaves with a value and its rewriting, or no leaves. -/
theorem leafValue? {outline : Outline} {x : (ofOutline outline).NodeAt}
    (layout : SameLayout revalue (ofOutline outline) copy) (number : SameNumber x y)
    (key : String) : y.leafValue? key = (x.leafValue? key).map (revalue key) := by
  rw [NodeAt.leafValue?, NodeAt.leafValue?, Option.map_map]
  symm
  apply map_eq_map_of_rel (layout.alike.leafArg? number key)
  intro l found m same
  -- The leaf is rewritten as one of the key that it knows, which is the key it stands under.
  obtain ⟨arg, held, leaf⟩ := Option.bind_eq_some_iff.1 found
  cases arg with
  | leaf other =>
    obtain rfl : l = other := (Option.some.inj leaf).symm
    have known : l.key = key := (stored_of_mem_args (NodeAt.mem_args_of_arg? held)).1
    rw [Function.comp, LeafAt.value, LeafAt.value, layout.stored_leaf same, ← known]
    rfl
  | node child => cases leaf
  | malformed raw => cases leaf

end SameLayout

end SequenceCheck.Tree
