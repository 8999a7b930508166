import Mathlib.Data.List.Nodup
import Mathlib.Data.List.OfFn
import SequenceCheck.Proofs.Tree.Allocation
import SequenceCheck.Proofs.Tree.LeafOrder

/-!
# How the tree of an outline is numbered

`tree.nodeHandles` and `tree.leafHandles` are all the handles that the nodes of a tree hold, of
nodes and of leaves. A tree is well numbered (`WellNumbered`) if every node but the root and every
leaf is held exactly once, by the node that it names as its parent or owner, and if numbers are
given in the order of a walk, so that everything below a node has consecutive numbers.

Main statement: allocating an outline gives a tree, and the tree is well numbered
(`wellNumbered_ofOutline`).
-/

set_option autoImplicit false

namespace SequenceCheck.Tree

open Outline

/-- The handles of nodes in the arguments and bodies of all nodes, node by node. -/
def nodeHandles (tree : Tree) : List Nat :=
  tree.nodes.toList.flatMap Node.children

/-- The handles of leaves in the arguments of all nodes, node by node. -/
def leafHandles (tree : Tree) : List Nat :=
  tree.nodes.toList.flatMap Node.leaves

/-- How the nodes and leaves of a tree are numbered and refer to one another. -/
structure WellNumbered (tree : Tree) : Prop where
  /-- Node zero is the only node without a parent. -/
  parent_eq_none : ∀ node : tree.NodeAt, node.parent = none ↔ node.id = 0
  /-- Every other node is held once, and no handle is out of range. -/
  count_nodeHandles : ∀ id,
    tree.nodeHandles.count id = if 0 < id ∧ id < tree.nodeCount then 1 else 0
  /-- It is held by its parent, which has a smaller number. -/
  held_by_parent : ∀ node : tree.NodeAt, 0 < node.id → ∃ parent : tree.NodeAt,
    node.parent = some parent ∧ parent.id < node.id ∧ node.id ∈ parent.stored.children
  /-- Every leaf is held once, and no handle is out of range. -/
  count_leafHandles : ∀ id, tree.leafHandles.count id = if id < tree.leafCount then 1 else 0
  /-- It is held by its owner, under the key that it knows. -/
  held_by_owner : ∀ leaf : tree.LeafAt, (leaf.key, Arg.leaf leaf.id) ∈ leaf.owner.stored.args
  /-- The handles of parents are in range. -/
  parent_inRange : ∀ node ∈ tree.nodes, ∀ parent ∈ node.parent, parent < tree.nodeCount
  /-- The handles of owners are in range. -/
  owner_inRange : ∀ leaf ∈ tree.leaves, leaf.owner < tree.nodeCount
  /-- Nodes are numbered in preorder: a node, then what is below its arguments in declared order,
  then what is below its body. -/
  preorder_root : tree.root.preorder.map NodeAt.id = List.range tree.nodeCount
  /-- The nodes at and below a node have the numbers from its own on, without a gap. -/
  preorder_node : ∀ node : tree.NodeAt,
    node.preorder.map NodeAt.id = List.range' node.id node.preorder.length
  /-- Leaves are numbered in the order of the same walk. -/
  leavesBelow_root : tree.root.leavesBelow.map LeafAt.id = List.range tree.leafCount
  /-- The leaves at and below a node have numbers without a gap. -/
  leavesBelow_node : ∀ node : tree.NodeAt, ∃ first,
    node.leavesBelow.map LeafAt.id = List.range' first node.leavesBelow.length
  /-- The leaves below a node are those that it, or a node below it, is the owner of. -/
  mem_leavesBelow : ∀ (node : tree.NodeAt) (leaf : tree.LeafAt),
    leaf ∈ node.leavesBelow ↔ leaf.owner ∈ node.preorder

/-! ## Handles and positions -/

section Handles

variable {tree : Tree}

/-- The nodes of a tree are those stored at its positions. -/
theorem map_stored_allNodes (tree : Tree) :
    tree.allNodes.map NodeAt.stored = tree.nodes.toList := by
  apply List.ext_getElem
  · simp [allNodes]
  · intro i _ _
    simp [allNodes, NodeAt.stored]

/-- The positions of a tree are in the order of their numbers. -/
theorem map_id_allNodes (tree : Tree) :
    tree.allNodes.map NodeAt.id = List.range tree.nodeCount := by
  apply List.ext_getElem
  · simp [allNodes, nodeCount]
  · intro i _ _
    simp [allNodes]

/-- The leaves of a tree are in the order of their numbers. -/
theorem map_id_allLeaves (tree : Tree) :
    tree.allLeaves.map LeafAt.id = List.range tree.leafCount := by
  apply List.ext_getElem
  · simp [allLeaves, leafCount]
  · intro i _ _
    simp [allLeaves]

/-- A leaf of a tree is known by its number. -/
theorem LeafAt.id_injective : Function.Injective (@LeafAt.id tree) :=
  fun _ _ => LeafAt.ext

namespace NodeAt

/-- The positions right below a node have the handles that are stored. -/
theorem map_id_children (node : tree.NodeAt) :
    node.children.map NodeAt.id = node.stored.children := by
  rw [children, List.map_append, map_id_filterMap_args, map_id_body, Node.children]

/-- The leaves that a node has as arguments. -/
def ownLeaves (node : tree.NodeAt) : List tree.LeafAt :=
  node.args.flatMap fun entry => entry.2.leaf?.toList

/-- The leaves among the arguments of a node have the handles that are stored. -/
theorem map_id_ownLeaves (node : tree.NodeAt) :
    node.ownLeaves.map LeafAt.id = node.stored.leaves := by
  rw [ownLeaves, ← List.filterMap_eq_flatMap_toList, Node.leaves, ← map_numberArg_args,
    List.map_filterMap, List.filterMap_map]
  congr 1
  funext entry
  rcases entry with ⟨key, arg⟩
  cases arg <;> rfl

/-- Everything below a node, itself left out, is a child of the node or of a node below it. -/
theorem perm_tail_preorder (node : tree.NodeAt) :
    node.preorder.tail.Perm (node.preorder.flatMap children) := by
  apply perm_flatMap_preorder children fun node => node.preorder.tail
  intro node
  -- Each child comes before what is below it, and may as well come before the other children.
  have head : ∀ child : tree.NodeAt, child.preorder = child :: child.preorder.tail := by
    intro child
    rw [preorder_eq, List.tail_cons]
  have heads : node.children.flatMap preorder =
      node.children.flatMap fun child => child :: child.preorder.tail :=
    congrArg (List.flatMap · node.children) (funext head)
  have firsts := List.map_append_flatMap_perm node.children (fun child => child)
    fun child => child.preorder.tail
  rw [List.map_id'] at firsts
  rw [preorder_eq, List.tail_cons, heads]
  exact firsts.symm

/-- The leaves below a node are the own leaves of the nodes at and below it. -/
theorem perm_leavesBelow (node : tree.NodeAt) :
    node.leavesBelow.Perm (node.preorder.flatMap ownLeaves) := by
  apply perm_flatMap_preorder ownLeaves leavesBelow
  intro node
  have parts : ∀ arg : tree.ArgAt,
      leavesIn arg = arg.leaf?.toList ++ arg.node?.toList.flatMap leavesBelow := by
    intro arg
    cases arg <;> simp [leavesIn, Arg.leaf?, Arg.node?]
  rw [leavesBelow_eq]
  simp only [parts]
  exact perm_flatMap_args _ _ node

end NodeAt

/-- The handles of nodes are the numbers of the positions right below others. -/
theorem nodeHandles_eq (tree : Tree) :
    tree.nodeHandles = (tree.allNodes.flatMap NodeAt.children).map NodeAt.id := by
  rw [nodeHandles, ← map_stored_allNodes, List.flatMap_map, List.map_flatMap]
  simp only [NodeAt.map_id_children]

/-- The handles of leaves are the numbers of the leaves that nodes have as arguments. -/
theorem leafHandles_eq (tree : Tree) :
    tree.leafHandles = (tree.allNodes.flatMap NodeAt.ownLeaves).map LeafAt.id := by
  rw [leafHandles, ← map_stored_allNodes, List.flatMap_map, List.map_flatMap]
  simp only [NodeAt.map_id_ownLeaves]

end Handles

/-! ## The tree of an outline -/

section OfOutline

variable {outline : Outline}

/-- Nodes are numbered in preorder. -/
theorem map_id_preorder_root (outline : Outline) :
    (ofOutline outline).root.preorder.map NodeAt.id =
      List.range (ofOutline outline).nodeCount := by
  rw [nodeCount_ofOutline, List.range_eq_range']
  exact (ofOutline outline).root.fillsNumbers (placed_ofOutline outline)

/-- The preorder of the root lists the nodes by their numbers. -/
theorem preorder_root_eq_allNodes (outline : Outline) :
    (ofOutline outline).root.preorder = (ofOutline outline).allNodes := by
  apply List.map_injective_iff.2 NodeAt.id_injective
  rw [map_id_preorder_root, map_id_allNodes]

/-- The leaves below the root are all leaves by their numbers. -/
theorem leavesBelow_root_eq_allLeaves (outline : Outline) :
    (ofOutline outline).root.leavesBelow = (ofOutline outline).allLeaves := by
  apply List.map_injective_iff.2 LeafAt.id_injective
  rw [map_id_leavesBelow_root, map_id_allLeaves]

/-- The nodes at and below a node have the numbers from its own on. -/
theorem map_id_preorder (node : (ofOutline outline).NodeAt) :
    node.preorder.map NodeAt.id = List.range' node.id node.preorder.length := by
  obtain ⟨parent, part, leaf, placed⟩ := exists_holds node
  have numbers := node.fillsNumbers placed
  have size : node.preorder.length = part.nodeCount := by
    rw [← List.length_map NodeAt.id, numbers, List.length_range']
  rw [size]
  exact numbers

/-- What is below a node has greater numbers. -/
theorem id_le_of_mem_preorder {node inner : (ofOutline outline).NodeAt}
    (mem : inner ∈ node.preorder) : node.id ≤ inner.id := by
  have numbered : inner.id ∈ node.preorder.map NodeAt.id := List.mem_map_of_mem mem
  rw [map_id_preorder, List.mem_range'_1] at numbered
  exact numbered.1

/-- What is at or below a child has smaller numbers than the next child. -/
theorem id_lt_of_children_split {node child earlier inner : (ofOutline outline).NodeAt}
    {before after : List (ofOutline outline).NodeAt}
    (split : node.children = before ++ child :: after) (mem : earlier ∈ before)
    (below : inner ∈ earlier.preorder) : inner.id < child.id := by
  have increasing : (node.preorder.map NodeAt.id).Pairwise (· < ·) := by
    rw [map_id_preorder]
    exact List.pairwise_lt_range'
  rw [NodeAt.preorder_eq, split, List.flatMap_append, List.flatMap_cons, List.pairwise_map,
    List.pairwise_cons, List.pairwise_append] at increasing
  apply increasing.2.2.2
  · exact List.mem_flatMap.2 ⟨earlier, mem, below⟩
  · exact List.mem_append_left _ (NodeAt.mem_preorder_self child)

/-- The leaves at and below a node have consecutive numbers. -/
theorem exists_map_id_leavesBelow (node : (ofOutline outline).NodeAt) :
    ∃ first, node.leavesBelow.map LeafAt.id = List.range' first node.leavesBelow.length := by
  obtain ⟨parent, part, leaf, placed⟩ := exists_holds node
  have numbers := node.fillsLeaves placed
  have size : node.leavesBelow.length = part.leafCount := by
    rw [← List.length_map LeafAt.id, numbers, List.length_range']
  exact ⟨leaf, by rw [size, numbers]⟩

/-- The handles of nodes are the numbers of all nodes but the root, in some order. -/
theorem perm_nodeHandles (outline : Outline) :
    (ofOutline outline).nodeHandles.Perm
      (List.range' 1 ((ofOutline outline).nodeCount - 1)) := by
  have below := ((ofOutline outline).root.perm_tail_preorder.map NodeAt.id).symm
  rwa [List.map_tail, map_id_preorder_root, List.tail_range, preorder_root_eq_allNodes,
    ← nodeHandles_eq] at below

/-- The handles of leaves are the numbers of all leaves, in some order. -/
theorem perm_leafHandles (outline : Outline) :
    (ofOutline outline).leafHandles.Perm (List.range (ofOutline outline).leafCount) := by
  have below := ((ofOutline outline).root.perm_leavesBelow.map LeafAt.id).symm
  rwa [map_id_leavesBelow_root, preorder_root_eq_allNodes, ← leafHandles_eq] at below

/-- Nothing stands in two places right below a node. -/
theorem nodup_children (node : (ofOutline outline).NodeAt) : node.children.Nodup := by
  have handles : (ofOutline outline).nodeHandles.Nodup :=
    (perm_nodeHandles outline).nodup_iff.2 List.nodup_range'
  rw [nodeHandles_eq] at handles
  exact (List.nodup_flatMap.1 (handles.of_map _)).1 node (mem_allNodes node)

/-- A node among the arguments of another does not stand in its body. -/
theorem not_mem_body_of_mem_args {node child : (ofOutline outline).NodeAt} {key : String}
    (mem : (key, Arg.node child) ∈ node.args) : child ∉ node.body := by
  intro inBody
  have inArgs : child ∈ node.args.filterMap fun entry => entry.2.node? :=
    List.mem_filterMap.2 ⟨_, mem, rfl⟩
  exact (List.nodup_append.1 (nodup_children node)).2.2 child inArgs child inBody rfl

/-- A node with a number other than zero is right below its parent. -/
theorem exists_parent {node : (ofOutline outline).NodeAt} (notRoot : 0 < node.id) :
    ∃ parent, node.parent = some parent ∧ node ∈ parent.children := by
  have other : node ≠ (ofOutline outline).root := by
    rintro rfl
    exact absurd notRoot (Nat.lt_irrefl 0)
  obtain ⟨parent, mem⟩ := exists_mem_children other
  exact ⟨parent, parent_of_mem_children mem, mem⟩

end OfOutline

/-- Allocating an outline that handles are enough for gives the tree of the outline, and the tree is
well numbered. -/
theorem wellNumbered_ofOutline (outline : Outline) (nodes : outline.nodeCount < UInt32.size)
    (leaves : outline.leafCount < UInt32.size) :
    Arena.allocate none outline Arena.empty =
        (0, ⟨(ofOutline outline).nodes, (ofOutline outline).leaves⟩) ∧
      (ofOutline outline).WellNumbered := by
  refine ⟨Arena.allocate_empty outline nodes leaves, ?_⟩
  constructor
  case parent_eq_none =>
    intro node
    constructor
    · intro none
      rw [eq_root_of_parent_eq_none none]
      rfl
    · intro zero
      obtain rfl : node = (ofOutline outline).root := NodeAt.ext zero
      exact parent_root outline
  case count_nodeHandles =>
    intro id
    rw [(perm_nodeHandles outline).count_eq, List.Nodup.count List.nodup_range']
    refine if_congr ?_ rfl rfl
    rw [List.mem_range'_1]
    omega
  case held_by_parent =>
    intro node notRoot
    obtain ⟨parent, above, mem⟩ := exists_parent notRoot
    refine ⟨parent, above, NodeAt.parent_id_lt above, ?_⟩
    rw [← NodeAt.map_id_children]
    exact List.mem_map_of_mem mem
  case count_leafHandles =>
    intro id
    rw [(perm_leafHandles outline).count_eq, List.Nodup.count List.nodup_range]
    exact if_congr List.mem_range rfl rfl
  case held_by_owner =>
    intro leaf
    rw [← NodeAt.map_numberArg_args]
    exact List.mem_map.2 ⟨_, mem_args_owner leaf, rfl⟩
  case parent_inRange =>
    intro node mem parent above
    obtain ⟨id, inRange, rfl⟩ := Array.mem_iff_getElem.1 mem
    have smaller := (ofOutline outline).parent_lt (Array.getElem?_eq_getElem inRange) parent above
    exact Nat.lt_trans smaller inRange
  case owner_inRange =>
    intro leaf mem
    obtain ⟨id, inRange, rfl⟩ := Array.mem_iff_getElem.1 mem
    exact (ofOutline outline).owner_lt (Array.getElem?_eq_getElem inRange)
  case preorder_root => exact map_id_preorder_root outline
  case preorder_node => exact map_id_preorder
  case leavesBelow_root => exact map_id_leavesBelow_root outline
  case leavesBelow_node => exact exists_map_id_leavesBelow
  case mem_leavesBelow =>
    intro node leaf
    exact mem_leavesBelow_iff

/-- An outline with nodes in arguments and in bodies, below one another both ways. -/
def nestedOutline : Outline where
  kind := .sequence
  args :=
    [("version", .leaf (.integer 20)),
      ("locals", .node
        ⟨.scopeDeclaration, [],
          [⟨.variableDeclaration,
            [("label", .leaf (.string "spot")), ("data_value", .node (.ofKind .nothing))], [],
            none⟩],
          none⟩),
      ("location", .malformed (.array [])), ("speed", .leaf .null)]
  body := [⟨.sendMessage, [("message", .leaf (.string "hello"))], [.ofKind .channel], none⟩]
  comment := some "nested"

theorem wellNumbered_nestedOutline :
    nestedOutline.nodeCount < UInt32.size ∧ nestedOutline.leafCount < UInt32.size ∧
      Arena.allocate none nestedOutline Arena.empty =
        (0, ⟨(ofOutline nestedOutline).nodes, (ofOutline nestedOutline).leaves⟩) ∧
      (ofOutline nestedOutline).WellNumbered := by
  have nodes : nestedOutline.nodeCount < UInt32.size := by decide
  have leaves : nestedOutline.leafCount < UInt32.size := by decide
  exact ⟨nodes, leaves, wellNumbered_ofOutline nestedOutline nodes leaves⟩

end SequenceCheck.Tree
