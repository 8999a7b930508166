import SequenceCheck.Proofs.Tree.Content

/-!
# The leaves below a node

`node.leavesBelow` lists the leaves at and below a node in the order in which a walk through
everything below the node meets them: through its arguments in declared order, then through its
body.

Main statements: these leaves have consecutive numbers (`NodeAt.fillsLeaves`), and in the tree of an
outline every leaf is an argument of its owner (`mem_args_owner`), and the leaves below a node are
those whose owners are at or below it (`mem_leavesBelow_iff`).
-/

set_option autoImplicit false

namespace SequenceCheck.Tree

open Outline

variable {tree : Tree}

namespace NodeAt

/-- The leaves at and below a node, in the order of a walk through everything below it. -/
def leavesBelow (node : tree.NodeAt) : List tree.LeafAt :=
  (node.args.attach.flatMap fun
    | ⟨(_, .node child), _below⟩ => child.leavesBelow
    | ⟨(_, .leaf leaf), _⟩ => [leaf]
    | ⟨(_, .malformed _), _⟩ => []) ++
  node.body.attach.flatMap fun ⟨child, _below⟩ => child.leavesBelow
termination_by node.remaining
decreasing_by
  · exact remaining_lt_of_mem_args _below
  · exact remaining_lt_of_mem_body _below

/-- The leaves that an argument is or has below it. -/
def leavesIn : tree.ArgAt → List tree.LeafAt
  | .node child => child.leavesBelow
  | .leaf leaf => [leaf]
  | .malformed _ => []

theorem leavesBelow_eq (node : tree.NodeAt) :
    node.leavesBelow =
      (node.args.flatMap fun entry => leavesIn entry.2) ++ node.body.flatMap leavesBelow := by
  rw [leavesBelow, List.flatMap_subtype (g := fun entry => leavesIn entry.2),
    List.flatMap_subtype (g := leavesBelow), List.unattach_attach, List.unattach_attach]
  · intro child below
    rfl
  · rintro ⟨key, arg⟩ below
    cases arg <;> rfl

/-- A leaf at or below a node is an argument of the node, or it is at or below a child. -/
theorem mem_leavesBelow_cases {node : tree.NodeAt} {leaf : tree.LeafAt} :
    leaf ∈ node.leavesBelow ↔
      (∃ key, (key, Arg.leaf leaf) ∈ node.args) ∨
        ∃ child ∈ node.children, leaf ∈ child.leavesBelow := by
  rw [leavesBelow_eq, List.mem_append, List.mem_flatMap, List.mem_flatMap]
  constructor
  · rintro (⟨⟨key, arg⟩, mem, inArg⟩ | ⟨child, mem, below⟩)
    · cases arg with
      | node child => exact .inr ⟨child, mem_children_iff.2 (.inl ⟨key, mem⟩), inArg⟩
      | leaf found =>
        obtain rfl := List.mem_singleton.1 inArg
        exact .inl ⟨key, mem⟩
      | malformed raw => exact absurd inArg List.not_mem_nil
    · exact .inr ⟨child, mem_children_iff.2 (.inr mem), below⟩
  · rintro (⟨key, mem⟩ | ⟨child, mem, below⟩)
    · exact .inl ⟨_, mem, List.mem_singleton_self leaf⟩
    · rcases mem_children_iff.1 mem with ⟨key, inArgs⟩ | inBody
      · exact .inl ⟨_, inArgs, below⟩
      · exact .inr ⟨child, inBody, below⟩

/-- The leaves at and below a node are the arguments of the nodes at and below it. -/
theorem mem_leavesBelow_iff_exists {node : tree.NodeAt} {leaf : tree.LeafAt} :
    leaf ∈ node.leavesBelow ↔
      ∃ inner ∈ node.preorder, ∃ key, (key, Arg.leaf leaf) ∈ inner.args := by
  induction node using induct_children with
  | step node ih =>
    rw [mem_leavesBelow_cases]
    constructor
    · rintro (own | ⟨child, mem, below⟩)
      · exact ⟨node, mem_preorder_self node, own⟩
      · obtain ⟨inner, inChild, own⟩ := (ih child mem).1 below
        exact ⟨inner, mem_preorder_iff.2 (.inr ⟨child, mem, inChild⟩), own⟩
    · rintro ⟨inner, mem, own⟩
      rcases mem_preorder_iff.1 mem with rfl | ⟨child, inChildren, inChild⟩
      · exact .inl own
      · exact .inr ⟨child, inChildren, (ih child inChildren).2 ⟨inner, inChild, own⟩⟩

end NodeAt

/-! ## Numbers of leaves -/

/-- The leaves at and below a node that an outline is placed at have the numbers of the layout. -/
def NodeAt.FillsLeaves (node : tree.NodeAt) : Prop :=
  ∀ {parent : Option Nat} {leaf : Nat} {outline : Outline},
    tree.Placed parent node.id leaf outline →
      node.leavesBelow.map LeafAt.id = List.range' leaf outline.leafCount

/-- The leaves in placed arguments have the numbers of their layout. -/
theorem PlacedArgs.map_id_leavesIn {owner : Nat} :
    ∀ {args : List (String × Arg Outline Value)} {id leaf : Nat}
      {shown : List (String × tree.ArgAt)}, tree.PlacedArgs owner id leaf args →
      shown.map (fun entry => (entry.1, numberArg entry.2)) = numberedArgs id leaf args →
      (∀ key child, (key, Arg.node child) ∈ shown → child.FillsLeaves) →
      (shown.flatMap fun entry => NodeAt.leavesIn entry.2).map LeafAt.id =
        List.range' leaf (argsLeafCount args)
  | [], _, _, shown, _, same, _ => by
    rw [numberedArgs, List.map_eq_nil_iff] at same
    rw [same]
    rfl
  | (key, .node outline) :: rest, id, leaf, shown, h, same, fill => by
    obtain ⟨⟨_, arg⟩, shown, rfl, first, later⟩ := List.map_eq_cons_iff.1 same
    obtain ⟨rfl, numbered⟩ := Prod.mk.inj first
    obtain ⟨child, rfl, rfl⟩ := eq_node_of_numberArg numbered
    have inFirst := fill _ child List.mem_cons_self h.head_node
    have inOthers := PlacedArgs.map_id_leavesIn h.tail_node later fun key other mem =>
      fill key other (List.mem_cons_of_mem _ mem)
    -- The leaves of the rest are numbered from where those of the first argument end.
    rw [List.flatMap_cons, List.map_append, NodeAt.leavesIn, inFirst, inOthers, argsLeafCount,
      List.range'_append_1]
  | (key, .leaf value) :: rest, id, leaf, shown, h, same, fill => by
    obtain ⟨⟨_, arg⟩, shown, rfl, first, later⟩ := List.map_eq_cons_iff.1 same
    obtain ⟨rfl, numbered⟩ := Prod.mk.inj first
    obtain ⟨found, rfl, rfl⟩ := eq_leaf_of_numberArg numbered
    have inOthers := PlacedArgs.map_id_leavesIn h.tail_leaf later fun key other mem =>
      fill key other (List.mem_cons_of_mem _ mem)
    rw [List.flatMap_cons, List.map_append, NodeAt.leavesIn, inOthers, argsLeafCount,
      Nat.add_comm 1, List.range'_succ]
    rfl
  | (key, .malformed raw) :: rest, id, leaf, shown, h, same, fill => by
    obtain ⟨⟨_, arg⟩, shown, rfl, first, later⟩ := List.map_eq_cons_iff.1 same
    obtain ⟨rfl, numbered⟩ := Prod.mk.inj first
    obtain rfl := eq_malformed_of_numberArg numbered
    have inOthers := PlacedArgs.map_id_leavesIn h.tail_malformed later fun key other mem =>
      fill key other (List.mem_cons_of_mem _ mem)
    exact inOthers

/-- The leaves in a placed body have the numbers of its layout. -/
theorem PlacedBody.map_id_leavesBelow {owner : Nat} :
    ∀ {body : List Outline} {id leaf : Nat} {nodes : List tree.NodeAt},
      tree.PlacedBody owner id leaf body → nodes.map NodeAt.id = numberedBody id body →
      (∀ node ∈ nodes, node.FillsLeaves) →
      (nodes.flatMap NodeAt.leavesBelow).map LeafAt.id = List.range' leaf (bodyLeafCount body)
  | [], _, _, nodes, _, same, _ => by
    rw [List.map_eq_nil_iff.1 same]
    rfl
  | outline :: rest, id, leaf, nodes, h, same, fill => by
    obtain ⟨node, nodes, rfl, rfl, later⟩ := List.map_eq_cons_iff.1 same
    have first := fill node List.mem_cons_self h.head
    have others := PlacedBody.map_id_leavesBelow h.tail later fun other mem =>
      fill other (List.mem_cons_of_mem _ mem)
    rw [List.flatMap_cons, List.map_append, first, others, bodyLeafCount, List.range'_append_1]

/-- The leaves at and below a node have consecutive numbers in the order of a walk. -/
theorem NodeAt.fillsLeaves (node : tree.NodeAt) : node.FillsLeaves := by
  induction node using NodeAt.induct_children with
  | step node ih =>
    intro parent leaf outline placed
    have stored := Option.some.inj (node.getElem?_id.symm.trans placed.stored)
    have inArgs := placed.args.map_id_leavesIn
      (by rw [node.map_numberArg_args, stored])
      fun key child mem => ih child (mem_children_iff.2 (.inl ⟨key, mem⟩))
    have inBody := placed.body.map_id_leavesBelow
      (by rw [node.map_id_body, stored])
      fun child mem => ih child (mem_children_iff.2 (.inr mem))
    rcases outline with ⟨kind, args, body, comment⟩
    rw [leavesBelow_eq, List.map_append, inArgs, inBody, Outline.leafCount, List.range'_append_1]

/-! ## The tree of an outline -/

section OfOutline

variable {outline : Outline}

/-- The leaves below the root have all the numbers of leaves, in order. -/
theorem map_id_leavesBelow_root (outline : Outline) :
    (ofOutline outline).root.leavesBelow.map LeafAt.id =
      List.range (ofOutline outline).leafCount := by
  rw [leafCount_ofOutline, List.range_eq_range']
  exact (ofOutline outline).root.fillsLeaves (placed_ofOutline outline)

/-- Every leaf of the tree of an outline is below the root. -/
theorem mem_leavesBelow_root (leaf : (ofOutline outline).LeafAt) :
    leaf ∈ (ofOutline outline).root.leavesBelow := by
  have mem : leaf.id ∈ List.range (ofOutline outline).leafCount := List.mem_range.2 leaf.isLt
  rw [← map_id_leavesBelow_root] at mem
  obtain ⟨found, below, same⟩ := List.mem_map.1 mem
  rwa [LeafAt.ext same] at below

/-- A leaf is an argument of its owner, under the key that it knows. -/
theorem mem_args_owner (leaf : (ofOutline outline).LeafAt) :
    (leaf.key, Arg.leaf leaf) ∈ leaf.owner.args := by
  obtain ⟨inner, _, key, own⟩ := NodeAt.mem_leavesBelow_iff_exists.1 (mem_leavesBelow_root leaf)
  obtain ⟨sameKey, sameOwner⟩ := stored_of_mem_args own
  rw [sameKey, sameOwner]
  exact own

/-- The leaves at and below a node are those whose owners are at or below it. -/
theorem mem_leavesBelow_iff {node : (ofOutline outline).NodeAt}
    {leaf : (ofOutline outline).LeafAt} :
    leaf ∈ node.leavesBelow ↔ leaf.owner ∈ node.preorder := by
  rw [NodeAt.mem_leavesBelow_iff_exists]
  constructor
  · rintro ⟨inner, mem, key, own⟩
    rw [(stored_of_mem_args own).2]
    exact mem
  · intro mem
    exact ⟨leaf.owner, mem, leaf.key, mem_args_owner leaf⟩

end OfOutline

end SequenceCheck.Tree
