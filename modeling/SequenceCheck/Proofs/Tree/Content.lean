import SequenceCheck.Proofs.RelatedLists
import SequenceCheck.Proofs.Tree.Placement
import SequenceCheck.Proofs.Tree.Preorder
import SequenceCheck.Tree.Outlined

/-!
# What stands at the nodes of a tree

`node.Holds parent outline` says that an outline stands at a node of a tree. What is written at the
node is then what the outline says (`Holds.kind`, `Holds.comment`, `Holds.parent_eq`), and its
arguments and body hold those of the outline, one by one (`Holds.args`, `Holds.body`). Facts about
the tree of an outline are proved from these, without looking at numbers again.

Main statements: the tree of an outline has that outline (`outline_ofOutline`), the preorder of its
root has every node (`mem_preorder_root`), a child has its owner for its parent
(`parent_of_mem_children`), every node but the root is a child (`exists_mem_children`), and a leaf
knows its key and owner (`stored_of_mem_args`).
-/

set_option autoImplicit false

namespace SequenceCheck.Tree

open Outline

variable {tree : Tree}

/-! ## Positions that hold an outline -/

/-- An argument with numbers in place of positions. -/
def numberArg : tree.ArgAt → Arg Nat Nat
  | .node node => .node node.id
  | .leaf leaf => .leaf leaf.id
  | .malformed raw => .malformed raw

theorem numberArg_argAt :
    ∀ (arg : Arg Nat Nat) (inRange : tree.ArgInRange arg), numberArg (tree.argAt arg inRange) = arg
  | .node _, _ => rfl
  | .leaf _, _ => rfl
  | .malformed _, _ => rfl

/-- A node is known by its number. -/
theorem NodeAt.id_injective : Function.Injective (@NodeAt.id tree) :=
  fun _ _ => NodeAt.ext

theorem eq_node_of_numberArg {id : Nat} :
    ∀ {arg : tree.ArgAt}, numberArg arg = .node id →
      ∃ child : tree.NodeAt, arg = .node child ∧ child.id = id
  | .node child, h => ⟨child, rfl, Arg.node.inj h⟩

theorem eq_leaf_of_numberArg {id : Nat} :
    ∀ {arg : tree.ArgAt}, numberArg arg = .leaf id →
      ∃ found : tree.LeafAt, arg = .leaf found ∧ found.id = id
  | .leaf found, h => ⟨found, rfl, Arg.leaf.inj h⟩

theorem eq_malformed_of_numberArg {raw : Json} :
    ∀ {arg : tree.ArgAt}, numberArg arg = .malformed raw → arg = .malformed raw
  | .malformed _, h => congrArg Arg.malformed (Arg.malformed.inj h)

/-- Positions show an argument by its number alone. -/
theorem numberArg_injective : Function.Injective (@numberArg tree) := by
  intro arg other same
  cases other with
  | node node =>
    obtain ⟨found, rfl, id⟩ := eq_node_of_numberArg same
    rw [NodeAt.ext id]
  | leaf leaf =>
    obtain ⟨found, rfl, id⟩ := eq_leaf_of_numberArg same
    rw [LeafAt.ext id]
  | malformed raw => exact eq_malformed_of_numberArg same

/-- The positions that the arguments of a node show have the numbers that are stored. -/
theorem NodeAt.map_numberArg_args (node : tree.NodeAt) :
    node.args.map (fun entry => (entry.1, numberArg entry.2)) = node.stored.args := by
  simp [args, List.map_pmap, numberArg_argAt]

/-- An outline stands at a node, below the given parent. -/
def NodeAt.Holds (node : tree.NodeAt) (parent : Option tree.NodeAt) (outline : Outline) : Prop :=
  ∃ leaf, tree.Placed (parent.map NodeAt.id) node.id leaf outline

/-- An argument of a node stands for an argument of an outline. -/
inductive EntryHolds (owner : tree.NodeAt) :
    String × tree.ArgAt → String × Arg Outline Value → Prop where
  | node {key : String} {child : tree.NodeAt} {outline : Outline} :
    child.Holds (some owner) outline → EntryHolds owner (key, .node child) (key, .node outline)
  | leaf {key : String} {found : tree.LeafAt} {value : Value} :
    found.stored = ⟨key, value, owner.id⟩ →
      EntryHolds owner (key, .leaf found) (key, .leaf value)
  | malformed {key : String} {raw : Json} :
    EntryHolds owner (key, .malformed raw) (key, .malformed raw)

/-- The arguments that a part of a layout numbers stand for those of the outline. -/
theorem PlacedArgs.forall₂ {owner : tree.NodeAt} :
    ∀ {args : List (String × Arg Outline Value)} {id leaf : Nat}
      {shown : List (String × tree.ArgAt)}, tree.PlacedArgs owner.id id leaf args →
      shown.map (fun entry => (entry.1, numberArg entry.2)) = numberedArgs id leaf args →
      List.Forall₂ (EntryHolds owner) shown args
  | [], _, _, shown, _, same => by
    rw [numberedArgs, List.map_eq_nil_iff] at same
    rw [same]
    exact .nil
  | (key, .node outline) :: rest, id, leaf, shown, h, same => by
    obtain ⟨⟨_, arg⟩, shown, rfl, first, later⟩ := List.map_eq_cons_iff.1 same
    obtain ⟨rfl, numbered⟩ := Prod.mk.inj first
    -- What is shown has the number at which the layout places the argument.
    obtain ⟨child, rfl, rfl⟩ := eq_node_of_numberArg numbered
    exact .cons (.node ⟨leaf, h.head_node⟩) (PlacedArgs.forall₂ h.tail_node later)
  | (key, .leaf value) :: rest, id, leaf, shown, h, same => by
    obtain ⟨⟨_, arg⟩, shown, rfl, first, later⟩ := List.map_eq_cons_iff.1 same
    obtain ⟨rfl, numbered⟩ := Prod.mk.inj first
    obtain ⟨found, rfl, rfl⟩ := eq_leaf_of_numberArg numbered
    have stored := found.getElem?_id.symm.trans h.head_leaf
    exact .cons (.leaf (Option.some.inj stored)) (PlacedArgs.forall₂ h.tail_leaf later)
  | (key, .malformed raw) :: rest, id, leaf, shown, h, same => by
    obtain ⟨⟨_, arg⟩, shown, rfl, first, later⟩ := List.map_eq_cons_iff.1 same
    obtain ⟨rfl, numbered⟩ := Prod.mk.inj first
    obtain rfl := eq_malformed_of_numberArg numbered
    exact .cons .malformed (PlacedArgs.forall₂ h.tail_malformed later)

/-- The children that a part of a layout numbers hold those of the outline. -/
theorem PlacedBody.forall₂ {owner : tree.NodeAt} :
    ∀ {body : List Outline} {id leaf : Nat} {shown : List tree.NodeAt},
      tree.PlacedBody owner.id id leaf body → shown.map NodeAt.id = numberedBody id body →
      List.Forall₂ (fun child outline => child.Holds (some owner) outline) shown body
  | [], _, _, shown, _, same => by
    rw [numberedBody, List.map_eq_nil_iff] at same
    rw [same]
    exact .nil
  | outline :: rest, id, leaf, shown, h, same => by
    obtain ⟨child, shown, rfl, rfl, later⟩ := List.map_eq_cons_iff.1 same
    exact .cons ⟨leaf, h.head⟩ (PlacedBody.forall₂ h.tail later)

namespace NodeAt

/-- The number of a node's parent is the one that is stored. -/
theorem map_id_parent (node : tree.NodeAt) : node.parent.map NodeAt.id = node.stored.parent := by
  simp [parent, Option.map_pmap]

namespace Holds

variable {node : tree.NodeAt} {parent : Option tree.NodeAt} {outline : Outline}

/-- What is stored at a node that holds an outline. -/
theorem stored (h : node.Holds parent outline) : ∃ leaf,
    tree.PlacedArgs node.id (node.id + 1) leaf outline.args ∧
    tree.PlacedBody node.id (node.id + 1 + argsNodeCount outline.args)
      (leaf + argsLeafCount outline.args) outline.body ∧
    node.stored =
      { kind := outline.kind
        args := numberedArgs (node.id + 1) leaf outline.args
        body := numberedBody (node.id + 1 + argsNodeCount outline.args) outline.body
        parent := parent.map NodeAt.id
        comment := outline.comment } := by
  obtain ⟨leaf, placed⟩ := h
  have same := node.getElem?_id.symm.trans placed.stored
  exact ⟨leaf, placed.args, placed.body, Option.some.inj same⟩

theorem kind (h : node.Holds parent outline) : node.kind = outline.kind := by
  obtain ⟨leaf, _, _, same⟩ := h.stored
  exact congrArg Node.kind same

theorem comment (h : node.Holds parent outline) : node.comment = outline.comment := by
  obtain ⟨leaf, _, _, same⟩ := h.stored
  exact congrArg Node.comment same

theorem parent_eq (h : node.Holds parent outline) : node.parent = parent := by
  obtain ⟨leaf, _, _, same⟩ := h.stored
  have numbers : node.parent.map NodeAt.id = parent.map NodeAt.id := by
    rw [map_id_parent, same]
  exact Option.map_injective NodeAt.id_injective numbers

/-- The arguments of a node stand for those of the outline that it holds. -/
theorem args (h : node.Holds parent outline) :
    List.Forall₂ (EntryHolds node) node.args outline.args := by
  obtain ⟨leaf, placed, _, same⟩ := h.stored
  apply placed.forall₂
  rw [map_numberArg_args, same]

/-- The body of a node holds that of the outline. -/
theorem body (h : node.Holds parent outline) :
    List.Forall₂ (fun child part => child.Holds (some node) part) node.body outline.body := by
  obtain ⟨leaf, _, placed, same⟩ := h.stored
  apply placed.forall₂
  rw [map_id_body, same]

end Holds

end NodeAt

/-! ## Numbers in preorder -/

/-- The nodes among the arguments of a node have the numbers that are stored. -/
theorem NodeAt.map_id_filterMap_args (node : tree.NodeAt) :
    (node.args.filterMap fun entry => entry.2.node?).map NodeAt.id =
      node.stored.args.filterMap fun entry => entry.2.node? := by
  rw [← map_numberArg_args, List.map_filterMap, List.filterMap_map]
  congr 1
  funext entry
  rcases entry with ⟨key, arg⟩
  cases arg <;> rfl

/-- Everything at and below a node that an outline is placed at has the numbers of the layout. -/
def NodeAt.FillsNumbers (node : tree.NodeAt) : Prop :=
  ∀ {parent : Option Nat} {leaf : Nat} {outline : Outline},
    tree.Placed parent node.id leaf outline →
      node.preorder.map NodeAt.id = List.range' node.id outline.nodeCount

/-- Everything in placed arguments has the numbers of their layout. -/
theorem PlacedArgs.map_id_preorder {owner : Nat} :
    ∀ {args : List (String × Arg Outline Value)} {id leaf : Nat} {nodes : List tree.NodeAt},
      tree.PlacedArgs owner id leaf args →
      nodes.map NodeAt.id =
        (numberedArgs id leaf args).filterMap (fun entry => entry.2.node?) →
      (∀ node ∈ nodes, node.FillsNumbers) →
      (nodes.flatMap NodeAt.preorder).map NodeAt.id = List.range' id (argsNodeCount args)
  | [], _, _, nodes, _, same, _ => by
    rw [List.map_eq_nil_iff.1 same]
    rfl
  | (_, .node outline) :: rest, id, leaf, nodes, h, same, fill => by
    obtain ⟨node, nodes, rfl, rfl, later⟩ := List.map_eq_cons_iff.1 same
    have first := fill node List.mem_cons_self h.head_node
    have others := PlacedArgs.map_id_preorder h.tail_node later fun other mem =>
      fill other (List.mem_cons_of_mem _ mem)
    -- The rest of the arguments is numbered from where the first one ends.
    rw [List.flatMap_cons, List.map_append, first, others, argsNodeCount, List.range'_append_1]
  | (_, .leaf _) :: rest, id, leaf, nodes, h, same, fill => by
    have others := PlacedArgs.map_id_preorder h.tail_leaf same fill
    exact others
  | (_, .malformed _) :: rest, id, leaf, nodes, h, same, fill => by
    have others := PlacedArgs.map_id_preorder h.tail_malformed same fill
    exact others

/-- Everything in a placed body has the numbers of its layout. -/
theorem PlacedBody.map_id_preorder {owner : Nat} :
    ∀ {body : List Outline} {id leaf : Nat} {nodes : List tree.NodeAt},
      tree.PlacedBody owner id leaf body → nodes.map NodeAt.id = numberedBody id body →
      (∀ node ∈ nodes, node.FillsNumbers) →
      (nodes.flatMap NodeAt.preorder).map NodeAt.id = List.range' id (bodyNodeCount body)
  | [], _, _, nodes, _, same, _ => by
    rw [List.map_eq_nil_iff.1 same]
    rfl
  | outline :: rest, id, leaf, nodes, h, same, fill => by
    obtain ⟨node, nodes, rfl, rfl, later⟩ := List.map_eq_cons_iff.1 same
    have first := fill node List.mem_cons_self h.head
    have others := PlacedBody.map_id_preorder h.tail later fun other mem =>
      fill other (List.mem_cons_of_mem _ mem)
    rw [List.flatMap_cons, List.map_append, first, others, bodyNodeCount, List.range'_append_1]

/-- The nodes at and below a node have consecutive numbers in preorder. -/
theorem NodeAt.fillsNumbers (node : tree.NodeAt) : node.FillsNumbers := by
  induction node using NodeAt.induct_children with
  | step node ih =>
    intro parent leaf outline placed
    have stored := Option.some.inj (node.getElem?_id.symm.trans placed.stored)
    have inArgs := placed.args.map_id_preorder
      (by rw [node.map_id_filterMap_args, stored])
      fun child mem => ih child (List.mem_append_left _ mem)
    have inBody := placed.body.map_id_preorder
      (by rw [node.map_id_body, stored])
      fun child mem => ih child (List.mem_append_right _ mem)
    rcases outline with ⟨kind, args, body, comment⟩
    -- The three ranges follow one another: the node, its arguments, its body.
    rw [preorder_eq, children, List.flatMap_append, List.map_cons, List.map_append, inArgs, inBody,
      Outline.nodeCount, List.range'_append_1, Nat.add_assoc 1, Nat.add_comm 1, List.range'_succ]

/-! ## Parts of an outline -/

namespace NodeAt

/-- A node right below one that holds an outline holds an outline below it. -/
theorem Holds.child {node child : tree.NodeAt} {parent : Option tree.NodeAt} {outline : Outline}
    (h : node.Holds parent outline) (mem : child ∈ node.children) :
    ∃ part, child.Holds (some node) part := by
  rcases mem_children_iff.1 mem with ⟨key, inArgs⟩ | inBody
  · obtain ⟨written, _, holds⟩ := exists_of_forall₂_mem h.args inArgs
    cases holds with
    | node below => exact ⟨_, below⟩
  · obtain ⟨part, _, below⟩ := exists_of_forall₂_mem h.body inBody
    exact ⟨part, below⟩

/-- Every node below one that holds an outline holds an outline. -/
theorem Holds.inner {node inner : tree.NodeAt} {parent : Option tree.NodeAt} {outline : Outline}
    (h : node.Holds parent outline) (mem : inner ∈ node.preorder) :
    ∃ above part, inner.Holds above part := by
  induction node using induct_children generalizing parent outline with
  | step node ih =>
    rcases mem_preorder_iff.1 mem with rfl | ⟨child, inChildren, below⟩
    · exact ⟨parent, outline, h⟩
    · obtain ⟨part, holds⟩ := h.child inChildren
      exact ih child inChildren holds below

/-- A node has the outline that it holds. -/
theorem Holds.outline_eq {node : tree.NodeAt} {parent : Option tree.NodeAt} {outline : Outline}
    (h : node.Holds parent outline) : node.outline = outline := by
  induction node using induct_children generalizing parent outline with
  | step node ih =>
    have args : node.args.map (fun entry => (entry.1, outlineArg entry.2)) = outline.args := by
      refine map_eq_of_forall₂ h.args fun entry mem written holds => ?_
      cases holds with
      | node below =>
        have same := ih _ (mem_children_iff.2 (.inl ⟨_, mem⟩)) below
        rw [outlineArg, same]
      | leaf stored =>
        have value := congrArg Leaf.value stored
        exact congrArg (fun value => (_, Arg.leaf value)) value
      | malformed => rfl
    have body : node.body.map NodeAt.outline = outline.body :=
      map_eq_of_forall₂ h.body fun child mem part below =>
        ih child (mem_children_iff.2 (.inr mem)) below
    rw [NodeAt.outline_eq, args, body, h.kind, h.comment]
    cases outline
    rfl

end NodeAt

/-! ## The tree of an outline -/

section OfOutline

variable {outline : Outline} {node child : (ofOutline outline).NodeAt}

theorem holds_root (outline : Outline) : (ofOutline outline).root.Holds none outline :=
  ⟨0, placed_ofOutline outline⟩

/-- The tree of an outline has that outline. -/
@[simp]
theorem outline_ofOutline (outline : Outline) : (ofOutline outline).outline = outline :=
  (holds_root outline).outline_eq

theorem NodeAt.id_lt_nodeCount (node : (ofOutline outline).NodeAt) :
    node.id < outline.nodeCount := by
  rw [← nodeCount_ofOutline]
  exact node.isLt

/-- Every node of the tree of an outline is at or below the root. -/
theorem mem_preorder_root (node : (ofOutline outline).NodeAt) :
    node ∈ (ofOutline outline).root.preorder := by
  have numbers := (ofOutline outline).root.fillsNumbers (placed_ofOutline outline)
  have inRange := node.id_lt_nodeCount
  have mem : node.id ∈ List.range' 0 outline.nodeCount :=
    List.mem_range'_1.2 ⟨Nat.zero_le _, by omega⟩
  -- Every number in range is taken by a node below the root, and no other node has that number.
  change node.id ∈ List.range' (ofOutline outline).root.id outline.nodeCount at mem
  rw [← numbers] at mem
  obtain ⟨inner, below, same⟩ := List.mem_map.1 mem
  rwa [NodeAt.ext same] at below

/-- Every node of the tree of an outline holds an outline. -/
theorem exists_holds (node : (ofOutline outline).NodeAt) : ∃ parent part, node.Holds parent part :=
  (holds_root outline).inner (mem_preorder_root node)

/-- The parent of a node right below another is that other. -/
theorem parent_of_mem_children (mem : child ∈ node.children) : child.parent = some node := by
  obtain ⟨parent, part, holds⟩ := exists_holds node
  obtain ⟨below, holds⟩ := holds.child mem
  exact holds.parent_eq

/-- The root has no parent. -/
theorem parent_root (outline : Outline) : (ofOutline outline).root.parent = none :=
  (holds_root outline).parent_eq

/-- Every node but the root is right below another. -/
theorem exists_mem_children (notRoot : node ≠ (ofOutline outline).root) :
    ∃ parent : (ofOutline outline).NodeAt, node ∈ parent.children := by
  have mem := mem_preorder_root node
  -- The induction is on the node above, which need not be the root.
  generalize (ofOutline outline).root = top at mem notRoot
  induction top using NodeAt.induct_children with
  | step top ih =>
    rcases NodeAt.mem_preorder_iff.1 mem with same | ⟨child, inChildren, below⟩
    · exact absurd same notRoot
    · by_cases here : node = child
      · exact ⟨top, here ▸ inChildren⟩
      · exact ih child inChildren below here

/-- Only the root has no parent. -/
theorem eq_root_of_parent_eq_none (h : node.parent = none) : node = (ofOutline outline).root := by
  by_contra notRoot
  obtain ⟨parent, mem⟩ := exists_mem_children notRoot
  exact absurd (h.symm.trans (parent_of_mem_children mem)) (by simp)

/-- A leaf among the arguments of a node knows its key and its owner. -/
theorem stored_of_mem_args {key : String} {leaf : (ofOutline outline).LeafAt}
    (mem : (key, Arg.leaf leaf) ∈ node.args) : leaf.key = key ∧ leaf.owner = node := by
  obtain ⟨parent, part, holds⟩ := exists_holds node
  obtain ⟨written, _, entry⟩ := exists_of_forall₂_mem holds.args mem
  cases entry with
  | leaf stored => exact ⟨congrArg Leaf.key stored, NodeAt.ext (congrArg Leaf.owner stored)⟩

end OfOutline

end SequenceCheck.Tree
