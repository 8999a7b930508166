import SequenceCheck.Proofs.Tree.Parts

/-!
# Trees within trees

An `Embedding` of one tree in another takes nodes to nodes and leaves to leaves and keeps what is
written at them and how they hang together, except that the root of the embedded tree may have a
parent. What is proved of embeddings does not look at numbers.

Main statement: the tree of a part of an outline is embedded in the tree of the whole, each node at
its number counted from that of the part (`Outline.Within.exists_embedding`).
-/

set_option autoImplicit false

namespace SequenceCheck

/-- An argument with another node or leaf in place of its own. -/
def Arg.map {ν l ν' l' : Type} (node : ν → ν') (leaf : l → l') : Arg ν l → Arg ν' l'
  | .node value => .node (node value)
  | .leaf value => .leaf (leaf value)
  | .malformed raw => .malformed raw

namespace Tree

open Outline

/-! ## Embeddings -/

/-- The nodes and leaves of one tree stand in another one as they stand in their own. -/
structure Embedding (inner outer : Tree) where
  node : inner.NodeAt → outer.NodeAt
  leaf : inner.LeafAt → outer.LeafAt
  kind_node : ∀ i, (node i).kind = i.kind
  args_node : ∀ i, (node i).args = i.args.map fun entry => (entry.1, entry.2.map node leaf)
  body_node : ∀ i, (node i).body = i.body.map node
  /-- Only from its root does a way lead out of the inner tree. -/
  parent_node : ∀ i, (node i).parent = (i.parent.map node).or (node inner.root).parent
  key_leaf : ∀ i, (leaf i).key = i.key
  value_leaf : ∀ i, (leaf i).value = i.value
  owner_leaf : ∀ i, (leaf i).owner = node i.owner

namespace Embedding

variable {inner outer : Tree} (e : Embedding inner outer)

/-- An argument where it stands in the outer tree. -/
def arg : inner.ArgAt → outer.ArgAt :=
  Arg.map e.node e.leaf

/-- The same argument stands under a key. -/
theorem arg?_node (i : inner.NodeAt) (key : String) :
    (e.node i).arg? key = (i.arg? key).map e.arg := by
  rw [NodeAt.arg?, NodeAt.arg?, e.args_node]
  induction i.args with
  | nil => rfl
  | cons entry rest ih =>
    rw [List.map_cons, List.lookup_cons, List.lookup_cons, ih]
    cases key == entry.1 <;> rfl

theorem argKeys_node (i : inner.NodeAt) : (e.node i).argKeys = i.argKeys := by
  rw [NodeAt.argKeys, NodeAt.argKeys, e.args_node, Keyed.keys, List.map_map]
  rfl

/-- The same node stands under a key. -/
theorem nodeArg?_node (i : inner.NodeAt) (key : String) :
    (e.node i).nodeArg? key = (i.nodeArg? key).map e.node := by
  rw [NodeAt.nodeArg?, NodeAt.nodeArg?, e.arg?_node]
  cases i.arg? key with
  | none => rfl
  | some arg => cases arg <;> rfl

/-- A leaf of the same value stands under a key. -/
theorem leafValue?_node (i : inner.NodeAt) (key : String) :
    (e.node i).leafValue? key = i.leafValue? key := by
  rw [NodeAt.leafValue?, NodeAt.leafValue?, NodeAt.leafArg?, NodeAt.leafArg?, e.arg?_node]
  cases i.arg? key with
  | none => rfl
  | some arg =>
    cases arg with
    | node child => rfl
    | leaf found => exact congrArg some (e.value_leaf found)
    | malformed raw => rfl

/-- A node with a parent has the same parent in the outer tree. -/
theorem parent_of_parent {i above : inner.NodeAt} (h : i.parent = some above) :
    (e.node i).parent = some (e.node above) := by
  rw [e.parent_node, h]
  rfl

end Embedding

/-! ## Numbers counted from others -/

/-- A stored node with its numbers counted from others. What has no parent gets the given one. -/
def Node.moved (above : Option Nat) (first leaf : Nat) (node : Node) : Node where
  kind := node.kind
  args := node.args.map fun entry => (entry.1, entry.2.map (first + ·) (leaf + ·))
  body := node.body.map (first + ·)
  parent := (node.parent.map (first + ·)).or above
  comment := node.comment

/-- A stored leaf with the number of its owner counted from another. -/
def Leaf.moved (first : Nat) (leaf : Leaf) : Leaf :=
  { leaf with owner := first + leaf.owner }

theorem numberedArgs_moved (first firstLeaf : Nat) :
    ∀ (args : List (String × Arg Outline Value)) (id leaf : Nat),
      numberedArgs (first + id) (firstLeaf + leaf) args =
        (numberedArgs id leaf args).map fun entry =>
          (entry.1, entry.2.map (first + ·) (firstLeaf + ·))
  | [], _, _ => rfl
  | (key, .node outline) :: rest, id, leaf => by
    have later := numberedArgs_moved first firstLeaf rest (id + outline.nodeCount)
      (leaf + outline.leafCount)
    rw [numberedArgs, numberedArgs, List.map_cons, ← later, Nat.add_assoc, Nat.add_assoc]
    rfl
  | (key, .leaf value) :: rest, id, leaf => by
    have later := numberedArgs_moved first firstLeaf rest id (leaf + 1)
    rw [numberedArgs, numberedArgs, List.map_cons, ← later, Nat.add_assoc]
    rfl
  | (key, .malformed raw) :: rest, id, leaf => by
    have later := numberedArgs_moved first firstLeaf rest id leaf
    rw [numberedArgs, numberedArgs, List.map_cons, ← later]
    rfl

theorem numberedBody_moved (first : Nat) : ∀ (body : List Outline) (id : Nat),
    numberedBody (first + id) body = (numberedBody id body).map (first + ·)
  | [], _ => rfl
  | outline :: rest, id => by
    have later := numberedBody_moved first rest (id + outline.nodeCount)
    rw [numberedBody, numberedBody, List.map_cons, ← later, Nat.add_assoc]

mutual

/-- Laid out from other numbers on, an outline has the same nodes with their numbers counted from
there. -/
theorem laidNodes_moved (above : Option Nat) (first firstLeaf : Nat) (parent : Option Nat) :
    ∀ (outline : Outline) (id leaf : Nat),
      outline.laidNodes ((parent.map (first + ·)).or above) (first + id) (firstLeaf + leaf) =
        (outline.laidNodes parent id leaf).map (Node.moved above first firstLeaf)
  | ⟨kind, args, body, comment⟩, id, leaf => by
    have inArgs := laidArgs_moved above first firstLeaf id args (id + 1) leaf
    have inBody := laidBody_moved above first firstLeaf id body (id + 1 + argsNodeCount args)
      (leaf + argsLeafCount args)
    have argNumbers := numberedArgs_moved first firstLeaf args (id + 1) leaf
    have bodyNumbers := numberedBody_moved first body (id + 1 + argsNodeCount args)
    -- The two layouts add up the same numbers, in another grouping.
    simp only [← Nat.add_assoc] at inArgs inBody argNumbers bodyNumbers
    rw [laidNodes, laidNodes, List.map_cons, List.map_append, ← inArgs, ← inBody, Node.moved,
      ← argNumbers, ← bodyNumbers]

theorem laidArgs_moved (above : Option Nat) (first firstLeaf owner : Nat) :
    ∀ (args : List (String × Arg Outline Value)) (id leaf : Nat),
      laidArgs (first + owner) (first + id) (firstLeaf + leaf) args =
        (laidArgs owner id leaf args).map (Node.moved above first firstLeaf)
  | [], _, _ => rfl
  | (key, .node outline) :: rest, id, leaf => by
    have here := laidNodes_moved above first firstLeaf (some owner) outline id leaf
    have later := laidArgs_moved above first firstLeaf owner rest (id + outline.nodeCount)
      (leaf + outline.leafCount)
    rw [laidArgs, laidArgs, List.map_append, ← here, ← later, Nat.add_assoc, Nat.add_assoc]
    rfl
  | (key, .leaf value) :: rest, id, leaf => by
    have later := laidArgs_moved above first firstLeaf owner rest id (leaf + 1)
    rw [laidArgs, laidArgs, ← later, Nat.add_assoc]
  | (key, .malformed raw) :: rest, id, leaf => by
    rw [laidArgs, laidArgs, laidArgs_moved above first firstLeaf owner rest id leaf]

theorem laidBody_moved (above : Option Nat) (first firstLeaf owner : Nat) :
    ∀ (body : List Outline) (id leaf : Nat),
      laidBody (first + owner) (first + id) (firstLeaf + leaf) body =
        (laidBody owner id leaf body).map (Node.moved above first firstLeaf)
  | [], _, _ => rfl
  | outline :: rest, id, leaf => by
    have here := laidNodes_moved above first firstLeaf (some owner) outline id leaf
    have later := laidBody_moved above first firstLeaf owner rest (id + outline.nodeCount)
      (leaf + outline.leafCount)
    rw [laidBody, laidBody, List.map_append, ← here, ← later, Nat.add_assoc, Nat.add_assoc]
    rfl

end

mutual

/-- Laid out from another number on, an outline has the same leaves with the numbers of their owners
counted from there. -/
theorem laidLeaves_moved (first : Nat) : ∀ (outline : Outline) (id : Nat),
    outline.laidLeaves (first + id) = (outline.laidLeaves id).map (Leaf.moved first)
  | ⟨kind, args, body, comment⟩, id => by
    have inArgs := laidArgLeaves_moved first id args (id + 1)
    have inBody := laidBodyLeaves_moved first body (id + 1 + argsNodeCount args)
    -- As for the nodes: the numbers are the same, grouped in another way.
    simp only [← Nat.add_assoc] at inArgs inBody
    rw [laidLeaves, laidLeaves, List.map_append, ← inArgs, ← inBody]

theorem laidArgLeaves_moved (first owner : Nat) :
    ∀ (args : List (String × Arg Outline Value)) (id : Nat),
      laidArgLeaves (first + owner) (first + id) args =
        (laidArgLeaves owner id args).map (Leaf.moved first)
  | [], _ => rfl
  | (key, .node outline) :: rest, id => by
    have here := laidLeaves_moved first outline id
    have later := laidArgLeaves_moved first owner rest (id + outline.nodeCount)
    rw [laidArgLeaves, laidArgLeaves, List.map_append, ← here, ← later, Nat.add_assoc]
  | (key, .leaf value) :: rest, id => by
    rw [laidArgLeaves, laidArgLeaves, List.map_cons, laidArgLeaves_moved first owner rest id]
    rfl
  | (key, .malformed raw) :: rest, id => by
    rw [laidArgLeaves, laidArgLeaves, laidArgLeaves_moved first owner rest id]

theorem laidBodyLeaves_moved (first : Nat) : ∀ (body : List Outline) (id : Nat),
    laidBodyLeaves (first + id) body = (laidBodyLeaves id body).map (Leaf.moved first)
  | [], _ => rfl
  | outline :: rest, id => by
    have here := laidLeaves_moved first outline id
    have later := laidBodyLeaves_moved first rest (id + outline.nodeCount)
    rw [laidBodyLeaves, laidBodyLeaves, List.map_append, ← here, ← later, Nat.add_assoc]

end

/-! ## The embedding of a part -/

section Placed

variable {tree : Tree} {above : Option Nat} {first leaf : Nat} {part : Outline}

/-- Where a part is placed, a tree stores what the tree of the part stores, with other numbers. -/
theorem Placed.node_moved (h : tree.Placed above first leaf part) (i : (ofOutline part).NodeAt) :
    tree.nodes[first + i.id]? = some (i.stored.moved above first leaf) := by
  have moved : part.laidNodes above first leaf =
      (part.laidNodes none 0 0).map (Node.moved above first leaf) :=
    laidNodes_moved above first leaf none part 0 0
  have inRange : i.id < (part.laidNodes above first leaf).length := by
    rw [moved, List.length_map]
    exact i.isLt
  have own : (part.laidNodes none 0 0)[i.id]? = some i.stored := by
    rw [← List.getElem?_toArray]
    exact i.getElem?_id
  rw [h.nodes i.id inRange, moved, List.getElem?_map, own, Option.map_some]

/-- So it does with leaves. -/
theorem Placed.leaf_moved (h : tree.Placed above first leaf part) (i : (ofOutline part).LeafAt) :
    tree.leaves[leaf + i.id]? = some (i.stored.moved first) := by
  have moved : part.laidLeaves first = (part.laidLeaves 0).map (Leaf.moved first) :=
    laidLeaves_moved first part 0
  have inRange : i.id < (part.laidLeaves first).length := by
    rw [moved, List.length_map]
    exact i.isLt
  have own : (part.laidLeaves 0)[i.id]? = some i.stored := by
    rw [← List.getElem?_toArray]
    exact i.getElem?_id
  rw [h.leaves i.id inRange, moved, List.getElem?_map, own, Option.map_some]

/-- The node of the tree of a part, where the part is placed. -/
def Placed.nodeAt (h : tree.Placed above first leaf part) (i : (ofOutline part).NodeAt) :
    tree.NodeAt :=
  ⟨first + i.id, (Array.getElem?_eq_some_iff.1 (h.node_moved i)).1⟩

/-- The leaf of the tree of a part, where the part is placed. -/
def Placed.leafAt (h : tree.Placed above first leaf part) (i : (ofOutline part).LeafAt) :
    tree.LeafAt :=
  ⟨leaf + i.id, (Array.getElem?_eq_some_iff.1 (h.leaf_moved i)).1⟩

theorem Placed.stored_node (h : tree.Placed above first leaf part) (i : (ofOutline part).NodeAt) :
    (h.nodeAt i).stored = i.stored.moved above first leaf :=
  Option.some.inj ((h.nodeAt i).getElem?_id.symm.trans (h.node_moved i))

theorem Placed.stored_leaf (h : tree.Placed above first leaf part) (i : (ofOutline part).LeafAt) :
    (h.leafAt i).stored = i.stored.moved first :=
  Option.some.inj ((h.leafAt i).getElem?_id.symm.trans (h.leaf_moved i))

theorem Placed.args_node (h : tree.Placed above first leaf part) (i : (ofOutline part).NodeAt) :
    (h.nodeAt i).args = i.args.map fun entry => (entry.1, entry.2.map h.nodeAt h.leafAt) := by
  have injective : Function.Injective fun entry : String × tree.ArgAt =>
      (entry.1, numberArg entry.2) := by
    rintro ⟨key, arg⟩ ⟨other, held⟩ same
    obtain ⟨keys, numbers⟩ := Prod.mk.inj same
    exact Prod.ext keys (numberArg_injective numbers)
  -- The numbers that are stored say which positions stand on both sides.
  apply List.map_injective_iff.2 injective
  rw [NodeAt.map_numberArg_args, h.stored_node, Node.moved, ← NodeAt.map_numberArg_args,
    List.map_map, List.map_map]
  apply List.map_congr_left
  rintro ⟨key, arg⟩ _
  cases arg <;> rfl

theorem Placed.body_node (h : tree.Placed above first leaf part) (i : (ofOutline part).NodeAt) :
    (h.nodeAt i).body = i.body.map h.nodeAt := by
  apply List.map_injective_iff.2 NodeAt.id_injective
  rw [NodeAt.map_id_body, h.stored_node, Node.moved, ← NodeAt.map_id_body, List.map_map,
    List.map_map]
  rfl

theorem Placed.map_id_parent_node (h : tree.Placed above first leaf part)
    (i : (ofOutline part).NodeAt) :
    (h.nodeAt i).parent.map NodeAt.id = ((i.parent.map h.nodeAt).map NodeAt.id).or above := by
  rw [NodeAt.map_id_parent, h.stored_node, Node.moved, ← NodeAt.map_id_parent, Option.map_map,
    Option.map_map]
  rfl

theorem Placed.parent_node (h : tree.Placed above first leaf part) (i : (ofOutline part).NodeAt) :
    (h.nodeAt i).parent = (i.parent.map h.nodeAt).or (h.nodeAt (ofOutline part).root).parent := by
  -- The root has no parent in its own tree: its parent is what the part is placed below.
  have top := h.map_id_parent_node (ofOutline part).root
  rw [parent_root, Option.map_none, Option.map_none, Option.none_or] at top
  apply Option.map_injective NodeAt.id_injective
  rw [h.map_id_parent_node, Option.map_or, top]

/-- A tree in which a part is placed embeds the tree of the part. -/
def Placed.embedding (h : tree.Placed above first leaf part) : Embedding (ofOutline part) tree where
  node := h.nodeAt
  leaf := h.leafAt
  kind_node i := by rw [NodeAt.kind, h.stored_node, Node.moved]; rfl
  args_node := h.args_node
  body_node := h.body_node
  parent_node := h.parent_node
  key_leaf i := by rw [LeafAt.key, h.stored_leaf, Leaf.moved]; rfl
  value_leaf i := by rw [LeafAt.value, h.stored_leaf, Leaf.moved]; rfl
  owner_leaf i := NodeAt.ext (congrArg Leaf.owner (h.stored_leaf i))

end Placed

end Tree

open SequenceCheck.Tree

namespace Outline.Within

variable {part whole : Outline} {first : Nat}

/-- The tree of an outline embeds the tree of a part of it, with numbers counted from that of the
part. -/
theorem exists_embedding (within : part.Within whole first) :
    ∃ e : Embedding (ofOutline part) (ofOutline whole), ∀ i, (e.node i).id = first + i.id := by
  obtain ⟨above, leaf, placed⟩ := Placed.within within (placed_ofOutline whole)
  rw [Nat.zero_add] at placed
  exact ⟨placed.embedding, fun _ => rfl⟩

theorem add_id_lt (within : part.Within whole first) (i : (ofOutline part).NodeAt) :
    first + i.id < (ofOutline whole).nodes.size := by
  obtain ⟨e, number⟩ := within.exists_embedding
  rw [← number i]
  exact (e.node i).isLt

/-- A node of the tree of a part, in the tree of the whole. -/
def node (within : part.Within whole first) (i : (ofOutline part).NodeAt) :
    (ofOutline whole).NodeAt :=
  ⟨first + i.id, within.add_id_lt i⟩

/-- The embedding of a part takes its nodes where the part has them. -/
theorem exists_embedding_node (within : part.Within whole first) :
    ∃ e : Embedding (ofOutline part) (ofOutline whole), ∀ i, e.node i = within.node i := by
  obtain ⟨e, number⟩ := within.exists_embedding
  exact ⟨e, fun i => NodeAt.ext (number i)⟩

end Outline.Within

end SequenceCheck
