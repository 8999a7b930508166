import SequenceCheck.Tree.Layout

/-!
# The tree of an outline

`Tree.ofOutline` is the tree that an outline is laid out as. That it is a tree, with every number in
range, children after their parents and parents before their children, follows from what holds of
every part of a layout: node by node (`inRange_laidNodes`) and leaf by leaf (`owner_laidLeaves`).
-/

set_option autoImplicit false

namespace SequenceCheck

namespace Outline

/-- The children of a body have the numbers of the body's layout. -/
theorem mem_numberedBody {child : Nat} :
    ∀ (id : Nat) (body : List Outline), child ∈ numberedBody id body →
      id ≤ child ∧ child < id + bodyNodeCount body
  | _, [], h => by simp [numberedBody] at h
  | id, outline :: rest, h => by
    have positive := outline.nodeCount_pos
    simp only [numberedBody, List.mem_cons] at h
    simp only [bodyNodeCount]
    rcases h with rfl | later
    · omega
    · have := mem_numberedBody _ rest later
      omega

/-- The nodes among arguments have the numbers of the arguments' layout. -/
theorem node_mem_numberedArgs {child : Nat} :
    ∀ (id leaf : Nat) (args : List (String × Arg Outline Value)),
      child ∈ (numberedArgs id leaf args).filterMap (fun entry => entry.2.node?) →
        id ≤ child ∧ child < id + argsNodeCount args
  | _, _, [], h => by simp [numberedArgs] at h
  | id, leaf, (_, .node outline) :: rest, h => by
    have positive := outline.nodeCount_pos
    simp only [numberedArgs, List.filterMap_cons, Arg.node?, List.mem_cons] at h
    simp only [argsNodeCount]
    rcases h with rfl | later
    · omega
    · have := node_mem_numberedArgs _ _ rest later
      omega
  | id, leaf, (_, .leaf _) :: rest, h => by
    simp only [numberedArgs, List.filterMap_cons, Arg.node?] at h
    exact node_mem_numberedArgs _ _ rest h
  | id, leaf, (_, .malformed _) :: rest, h => by
    simp only [numberedArgs, List.filterMap_cons, Arg.node?] at h
    exact node_mem_numberedArgs _ _ rest h

/-- The leaves among arguments have the numbers of the arguments' layout. -/
theorem leaf_mem_numberedArgs {found : Nat} :
    ∀ (id leaf : Nat) (args : List (String × Arg Outline Value)),
      found ∈ (numberedArgs id leaf args).filterMap (fun entry => entry.2.leaf?) →
        leaf ≤ found ∧ found < leaf + argsLeafCount args
  | _, _, [], h => by simp [numberedArgs] at h
  | id, leaf, (_, .node outline) :: rest, h => by
    simp only [numberedArgs, List.filterMap_cons, Arg.leaf?] at h
    have := leaf_mem_numberedArgs _ _ rest h
    simp only [argsLeafCount]
    omega
  | id, leaf, (_, .leaf _) :: rest, h => by
    simp only [numberedArgs, List.filterMap_cons, Arg.leaf?, List.mem_cons] at h
    simp only [argsLeafCount]
    rcases h with rfl | later
    · omega
    · have := leaf_mem_numberedArgs _ _ rest later
      omega
  | id, leaf, (_, .malformed _) :: rest, h => by
    simp only [numberedArgs, List.filterMap_cons, Arg.leaf?] at h
    exact leaf_mem_numberedArgs _ _ rest h

/-- What holds of node `id` of a part of a tree that has the nodes from `first` to before `last`
below the node `above`, and leaves before `lastLeaf`: the numbers that the node refers to are those
of the part, except that the first nodes of the part have their parent above it. -/
structure InRange (above : Option Nat) (first last : Nat) (lastLeaf : Nat) (id : Nat)
    (node : Tree.Node) : Prop where
  children : ∀ child ∈ node.children, id < child ∧ child < last
  leaves : ∀ leaf ∈ node.leaves, leaf < lastLeaf
  parent : ∀ parent ∈ node.parent, above = some parent ∨ (first ≤ parent ∧ parent < id)

/-- The same holds of a larger part below the same node. -/
theorem InRange.widen {above : Option Nat} {first first' last last' : Nat}
    {lastLeaf lastLeaf' : Nat} {id : Nat} {node : Tree.Node}
    (h : InRange above first last lastLeaf id node) (hfirst : first' ≤ first)
    (hlast : last ≤ last') (hleaf : lastLeaf ≤ lastLeaf') :
    InRange above first' last' lastLeaf' id node where
  children child mem :=
    ⟨(h.children child mem).1, Nat.lt_of_lt_of_le (h.children child mem).2 hlast⟩
  leaves leaf mem := Nat.lt_of_lt_of_le (h.leaves leaf mem) hleaf
  parent parent mem := (h.parent parent mem).imp_right fun both =>
    ⟨Nat.le_trans hfirst both.1, both.2⟩

/-- A part below a node belongs to the part that the node heads. -/
theorem InRange.below {owner first last : Nat} {lastLeaf : Nat} {id : Nat} {node : Tree.Node}
    (above : Option Nat) (h : InRange (some owner) first last lastLeaf id node)
    (hfirst : owner < first) (hid : first ≤ id) : InRange above owner last lastLeaf id node where
  children := h.children
  leaves := h.leaves
  parent parent mem := by
    rcases h.parent parent mem with owned | ⟨low, high⟩
    · rw [Option.some.injEq] at owned
      omega
    · omega

mutual

/-- In the layout of an outline the root has the given parent, and every other number that a node
refers to is one of the layout. -/
theorem inRange_laidNodes {node : Tree.Node} (parent : Option Nat)
    (id leaf : Nat) : ∀ (outline : Outline) (i : Nat),
      (outline.laidNodes parent id leaf)[i]? = some node →
        InRange parent id (id + outline.nodeCount) (leaf + outline.leafCount) (id + i) node
  | ⟨kind, args, body, comment⟩, 0, h => by
    simp only [laidNodes, List.getElem?_cons_zero, Option.some.injEq] at h
    subst h
    refine ⟨fun child mem => ?_, fun found mem => ?_, fun _ mem => .inl mem⟩
    · simp only [nodeCount]
      rcases List.mem_append.1 mem with inArgs | inBody
      · have := node_mem_numberedArgs _ _ args inArgs
        omega
      · have := mem_numberedBody _ body inBody
        omega
    · have := leaf_mem_numberedArgs _ _ args mem
      simp only [leafCount]
      omega
  | ⟨kind, args, body, comment⟩, i + 1, h => by
    simp only [laidNodes, List.getElem?_cons_succ] at h
    simp only [nodeCount, leafCount]
    -- The part that follows the root is the arguments' layout and then the body's.
    rcases Nat.lt_or_ge i (argsNodeCount args) with inArgs | inBody
    · rw [List.getElem?_append_left (by simpa using inArgs)] at h
      have part := (inRange_laidArgs id (id + 1) leaf args i h).below parent
        (Nat.lt_succ_self id) (by omega)
      rw [show id + 1 + i = id + (i + 1) by omega] at part
      exact part.widen (Nat.le_refl _) (by omega) (by omega)
    · rw [List.getElem?_append_right (by simpa using inBody), length_laidArgs] at h
      have part := (inRange_laidBody id (id + 1 + argsNodeCount args) (leaf + argsLeafCount args)
        body (i - argsNodeCount args) h).below parent (by omega) (by omega)
      rw [show id + 1 + argsNodeCount args + (i - argsNodeCount args) = id + (i + 1) by omega]
        at part
      exact part.widen (Nat.le_refl _) (by omega) (by omega)

/-- In the layout of arguments the nodes that stand right under a key have the owner for their
parent. -/
theorem inRange_laidArgs {node : Tree.Node} (owner id leaf : Nat) :
    ∀ (args : List (String × Arg Outline Value)) (i : Nat),
      (laidArgs owner id leaf args)[i]? = some node →
        InRange (some owner) id (id + argsNodeCount args) (leaf + argsLeafCount args) (id + i) node
  | [], i, h => by simp [laidArgs] at h
  | (_, .node outline) :: rest, i, h => by
    simp only [laidArgs] at h
    simp only [argsNodeCount, argsLeafCount]
    rcases Nat.lt_or_ge i outline.nodeCount with here | later
    · rw [List.getElem?_append_left (by simpa using here)] at h
      exact (inRange_laidNodes (some owner) id leaf outline i h).widen (Nat.le_refl _) (by omega)
        (by omega)
    · rw [List.getElem?_append_right (by simpa using later), length_laidNodes] at h
      have part := inRange_laidArgs owner (id + outline.nodeCount) (leaf + outline.leafCount) rest
        (i - outline.nodeCount) h
      rw [show id + outline.nodeCount + (i - outline.nodeCount) = id + i by omega] at part
      exact part.widen (by omega) (by omega) (by omega)
  | (_, .leaf _) :: rest, i, h => by
    simp only [laidArgs] at h
    simp only [argsNodeCount, argsLeafCount]
    exact (inRange_laidArgs owner id (leaf + 1) rest i h).widen (Nat.le_refl _) (by omega)
      (by omega)
  | (_, .malformed _) :: rest, i, h => by
    simp only [laidArgs] at h
    exact inRange_laidArgs owner id leaf rest i h

/-- In the layout of a body the children have the owner for their parent. -/
theorem inRange_laidBody {node : Tree.Node} (owner id leaf : Nat) :
    ∀ (body : List Outline) (i : Nat), (laidBody owner id leaf body)[i]? = some node →
      InRange (some owner) id (id + bodyNodeCount body) (leaf + bodyLeafCount body) (id + i) node
  | [], i, h => by simp [laidBody] at h
  | outline :: rest, i, h => by
    simp only [laidBody] at h
    simp only [bodyNodeCount, bodyLeafCount]
    rcases Nat.lt_or_ge i outline.nodeCount with here | later
    · rw [List.getElem?_append_left (by simpa using here)] at h
      exact (inRange_laidNodes (some owner) id leaf outline i h).widen (Nat.le_refl _) (by omega)
        (by omega)
    · rw [List.getElem?_append_right (by simpa using later), length_laidNodes] at h
      have part := inRange_laidBody owner (id + outline.nodeCount) (leaf + outline.leafCount) rest
        (i - outline.nodeCount) h
      rw [show id + outline.nodeCount + (i - outline.nodeCount) = id + i by omega] at part
      exact part.widen (by omega) (by omega) (by omega)

end

mutual

/-- The owner of a leaf is a node of the same layout. -/
theorem owner_laidLeaves {leaf : Tree.Leaf} (id : Nat) :
    ∀ outline : Outline, leaf ∈ outline.laidLeaves id →
      id ≤ leaf.owner ∧ leaf.owner < id + outline.nodeCount
  | ⟨_, args, body, _⟩, h => by
    simp only [laidLeaves, List.mem_append] at h
    simp only [nodeCount]
    rcases h with inArgs | inBody
    · have := owner_laidArgLeaves id (id + 1) args inArgs
      omega
    · have := owner_laidBodyLeaves (id + 1 + argsNodeCount args) body inBody
      omega

/-- The owner of a leaf in arguments is the owner of the arguments, or a node below it. -/
theorem owner_laidArgLeaves {leaf : Tree.Leaf} (owner id : Nat) :
    ∀ args : List (String × Arg Outline Value), leaf ∈ laidArgLeaves owner id args →
      leaf.owner = owner ∨ (id ≤ leaf.owner ∧ leaf.owner < id + argsNodeCount args)
  | [], h => by simp [laidArgLeaves] at h
  | (_, .node outline) :: rest, h => by
    simp only [laidArgLeaves, List.mem_append] at h
    simp only [argsNodeCount]
    rcases h with here | later
    · have := owner_laidLeaves id outline here
      omega
    · have := owner_laidArgLeaves owner (id + outline.nodeCount) rest later
      omega
  | (_, .leaf _) :: rest, h => by
    simp only [laidArgLeaves, List.mem_cons] at h
    simp only [argsNodeCount]
    rcases h with rfl | later
    · exact .inl rfl
    · exact owner_laidArgLeaves owner id rest later
  | (_, .malformed _) :: rest, h => by
    simp only [laidArgLeaves] at h
    exact owner_laidArgLeaves owner id rest h

/-- The owner of a leaf in a body is a node of the body's layout. -/
theorem owner_laidBodyLeaves {leaf : Tree.Leaf} (id : Nat) :
    ∀ body : List Outline, leaf ∈ laidBodyLeaves id body →
      id ≤ leaf.owner ∧ leaf.owner < id + bodyNodeCount body
  | [], h => by simp [laidBodyLeaves] at h
  | outline :: rest, h => by
    simp only [laidBodyLeaves, List.mem_append] at h
    simp only [bodyNodeCount]
    rcases h with here | later
    · have := owner_laidLeaves id outline here
      omega
    · have := owner_laidBodyLeaves (id + outline.nodeCount) rest later
      omega

end

end Outline

namespace Tree

/-- The tree of an outline. -/
def ofOutline (outline : Outline) : Tree where
  nodes := (outline.laidNodes none 0 0).toArray
  leaves := (outline.laidLeaves 0).toArray
  nonempty := by simpa using outline.nodeCount_pos
  children_inRange {id node} h child mem := by
    have := (outline.inRange_laidNodes none 0 0 id (by simpa using h)).children child mem
    simp only [List.size_toArray, Outline.length_laidNodes]
    omega
  leaves_inRange {id node} h leaf mem := by
    have := (outline.inRange_laidNodes none 0 0 id (by simpa using h)).leaves leaf mem
    simp only [List.size_toArray, Outline.length_laidLeaves]
    omega
  parent_lt {id node} h parent mem := by
    rcases (outline.inRange_laidNodes none 0 0 id (by simpa using h)).parent parent mem with
      above | ⟨_, below⟩
    · simp at above
    · omega
  owner_lt {id leaf} h := by
    have := outline.owner_laidLeaves 0 (List.mem_of_getElem? (by simpa using h))
    simp only [List.size_toArray, Outline.length_laidNodes]
    omega

@[simp]
theorem nodeCount_ofOutline (outline : Outline) :
    (ofOutline outline).nodeCount = outline.nodeCount := by
  simp [nodeCount, ofOutline]

@[simp]
theorem leafCount_ofOutline (outline : Outline) :
    (ofOutline outline).leafCount = outline.leafCount := by
  simp [leafCount, ofOutline]

end Tree

end SequenceCheck
