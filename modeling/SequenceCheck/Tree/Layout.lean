import SequenceCheck.Tree.Basic

/-!
# Laying out a tree

A layout numbers the nodes and leaves of an outline. A node comes before everything below it,
and what is below it comes in order: the argument nodes with all that is below them, then the body
children likewise. Leaves are numbered in the order in which this walk meets them. So everything
below a node has the numbers that follow the node's own, without a gap.

The layout is computed from the sizes of outlines: `nodeCount` and `leafCount` say how many numbers
an outline takes, so the numbers of each part are known before the part is laid out. The layout has
exactly that size (`length_laidNodes`, `length_laidLeaves`).
-/

set_option autoImplicit false

namespace SequenceCheck

namespace Outline

mutual

/-- The number of nodes of an outline. -/
def nodeCount : Outline → Nat
  | ⟨_, args, body, _⟩ => 1 + argsNodeCount args + bodyNodeCount body

/-- The number of nodes in arguments. -/
def argsNodeCount : List (String × Arg Outline Value) → Nat
  | [] => 0
  | (_, .node outline) :: rest => outline.nodeCount + argsNodeCount rest
  | (_, .leaf _) :: rest => argsNodeCount rest
  | (_, .malformed _) :: rest => argsNodeCount rest

/-- The number of nodes in a body. -/
def bodyNodeCount : List Outline → Nat
  | [] => 0
  | outline :: rest => outline.nodeCount + bodyNodeCount rest

end

mutual

/-- The number of leaves of an outline. -/
def leafCount : Outline → Nat
  | ⟨_, args, body, _⟩ => argsLeafCount args + bodyLeafCount body

/-- The number of leaves in arguments. -/
def argsLeafCount : List (String × Arg Outline Value) → Nat
  | [] => 0
  | (_, .node outline) :: rest => outline.leafCount + argsLeafCount rest
  | (_, .leaf _) :: rest => 1 + argsLeafCount rest
  | (_, .malformed _) :: rest => argsLeafCount rest

/-- The number of leaves in a body. -/
def bodyLeafCount : List Outline → Nat
  | [] => 0
  | outline :: rest => outline.leafCount + bodyLeafCount rest

end

/-- An outline has its root at least. -/
theorem nodeCount_pos (outline : Outline) : 0 < outline.nodeCount := by
  cases outline
  simp only [nodeCount]
  omega

/-- Arguments with numbers for their nodes and leaves, the next free numbers being given. -/
def numberedArgs (id leaf : Nat) :
    List (String × Arg Outline Value) → List (String × Arg Nat Nat)
  | [] => []
  | (key, .node outline) :: rest =>
    (key, .node id) :: numberedArgs (id + outline.nodeCount) (leaf + outline.leafCount) rest
  | (key, .leaf _) :: rest => (key, .leaf leaf) :: numberedArgs id (leaf + 1) rest
  | (key, .malformed raw) :: rest => (key, .malformed raw) :: numberedArgs id leaf rest

/-- The numbers of the children of a body, the next free number being given. -/
def numberedBody (id : Nat) : List Outline → List Nat
  | [] => []
  | outline :: rest => id :: numberedBody (id + outline.nodeCount) rest

mutual

/-- The nodes of an outline in the order of their numbers. The root has number `id`, and the leaves
are numbered from `leaf` on. -/
def laidNodes (parent : Option Nat) (id leaf : Nat) : Outline → List Tree.Node
  | ⟨kind, args, body, comment⟩ =>
    { kind
      args := numberedArgs (id + 1) leaf args
      body := numberedBody (id + 1 + argsNodeCount args) body
      parent
      comment } ::
      (laidArgs id (id + 1) leaf args ++
        laidBody id (id + 1 + argsNodeCount args) (leaf + argsLeafCount args) body)

/-- The nodes in the arguments of node `owner`. -/
def laidArgs (owner id leaf : Nat) :
    List (String × Arg Outline Value) → List Tree.Node
  | [] => []
  | (_, .node outline) :: rest =>
    outline.laidNodes (some owner) id leaf ++
      laidArgs owner (id + outline.nodeCount) (leaf + outline.leafCount) rest
  | (_, .leaf _) :: rest => laidArgs owner id (leaf + 1) rest
  | (_, .malformed _) :: rest => laidArgs owner id leaf rest

/-- The nodes in the body of node `owner`. -/
def laidBody (owner id leaf : Nat) : List Outline → List Tree.Node
  | [] => []
  | outline :: rest =>
    outline.laidNodes (some owner) id leaf ++
      laidBody owner (id + outline.nodeCount) (leaf + outline.leafCount) rest

end

mutual

/-- The leaves of an outline in the order of their numbers. The root has number `id`. -/
def laidLeaves (id : Nat) : Outline → List Tree.Leaf
  | ⟨_, args, body, _⟩ =>
    laidArgLeaves id (id + 1) args ++ laidBodyLeaves (id + 1 + argsNodeCount args) body

/-- The leaves in the arguments of node `owner`, whose first node has number `id`. -/
def laidArgLeaves (owner id : Nat) : List (String × Arg Outline Value) → List Tree.Leaf
  | [] => []
  | (_, .node outline) :: rest =>
    outline.laidLeaves id ++ laidArgLeaves owner (id + outline.nodeCount) rest
  | (key, .leaf value) :: rest => ⟨key, value, owner⟩ :: laidArgLeaves owner id rest
  | (_, .malformed _) :: rest => laidArgLeaves owner id rest

/-- The leaves in a body whose first node has number `id`. -/
def laidBodyLeaves (id : Nat) : List Outline → List Tree.Leaf
  | [] => []
  | outline :: rest => outline.laidLeaves id ++ laidBodyLeaves (id + outline.nodeCount) rest

end

/-! ## The layout has the size that was counted -/

mutual

@[simp]
theorem length_laidNodes (parent : Option Nat) (id leaf : Nat) :
    ∀ outline : Outline, (outline.laidNodes parent id leaf).length = outline.nodeCount
  | ⟨_, args, body, _⟩ => by
    simp only [laidNodes, nodeCount, List.length_cons, List.length_append, length_laidArgs,
      length_laidBody]
    omega

@[simp]
theorem length_laidArgs (owner id leaf : Nat) :
    ∀ args : List (String × Arg Outline Value),
      (laidArgs owner id leaf args).length = argsNodeCount args
  | [] => rfl
  | (_, .node outline) :: rest => by
    simp only [laidArgs, argsNodeCount, List.length_append, length_laidNodes, length_laidArgs]
  | (_, .leaf _) :: rest => by simp only [laidArgs, argsNodeCount, length_laidArgs]
  | (_, .malformed _) :: rest => by simp only [laidArgs, argsNodeCount, length_laidArgs]

@[simp]
theorem length_laidBody (owner id leaf : Nat) :
    ∀ body : List Outline, (laidBody owner id leaf body).length = bodyNodeCount body
  | [] => rfl
  | outline :: rest => by
    simp only [laidBody, bodyNodeCount, List.length_append, length_laidNodes, length_laidBody]

end

mutual

@[simp]
theorem length_laidLeaves (id : Nat) :
    ∀ outline : Outline, (outline.laidLeaves id).length = outline.leafCount
  | ⟨_, args, body, _⟩ => by
    simp only [laidLeaves, leafCount, List.length_append, length_laidArgLeaves,
      length_laidBodyLeaves]

@[simp]
theorem length_laidArgLeaves (owner id : Nat) :
    ∀ args : List (String × Arg Outline Value),
      (laidArgLeaves owner id args).length = argsLeafCount args
  | [] => rfl
  | (_, .node outline) :: rest => by
    simp only [laidArgLeaves, argsLeafCount, List.length_append, length_laidLeaves,
      length_laidArgLeaves]
  | (_, .leaf _) :: rest => by
    simp only [laidArgLeaves, argsLeafCount, List.length_cons, length_laidArgLeaves]
    omega
  | (_, .malformed _) :: rest => by simp only [laidArgLeaves, argsLeafCount, length_laidArgLeaves]

@[simp]
theorem length_laidBodyLeaves (id : Nat) :
    ∀ body : List Outline, (laidBodyLeaves id body).length = bodyLeafCount body
  | [] => rfl
  | outline :: rest => by
    simp only [laidBodyLeaves, bodyLeafCount, List.length_append, length_laidLeaves,
      length_laidBodyLeaves]

end

end Outline

end SequenceCheck
