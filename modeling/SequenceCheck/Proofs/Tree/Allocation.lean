import SequenceCheck.Tree.OfOutline

/-!
# Allocating a tree node by node

An arena holds the nodes and leaves that have been allocated so far, and grows at its two ends. A
node is allocated before anything below it is: an unfinished node, without arguments and body, takes
its place, then the arguments and the body are allocated in order, and at last the unfinished node
is filled in with the handles of what has been allocated. A handle is the number of a place as 32
bits hold it.

Main statements: as long as 32 bits are enough to number all places, what is allocated for an
outline is the layout of the outline (`allocate_eq`), and so an arena that was empty holds the tree
of the outline afterwards (`allocate_empty`).
-/

set_option autoImplicit false

namespace SequenceCheck.Tree

open Outline

/-- The nodes and leaves that have been allocated so far. -/
structure Arena where
  nodes : Array Node
  leaves : Array Leaf

namespace Arena

/-- The arena in which nothing has been allocated. -/
def empty : Arena :=
  ⟨#[], #[]⟩

/-- The handle of the place that follows `taken` others. -/
def handle (taken : Nat) : Nat :=
  taken.toUInt32.toNat

/-- Take the next place for a node. -/
def pushNode (node : Node) : StateM Arena Nat := fun arena =>
  (handle arena.nodes.size, { arena with nodes := arena.nodes.push node })

/-- Take the next place for a leaf. -/
def pushLeaf (leaf : Leaf) : StateM Arena Nat := fun arena =>
  (handle arena.leaves.size, { arena with leaves := arena.leaves.push leaf })

/-- Give a node its arguments and its body. -/
def fill (id : Nat) (args : List (String × Arg Nat Nat)) (body : List Nat) : StateM Arena Unit :=
  fun arena => ((), { arena with nodes := arena.nodes.modify id ({ · with args, body }) })

mutual

/-- Allocate an outline, and answer with the handle of its root. -/
def allocate (parent : Option Nat) : Outline → StateM Arena Nat
  | ⟨kind, args, body, comment⟩ => do
    let id ← pushNode { kind, args := [], body := [], parent, comment }
    let numbered ← allocateArgs id args
    let children ← allocateBody id body
    fill id numbered children
    return id

/-- Allocate the arguments of node `owner`, and answer with the handles under their keys. -/
def allocateArgs (owner : Nat) :
    List (String × Arg Outline Value) → StateM Arena (List (String × Arg Nat Nat))
  | [] => return []
  | (key, .node outline) :: rest => do
    let id ← allocate (some owner) outline
    let others ← allocateArgs owner rest
    return (key, .node id) :: others
  | (key, .leaf value) :: rest => do
    let id ← pushLeaf ⟨key, value, owner⟩
    let others ← allocateArgs owner rest
    return (key, .leaf id) :: others
  | (key, .malformed raw) :: rest => do
    let others ← allocateArgs owner rest
    return (key, .malformed raw) :: others

/-- Allocate the body of node `owner`, and answer with the handles of the children. -/
def allocateBody (owner : Nat) : List Outline → StateM Arena (List Nat)
  | [] => return []
  | outline :: rest => do
    let id ← allocate (some owner) outline
    let others ← allocateBody owner rest
    return id :: others

end

/-! ## Room for handles -/

/-- There are handles for so many more nodes and leaves. -/
structure HasRoom (arena : Arena) (nodes leaves : Nat) : Prop where
  nodes : arena.nodes.size + nodes ≤ UInt32.size
  leaves : arena.leaves.size + leaves ≤ UInt32.size

/-- The handle of a place that 32 bits can number is the number. -/
theorem handle_eq {taken : Nat} (inRange : taken < UInt32.size) : handle taken = taken :=
  UInt32.toNat_ofNat_of_lt inRange

/-- An arena with further nodes and leaves at its ends. -/
def extend (arena : Arena) (nodes : List Node) (leaves : List Leaf) : Arena :=
  ⟨arena.nodes ++ nodes.toArray, arena.leaves ++ leaves.toArray⟩

section Extend

variable (arena : Arena) (nodes : List Node) (leaves : List Leaf)

@[simp]
theorem size_nodes_extend : (arena.extend nodes leaves).nodes.size =
    arena.nodes.size + nodes.length := by
  simp [extend]

@[simp]
theorem size_leaves_extend : (arena.extend nodes leaves).leaves.size =
    arena.leaves.size + leaves.length := by
  simp [extend]

@[simp]
theorem extend_nil : arena.extend [] [] = arena := by
  simp [extend]

/-- Two extensions are one. -/
@[simp]
theorem extend_extend (moreNodes : List Node) (moreLeaves : List Leaf) :
    (arena.extend nodes leaves).extend moreNodes moreLeaves =
      arena.extend (nodes ++ moreNodes) (leaves ++ moreLeaves) := by
  simp [extend]

/-- Taking the next place for a node extends the arena by it. -/
theorem pushNode_eq (node : Node) (room : arena.nodes.size < UInt32.size) :
    pushNode node arena = (arena.nodes.size, arena.extend [node] []) := by
  rw [pushNode, handle_eq room]
  simp [extend]

/-- Taking the next place for a leaf extends the arena by it. -/
theorem pushLeaf_eq (leaf : Leaf) (room : arena.leaves.size < UInt32.size) :
    pushLeaf leaf arena = (arena.leaves.size, arena.extend [] [leaf]) := by
  rw [pushLeaf, handle_eq room]
  simp [extend]

/-- What is filled in is the first node of the extension, if its handle is used. -/
theorem fill_extend (node : Node) (args : List (String × Arg Nat Nat)) (body : List Nat) :
    fill arena.nodes.size args body (arena.extend (node :: nodes) leaves) =
      ((), arena.extend ({ node with args, body } :: nodes) leaves) := by
  have filled : (arena.nodes ++ (node :: nodes).toArray).modify arena.nodes.size
      ({ · with args, body }) = arena.nodes ++ ({ node with args, body } :: nodes).toArray := by
    apply Array.ext'
    rw [Array.toList_modify, Array.toList_append, Array.toList_append]
    exact List.modifyTailIdx_add (List.modifyHead _) 0 arena.nodes.toList (node :: nodes)
  rw [fill]
  simp only [extend, filled]

end Extend

/-- The steps of an allocation follow one another. -/
theorem bind_apply {α β : Type} (step : StateM Arena α) (next : α → StateM Arena β)
    (arena : Arena) : (step >>= next) arena = next (step arena).1 (step arena).2 :=
  rfl

theorem pure_apply {α : Type} (answer : α) (arena : Arena) :
    (pure answer : StateM Arena α) arena = (answer, arena) :=
  rfl

/-! ## What is allocated is the layout -/

mutual

/-- Allocating an outline extends an arena with room for it by the layout of the outline. -/
theorem allocate_eq (parent : Option Nat) (arena : Arena) :
    ∀ outline : Outline, arena.HasRoom outline.nodeCount outline.leafCount →
      allocate parent outline arena =
        (arena.nodes.size, arena.extend
          (outline.laidNodes parent arena.nodes.size arena.leaves.size)
          (outline.laidLeaves arena.nodes.size))
  | ⟨kind, args, body, comment⟩, room => by
    have enough := room.nodes
    have enoughLeaves := room.leaves
    simp only [Outline.nodeCount, Outline.leafCount] at enough enoughLeaves
    -- The unfinished root is the only thing between the arena and what is below the root.
    rw [allocate, bind_apply, pushNode_eq _ _ (by omega), bind_apply,
      allocateArgs_eq _ _ args ⟨by simp; omega, by simp; omega⟩, bind_apply,
      allocateBody_eq _ _ body ⟨by simp; omega, by simp; omega⟩, bind_apply]
    simp [fill_extend, pure_apply, laidNodes, laidLeaves, Nat.add_assoc, Nat.add_comm 1]

/-- Allocating arguments extends an arena by their layout, and numbers them as the layout does. -/
theorem allocateArgs_eq (owner : Nat) (arena : Arena) :
    ∀ args : List (String × Arg Outline Value),
      arena.HasRoom (argsNodeCount args) (argsLeafCount args) →
      allocateArgs owner args arena =
        (numberedArgs arena.nodes.size arena.leaves.size args, arena.extend
          (laidArgs owner arena.nodes.size arena.leaves.size args)
          (laidArgLeaves owner arena.nodes.size args))
  | [], _ => by
    rw [allocateArgs, pure_apply, numberedArgs, laidArgs, laidArgLeaves, extend_nil]
  | (key, .node outline) :: rest, room => by
    have enough := room.nodes
    have enoughLeaves := room.leaves
    simp only [argsNodeCount, argsLeafCount] at enough enoughLeaves
    rw [allocateArgs, bind_apply, allocate_eq _ _ outline ⟨by omega, by omega⟩, bind_apply,
      allocateArgs_eq _ _ rest ⟨by simp; omega, by simp; omega⟩, pure_apply]
    simp [numberedArgs, laidArgs, laidArgLeaves]
  | (key, .leaf value) :: rest, room => by
    have enough := room.nodes
    have enoughLeaves := room.leaves
    simp only [argsNodeCount, argsLeafCount] at enough enoughLeaves
    rw [allocateArgs, bind_apply, pushLeaf_eq _ _ (by omega), bind_apply,
      allocateArgs_eq _ _ rest ⟨by simp; omega, by simp; omega⟩, pure_apply]
    simp [numberedArgs, laidArgs, laidArgLeaves]
  | (key, .malformed raw) :: rest, room => by
    rw [allocateArgs, bind_apply, allocateArgs_eq _ _ rest room, pure_apply]
    simp only [numberedArgs, laidArgs, laidArgLeaves]

/-- Allocating a body extends an arena by its layout, and numbers the children as the layout
does. -/
theorem allocateBody_eq (owner : Nat) (arena : Arena) :
    ∀ body : List Outline, arena.HasRoom (bodyNodeCount body) (bodyLeafCount body) →
      allocateBody owner body arena =
        (numberedBody arena.nodes.size body, arena.extend
          (laidBody owner arena.nodes.size arena.leaves.size body)
          (laidBodyLeaves arena.nodes.size body))
  | [], _ => by
    rw [allocateBody, pure_apply, numberedBody, laidBody, laidBodyLeaves, extend_nil]
  | outline :: rest, room => by
    have enough := room.nodes
    have enoughLeaves := room.leaves
    simp only [bodyNodeCount, bodyLeafCount] at enough enoughLeaves
    rw [allocateBody, bind_apply, allocate_eq _ _ outline ⟨by omega, by omega⟩, bind_apply,
      allocateBody_eq _ _ rest ⟨by simp; omega, by simp; omega⟩, pure_apply]
    simp [numberedBody, laidBody, laidBodyLeaves]

end

/-- An arena that was empty holds the tree of an outline once the outline is allocated, unless there
are too many nodes or leaves for handles. -/
theorem allocate_empty (outline : Outline) (nodes : outline.nodeCount < UInt32.size)
    (leaves : outline.leafCount < UInt32.size) :
    allocate none outline empty = (0, ⟨(ofOutline outline).nodes, (ofOutline outline).leaves⟩) := by
  have room : empty.HasRoom outline.nodeCount outline.leafCount := by
    constructor
    · simp only [empty, List.size_toArray, List.length_nil]
      omega
    · simp only [empty, List.size_toArray, List.length_nil]
      omega
  rw [allocate_eq none empty outline room]
  simp [empty, extend, ofOutline]

end Arena

end SequenceCheck.Tree
