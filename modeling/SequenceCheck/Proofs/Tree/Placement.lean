import SequenceCheck.Tree.OfOutline

/-!
# Outlines placed in a tree

`tree.Placed parent id leaf outline` says that the layout of an outline stands in the arrays of a
tree from node `id` and leaf `leaf` on. The tree of an outline has the outline placed at its root
(`placed_ofOutline`). Where an outline is placed, its root is stored (`Placed.stored`), and its
arguments and its body are placed after it, one part after the other (`Placed.args`, `Placed.body`).
-/

set_option autoImplicit false

namespace SequenceCheck

/-- The entries of an array from a place on begin with those of a list. -/
def PartAt {α : Type} (part : List α) (first : Nat) (whole : Array α) : Prop :=
  ∀ i, i < part.length → whole[first + i]? = part[i]?

namespace PartAt

variable {α : Type} {a : α} {part other : List α} {first : Nat} {whole : Array α}

theorem head (h : PartAt (a :: part) first whole) : whole[first]? = some a :=
  h 0 (Nat.succ_pos _)

theorem tail (h : PartAt (a :: part) first whole) : PartAt part (first + 1) whole := by
  intro i hi
  rw [show first + 1 + i = first + (i + 1) by omega]
  exact h (i + 1) (Nat.succ_lt_succ hi)

theorem left (h : PartAt (part ++ other) first whole) : PartAt part first whole := by
  intro i hi
  rw [h i (by rw [List.length_append]; omega), List.getElem?_append_left hi]

theorem right (h : PartAt (part ++ other) first whole) :
    PartAt other (first + part.length) whole := by
  intro i hi
  rw [Nat.add_assoc, h (part.length + i) (by rw [List.length_append]; omega),
    List.getElem?_append_right (Nat.le_add_right _ _), Nat.add_sub_cancel_left]

theorem of_toArray (part : List α) : PartAt part 0 part.toArray := by
  intro i _
  rw [Nat.zero_add, List.getElem?_toArray]

end PartAt

namespace Tree

open Outline

/-! ## Layouts within a tree -/

/-- The layout of an outline stands in a tree, from node `id` and leaf `leaf` on. -/
structure Placed (tree : Tree) (parent : Option Nat) (id leaf : Nat) (outline : Outline) :
    Prop where
  nodes : PartAt (outline.laidNodes parent id leaf) id tree.nodes
  leaves : PartAt (outline.laidLeaves id) leaf tree.leaves

/-- The layout of some arguments of node `owner` stands in a tree. -/
structure PlacedArgs (tree : Tree) (owner id leaf : Nat)
    (args : List (String × Arg Outline Value)) : Prop where
  nodes : PartAt (laidArgs owner id leaf args) id tree.nodes
  leaves : PartAt (laidArgLeaves owner id args) leaf tree.leaves

/-- The layout of a part of the body of node `owner` stands in a tree. -/
structure PlacedBody (tree : Tree) (owner id leaf : Nat) (body : List Outline) : Prop where
  nodes : PartAt (laidBody owner id leaf body) id tree.nodes
  leaves : PartAt (laidBodyLeaves id body) leaf tree.leaves

theorem placed_ofOutline (outline : Outline) : (ofOutline outline).Placed none 0 0 outline where
  nodes := PartAt.of_toArray _
  leaves := PartAt.of_toArray _

variable {tree : Tree} {parent : Option Nat} {owner id leaf : Nat}

/-- What a tree stores where an outline is placed. -/
theorem Placed.stored {outline : Outline} (h : tree.Placed parent id leaf outline) :
    tree.nodes[id]? = some
      { kind := outline.kind
        args := numberedArgs (id + 1) leaf outline.args
        body := numberedBody (id + 1 + argsNodeCount outline.args) outline.body
        parent
        comment := outline.comment } := by
  cases outline
  exact h.nodes.head

/-- The arguments of a placed outline follow its root. -/
theorem Placed.args {outline : Outline} (h : tree.Placed parent id leaf outline) :
    tree.PlacedArgs id (id + 1) leaf outline.args := by
  rcases outline with ⟨kind, args, body, comment⟩
  have nodes := h.nodes
  have leaves := h.leaves
  simp only [laidNodes] at nodes
  simp only [laidLeaves] at leaves
  exact ⟨nodes.tail.left, leaves.left⟩

/-- The body of a placed outline follows its arguments. -/
theorem Placed.body {outline : Outline} (h : tree.Placed parent id leaf outline) :
    tree.PlacedBody id (id + 1 + argsNodeCount outline.args) (leaf + argsLeafCount outline.args)
      outline.body := by
  rcases outline with ⟨kind, args, body, comment⟩
  have nodes := h.nodes
  have leaves := h.leaves
  simp only [laidNodes] at nodes
  simp only [laidLeaves] at leaves
  have bodyNodes := nodes.tail.right
  have bodyLeaves := leaves.right
  rw [length_laidArgs] at bodyNodes
  rw [length_laidArgLeaves] at bodyLeaves
  exact ⟨bodyNodes, bodyLeaves⟩

section

variable {key : String} {rest : List (String × Arg Outline Value)}

theorem PlacedArgs.head_node {outline : Outline}
    (h : tree.PlacedArgs owner id leaf ((key, .node outline) :: rest)) :
    tree.Placed (some owner) id leaf outline :=
  ⟨h.nodes.left, h.leaves.left⟩

theorem PlacedArgs.tail_node {outline : Outline}
    (h : tree.PlacedArgs owner id leaf ((key, .node outline) :: rest)) :
    tree.PlacedArgs owner (id + outline.nodeCount) (leaf + outline.leafCount) rest := by
  have nodes := h.nodes.right
  have leaves := h.leaves.right
  rw [length_laidNodes] at nodes
  rw [length_laidLeaves] at leaves
  exact ⟨nodes, leaves⟩

theorem PlacedArgs.head_leaf {value : Value}
    (h : tree.PlacedArgs owner id leaf ((key, .leaf value) :: rest)) :
    tree.leaves[leaf]? = some ⟨key, value, owner⟩ :=
  h.leaves.head

theorem PlacedArgs.tail_leaf {value : Value}
    (h : tree.PlacedArgs owner id leaf ((key, .leaf value) :: rest)) :
    tree.PlacedArgs owner id (leaf + 1) rest :=
  ⟨h.nodes, h.leaves.tail⟩

theorem PlacedArgs.tail_malformed {raw : Json}
    (h : tree.PlacedArgs owner id leaf ((key, .malformed raw) :: rest)) :
    tree.PlacedArgs owner id leaf rest :=
  ⟨h.nodes, h.leaves⟩

theorem PlacedBody.head {outline : Outline} {others : List Outline}
    (h : tree.PlacedBody owner id leaf (outline :: others)) :
    tree.Placed (some owner) id leaf outline :=
  ⟨h.nodes.left, h.leaves.left⟩

theorem PlacedBody.tail {outline : Outline} {others : List Outline}
    (h : tree.PlacedBody owner id leaf (outline :: others)) :
    tree.PlacedBody owner (id + outline.nodeCount) (leaf + outline.leafCount) others := by
  have nodes := h.nodes.right
  have leaves := h.leaves.right
  rw [length_laidNodes] at nodes
  rw [length_laidLeaves] at leaves
  exact ⟨nodes, leaves⟩

end

end Tree

end SequenceCheck
