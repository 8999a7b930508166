import SequenceCheck.Proofs.Tree.Numbering
import SequenceCheck.Proofs.Tree.SameLayout

/-!
# Comments

`outline.comments` lists the comments of an outline in the order of its nodes, and
`outline.uncommented` is the outline without them. Two trees are the same but for comments
(`Tree.SameButComments`) if they store the same under every number, comments left out.

Main statements: the nodes of the tree of an outline have the comments of the outline, in order
(`map_comment_allNodes`), and outlines that are the same without their comments have trees that are
the same but for comments (`sameButComments_of_uncommented_eq`).
-/

set_option autoImplicit false

namespace SequenceCheck

namespace Outline

/-- An outline without its comments. -/
def uncommented (outline : Outline) : Outline :=
  outline.rewritten (fun _ value => value) fun _ => none

mutual

/-- The comments of the nodes of an outline: that of the root, then those of the nodes in its
arguments and in its body. -/
def comments : Outline → List (Option String)
  | ⟨_, args, body, comment⟩ => comment :: (argsComments args ++ bodyComments body)

/-- The comments of the nodes in arguments. -/
def argsComments : List (String × Arg Outline Value) → List (Option String)
  | [] => []
  | (_, .node outline) :: rest => outline.comments ++ argsComments rest
  | (_, .leaf _) :: rest => argsComments rest
  | (_, .malformed _) :: rest => argsComments rest

/-- The comments of the nodes in a body. -/
def bodyComments : List Outline → List (Option String)
  | [] => []
  | outline :: rest => outline.comments ++ bodyComments rest

end

mutual

/-- A layout stores the comments of the outline in order. -/
theorem map_comment_laidNodes (parent : Option Nat) (id leaf : Nat) : ∀ outline : Outline,
    (outline.laidNodes parent id leaf).map Tree.Node.comment = outline.comments
  | ⟨_, args, body, _⟩ => by
    rw [laidNodes, comments, List.map_cons, List.map_append, map_comment_laidArgs _ _ _ args,
      map_comment_laidBody _ _ _ body]

theorem map_comment_laidArgs (owner id leaf : Nat) :
    ∀ args : List (String × Arg Outline Value),
      (laidArgs owner id leaf args).map Tree.Node.comment = argsComments args
  | [] => rfl
  | (_, .node outline) :: rest => by
    rw [laidArgs, argsComments, List.map_append, map_comment_laidNodes _ _ _ outline,
      map_comment_laidArgs _ _ _ rest]
  | (_, .leaf _) :: rest => map_comment_laidArgs owner id (leaf + 1) rest
  | (_, .malformed _) :: rest => map_comment_laidArgs owner id leaf rest

theorem map_comment_laidBody (owner id leaf : Nat) : ∀ body : List Outline,
    (laidBody owner id leaf body).map Tree.Node.comment = bodyComments body
  | [] => rfl
  | outline :: rest => by
    rw [laidBody, bodyComments, List.map_append, map_comment_laidNodes _ _ _ outline,
      map_comment_laidBody _ _ _ rest]

end

end Outline

namespace Tree

/-- The nodes of the tree of an outline have the comments of the outline, in order. -/
theorem map_comment_allNodes (outline : Outline) :
    (ofOutline outline).allNodes.map NodeAt.comment = outline.comments := by
  have stored : (ofOutline outline).allNodes.map NodeAt.comment =
      (ofOutline outline).nodes.toList.map Node.comment := by
    rw [← map_stored_allNodes, List.map_map]
    rfl
  rw [stored]
  exact outline.map_comment_laidNodes none 0 0

/-- Two trees store the same nodes but for their comments, and the same leaves. -/
structure SameButComments (one other : Tree) : Prop where
  nodes : one.nodes.map Node.uncommented = other.nodes.map Node.uncommented
  leaves : one.leaves = other.leaves

theorem Leaf.revalued_self : Leaf.revalued (fun _ value => value) = id :=
  rfl

/-- Trees that are the same but for comments are of one layout, with the same values. -/
theorem SameButComments.sameLayout {one other : Tree} (same : one.SameButComments other) :
    SameLayout (fun _ value => value) one other where
  nodes := same.nodes
  leaves := by
    rw [same.leaves, Leaf.revalued_self, Array.map_id]

/-- Outlines that are the same without their comments have trees that are the same but for
comments. -/
theorem sameButComments_of_uncommented_eq {a b : Outline} (same : a.uncommented = b.uncommented) :
    (ofOutline a).SameButComments (ofOutline b) := by
  -- Both trees are of the layout of the tree without comments.
  have layout : SameLayout (fun _ value => value) (ofOutline a) (ofOutline a.uncommented) :=
    sameLayout_rewritten _ _ a
  have layoutOther : SameLayout (fun _ value => value) (ofOutline b) (ofOutline b.uncommented) :=
    sameLayout_rewritten _ _ b
  rw [same] at layout
  have leaves := layout.leaves.symm.trans layoutOther.leaves
  rw [Leaf.revalued_self, Array.map_id, Array.map_id] at leaves
  exact ⟨layout.nodes.trans layoutOther.nodes.symm, leaves⟩

end Tree

end SequenceCheck
