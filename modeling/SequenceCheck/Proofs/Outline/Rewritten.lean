import SequenceCheck.Tree.OfOutline

/-!
# Outlines with other values and comments

`rewritten` gives each leaf of an outline another value, which may depend on the key of the leaf,
and each node another comment. `relabelled` renames labels: the texts of leaves under the key
`label`, wherever they stand.

Main statements: the layout of a rewritten outline has the same nodes but for their comments
(`laidNodes_rewritten`), and the same leaves but for their values (`laidLeaves_rewritten`).
-/

set_option autoImplicit false

namespace SequenceCheck

namespace Value

/-- A text is renamed, and every other value stays. -/
def respelled (rename : String → String) : Value → Value
  | .string text => .string (rename text)
  | value => value

/-- The value of a label is renamed, and that of every other leaf stays. -/
def relabelled (rename : String → String) (key : String) (value : Value) : Value :=
  if key = "label" then value.respelled rename else value

theorem type_respelled (rename : String → String) (value : Value) :
    (value.respelled rename).type = value.type := by
  cases value <;> rfl

theorem type_relabelled (rename : String → String) (key : String) (value : Value) :
    (value.relabelled rename key).type = value.type := by
  unfold relabelled
  split
  · exact type_respelled rename value
  · rfl

/-- If no two texts are renamed alike, renamed values are equal only if the values are. -/
theorem same_respelled {rename : String → String} (injective : Function.Injective rename)
    (a b : Value) : (a.respelled rename).same (b.respelled rename) = a.same b := by
  cases a with
  | string first =>
    cases b with
    | string second =>
      change (rename first == rename second) = (first == second)
      rw [Bool.eq_iff_iff, beq_iff_eq, beq_iff_eq]
      exact injective.eq_iff
    | _ => rfl
  | _ => cases b <;> rfl

end Value

/-- A stored node with another comment. -/
def Tree.Node.recommented (recomment : Option String → Option String) (node : Tree.Node) :
    Tree.Node :=
  { node with comment := recomment node.comment }

/-- A stored leaf with another value. -/
def Tree.Leaf.revalued (revalue : String → Value → Value) (leaf : Tree.Leaf) : Tree.Leaf :=
  { leaf with value := revalue leaf.key leaf.value }

namespace Outline

section Rewritten

variable (revalue : String → Value → Value) (recomment : Option String → Option String)

mutual

/-- An outline with other values in its leaves and other comments at its nodes. -/
def rewritten : Outline → Outline
  | ⟨kind, args, body, comment⟩ =>
    ⟨kind, rewrittenArgs args, rewrittenBody body, recomment comment⟩

/-- Arguments with other values and comments. -/
def rewrittenArgs : List (String × Arg Outline Value) → List (String × Arg Outline Value)
  | [] => []
  | (key, .node outline) :: rest => (key, .node (rewritten outline)) :: rewrittenArgs rest
  | (key, .leaf value) :: rest => (key, .leaf (revalue key value)) :: rewrittenArgs rest
  | (key, .malformed raw) :: rest => (key, .malformed raw) :: rewrittenArgs rest

/-- A body with other values and comments. -/
def rewrittenBody : List Outline → List Outline
  | [] => []
  | outline :: rest => rewritten outline :: rewrittenBody rest

end

end Rewritten

/-- An outline with its labels renamed: the text of every leaf that stands under `label`. -/
def relabelled (rename : String → String) (outline : Outline) : Outline :=
  outline.rewritten (Value.relabelled rename) id

/-! ## Layouts -/

section Layout

variable {revalue : String → Value → Value} {recomment : Option String → Option String}

mutual

/-- A rewritten outline has as many nodes and as many leaves. -/
theorem counts_rewritten : ∀ outline : Outline,
    (outline.rewritten revalue recomment).nodeCount = outline.nodeCount ∧
      (outline.rewritten revalue recomment).leafCount = outline.leafCount
  | ⟨_, args, body, _⟩ => by
    obtain ⟨argNodes, argLeaves⟩ := argsCounts_rewritten args
    obtain ⟨bodyNodes, bodyLeaves⟩ := bodyCounts_rewritten body
    rw [rewritten, nodeCount, nodeCount, leafCount, leafCount, argNodes, bodyNodes, argLeaves,
      bodyLeaves]
    exact ⟨rfl, rfl⟩

theorem argsCounts_rewritten : ∀ args : List (String × Arg Outline Value),
    argsNodeCount (rewrittenArgs revalue recomment args) = argsNodeCount args ∧
      argsLeafCount (rewrittenArgs revalue recomment args) = argsLeafCount args
  | [] => ⟨rfl, rfl⟩
  | (_, .node outline) :: rest => by
    obtain ⟨nodes, leaves⟩ := counts_rewritten outline
    obtain ⟨restNodes, restLeaves⟩ := argsCounts_rewritten rest
    rw [rewrittenArgs, argsNodeCount, argsNodeCount, argsLeafCount, argsLeafCount, nodes, leaves,
      restNodes, restLeaves]
    exact ⟨rfl, rfl⟩
  | (_, .leaf _) :: rest => by
    obtain ⟨restNodes, restLeaves⟩ := argsCounts_rewritten rest
    exact ⟨restNodes, congrArg (1 + ·) restLeaves⟩
  | (_, .malformed _) :: rest => argsCounts_rewritten rest

theorem bodyCounts_rewritten : ∀ body : List Outline,
    bodyNodeCount (rewrittenBody revalue recomment body) = bodyNodeCount body ∧
      bodyLeafCount (rewrittenBody revalue recomment body) = bodyLeafCount body
  | [] => ⟨rfl, rfl⟩
  | outline :: rest => by
    obtain ⟨nodes, leaves⟩ := counts_rewritten outline
    obtain ⟨restNodes, restLeaves⟩ := bodyCounts_rewritten rest
    rw [rewrittenBody, bodyNodeCount, bodyNodeCount, bodyLeafCount, bodyLeafCount, nodes, leaves,
      restNodes, restLeaves]
    exact ⟨rfl, rfl⟩

end

theorem numberedArgs_rewritten (id leaf : Nat) : ∀ args : List (String × Arg Outline Value),
    numberedArgs id leaf (rewrittenArgs revalue recomment args) = numberedArgs id leaf args
  | [] => rfl
  | (_, .node outline) :: rest => by
    obtain ⟨nodes, leaves⟩ := @counts_rewritten revalue recomment outline
    rw [rewrittenArgs, numberedArgs, numberedArgs, nodes, leaves, numberedArgs_rewritten _ _ rest]
  | (_, .leaf _) :: rest => by
    rw [rewrittenArgs, numberedArgs, numberedArgs, numberedArgs_rewritten _ _ rest]
  | (_, .malformed _) :: rest => by
    rw [rewrittenArgs, numberedArgs, numberedArgs, numberedArgs_rewritten _ _ rest]

theorem numberedBody_rewritten (id : Nat) : ∀ body : List Outline,
    numberedBody id (rewrittenBody revalue recomment body) = numberedBody id body
  | [] => rfl
  | outline :: rest => by
    rw [rewrittenBody, numberedBody, numberedBody, (counts_rewritten outline).1,
      numberedBody_rewritten _ rest]

mutual

/-- The nodes of a rewritten outline are the same but for their comments. -/
theorem laidNodes_rewritten (parent : Option Nat) (id leaf : Nat) : ∀ outline : Outline,
    (outline.rewritten revalue recomment).laidNodes parent id leaf =
      (outline.laidNodes parent id leaf).map (Tree.Node.recommented recomment)
  | ⟨_, args, body, _⟩ => by
    obtain ⟨argNodes, argLeaves⟩ := @argsCounts_rewritten revalue recomment args
    rw [rewritten, laidNodes, laidNodes, numberedArgs_rewritten, numberedBody_rewritten, argNodes,
      argLeaves, laidArgs_rewritten _ _ _ args, laidBody_rewritten _ _ _ body, List.map_cons,
      List.map_append]
    rfl

theorem laidArgs_rewritten (owner id leaf : Nat) : ∀ args : List (String × Arg Outline Value),
    laidArgs owner id leaf (rewrittenArgs revalue recomment args) =
      (laidArgs owner id leaf args).map (Tree.Node.recommented recomment)
  | [] => rfl
  | (_, .node outline) :: rest => by
    obtain ⟨nodes, leaves⟩ := @counts_rewritten revalue recomment outline
    rw [rewrittenArgs, laidArgs, laidArgs, List.map_append, laidNodes_rewritten _ _ _ outline,
      laidArgs_rewritten _ _ _ rest, nodes, leaves]
  | (_, .leaf _) :: rest => laidArgs_rewritten owner id (leaf + 1) rest
  | (_, .malformed _) :: rest => laidArgs_rewritten owner id leaf rest

theorem laidBody_rewritten (owner id leaf : Nat) : ∀ body : List Outline,
    laidBody owner id leaf (rewrittenBody revalue recomment body) =
      (laidBody owner id leaf body).map (Tree.Node.recommented recomment)
  | [] => rfl
  | outline :: rest => by
    obtain ⟨nodes, leaves⟩ := @counts_rewritten revalue recomment outline
    rw [rewrittenBody, laidBody, laidBody, List.map_append, laidNodes_rewritten _ _ _ outline,
      laidBody_rewritten _ _ _ rest, nodes, leaves]

end

mutual

/-- The leaves of a rewritten outline are the same but for their values. -/
theorem laidLeaves_rewritten (id : Nat) : ∀ outline : Outline,
    (outline.rewritten revalue recomment).laidLeaves id =
      (outline.laidLeaves id).map (Tree.Leaf.revalued revalue)
  | ⟨_, args, body, _⟩ => by
    rw [rewritten, laidLeaves, laidLeaves, List.map_append, laidArgLeaves_rewritten _ _ args,
      (argsCounts_rewritten args).1, laidBodyLeaves_rewritten _ body]

theorem laidArgLeaves_rewritten (owner id : Nat) : ∀ args : List (String × Arg Outline Value),
    laidArgLeaves owner id (rewrittenArgs revalue recomment args) =
      (laidArgLeaves owner id args).map (Tree.Leaf.revalued revalue)
  | [] => rfl
  | (_, .node outline) :: rest => by
    rw [rewrittenArgs, laidArgLeaves, laidArgLeaves, List.map_append,
      laidLeaves_rewritten _ outline, (counts_rewritten outline).1,
      laidArgLeaves_rewritten _ _ rest]
  | (_, .leaf _) :: rest => by
    rw [rewrittenArgs, laidArgLeaves, laidArgLeaves, List.map_cons,
      laidArgLeaves_rewritten _ _ rest]
    rfl
  | (_, .malformed _) :: rest => laidArgLeaves_rewritten owner id rest

theorem laidBodyLeaves_rewritten (id : Nat) : ∀ body : List Outline,
    laidBodyLeaves id (rewrittenBody revalue recomment body) =
      (laidBodyLeaves id body).map (Tree.Leaf.revalued revalue)
  | [] => rfl
  | outline :: rest => by
    rw [rewrittenBody, laidBodyLeaves, laidBodyLeaves, List.map_append,
      laidLeaves_rewritten _ outline, (counts_rewritten outline).1,
      laidBodyLeaves_rewritten _ rest]

end

end Layout

end Outline

end SequenceCheck
