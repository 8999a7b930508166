import SequenceCheck.Proofs.Tree.Content

/-!
# Parts of outlines

`part.Within whole first` says that an outline occurs in another one, below any mix of arguments and
bodies, and that `first` nodes come before it in preorder. In the tree of the whole outline the
nodes of the part then have the numbers from `first` on.

Main statement: the parts of an outline are what stands at the nodes of its tree, each at its number
(`Outline.within_iff`).
-/

set_option autoImplicit false

namespace SequenceCheck

/-- An outline occurs in another, after `first` nodes of it in preorder. -/
inductive Outline.Within (part : Outline) : Outline → Nat → Prop where
  /-- The part is the whole. -/
  | whole : Within part part 0
  /-- The part occurs in an argument. -/
  | arg {whole inner : Outline} {key : String} {before after : List (String × Arg Outline Value)}
      {first : Nat} :
      whole.args = before ++ (key, .node inner) :: after → Within part inner first →
      Within part whole (1 + argsNodeCount before + first)
  /-- The part occurs in a child of the body. -/
  | child {whole inner : Outline} {before after : List Outline} {first : Nat} :
      whole.body = before ++ inner :: after → Within part inner first →
      Within part whole (1 + argsNodeCount whole.args + bodyNodeCount before + first)

namespace Tree

open Outline

variable {tree : Tree} {part : Outline} {first : Nat}

/-! ## Where parts are placed -/

/-- What comes later among placed arguments is placed after what comes before it. -/
theorem PlacedArgs.drop {owner : Nat} {rest : List (String × Arg Outline Value)} :
    ∀ {before : List (String × Arg Outline Value)} {id leaf : Nat},
      tree.PlacedArgs owner id leaf (before ++ rest) →
        ∃ other, tree.PlacedArgs owner (id + argsNodeCount before) other rest
  | [], _, leaf, h => ⟨leaf, h⟩
  | (_, .node outline) :: before, id, leaf, h => by
    obtain ⟨other, placed⟩ := PlacedArgs.drop h.tail_node
    rw [Nat.add_assoc] at placed
    exact ⟨other, placed⟩
  | (_, .leaf _) :: before, id, leaf, h => by
    have later := PlacedArgs.drop h.tail_leaf
    exact later
  | (_, .malformed _) :: before, id, leaf, h => by
    have later := PlacedArgs.drop h.tail_malformed
    exact later

/-- What comes later in a placed body is placed after what comes before it. -/
theorem PlacedBody.drop {owner : Nat} {rest : List Outline} :
    ∀ {before : List Outline} {id leaf : Nat}, tree.PlacedBody owner id leaf (before ++ rest) →
      ∃ other, tree.PlacedBody owner (id + bodyNodeCount before) other rest
  | [], _, leaf, h => ⟨leaf, h⟩
  | outline :: before, id, leaf, h => by
    obtain ⟨other, placed⟩ := PlacedBody.drop h.tail
    rw [Nat.add_assoc] at placed
    exact ⟨other, placed⟩

/-- Where an outline is placed, a part of it is placed after the nodes that come before the part. -/
theorem Placed.within {whole : Outline} (within : part.Within whole first) :
    ∀ {parent : Option Nat} {id leaf : Nat}, tree.Placed parent id leaf whole →
      ∃ above partLeaf, tree.Placed above (id + first) partLeaf part := by
  -- By induction on the way down to the part. Where the whole is placed stays general, since each
  -- step enters a smaller whole that is placed elsewhere.
  induction within with
  | whole =>
    intro parent id leaf h
    exact ⟨parent, leaf, h⟩
  | @arg whole inner key before after first split _ ih =>
    intro parent id leaf h
    -- The arguments before the one that is entered take up the numbers that come before the part.
    have args := h.args
    rw [split] at args
    obtain ⟨_, later⟩ := args.drop
    rw [show id + (1 + argsNodeCount before + first) = id + 1 + argsNodeCount before + first by
      omega]
    exact ih later.head_node
  | @child whole inner before after first split _ ih =>
    intro parent id leaf h
    have body := h.body
    rw [split] at body
    obtain ⟨_, later⟩ := body.drop
    rw [show id + (1 + argsNodeCount whole.args + bodyNodeCount before + first) =
      id + 1 + argsNodeCount whole.args + bodyNodeCount before + first by omega]
    exact ih later.head

/-! ## The parts that stand at nodes -/

/-- What is numbered among arguments is a part, after the nodes of the arguments before it. -/
theorem exists_of_mem_numberedArgs {key : String} {number : Nat} :
    ∀ {args : List (String × Arg Outline Value)} {id leaf : Nat},
      (key, Arg.node number) ∈ numberedArgs id leaf args →
        ∃ before part after, args = before ++ (key, .node part) :: after ∧
          number = id + argsNodeCount before
  | [], _, _, mem => absurd mem List.not_mem_nil
  | (first, .node outline) :: rest, id, leaf, mem => by
    rw [numberedArgs] at mem
    rcases List.mem_cons.1 mem with same | later
    · cases same
      exact ⟨[], outline, rest, rfl, rfl⟩
    · obtain ⟨before, part, after, rfl, rfl⟩ := exists_of_mem_numberedArgs later
      refine ⟨(first, .node outline) :: before, part, after, rfl, ?_⟩
      rw [argsNodeCount, Nat.add_assoc]
  | (first, .leaf value) :: rest, id, leaf, mem => by
    rw [numberedArgs] at mem
    rcases List.mem_cons.1 mem with same | later
    · cases same
    · obtain ⟨before, part, after, rfl, rfl⟩ := exists_of_mem_numberedArgs later
      exact ⟨(first, .leaf value) :: before, part, after, rfl, rfl⟩
  | (first, .malformed raw) :: rest, id, leaf, mem => by
    rw [numberedArgs] at mem
    rcases List.mem_cons.1 mem with same | later
    · cases same
    · obtain ⟨before, part, after, rfl, rfl⟩ := exists_of_mem_numberedArgs later
      exact ⟨(first, .malformed raw) :: before, part, after, rfl, rfl⟩

/-- What is numbered in a body is a part, after the nodes of the children before it. -/
theorem exists_of_mem_numberedBody {number : Nat} :
    ∀ {body : List Outline} {id : Nat}, number ∈ numberedBody id body →
      ∃ before part after, body = before ++ part :: after ∧ number = id + bodyNodeCount before
  | [], _, mem => absurd mem List.not_mem_nil
  | outline :: rest, id, mem => by
    rw [numberedBody] at mem
    rcases List.mem_cons.1 mem with rfl | later
    · exact ⟨[], outline, rest, rfl, rfl⟩
    · obtain ⟨before, part, after, rfl, rfl⟩ := exists_of_mem_numberedBody later
      refine ⟨outline :: before, part, after, rfl, ?_⟩
      rw [bodyNodeCount, Nat.add_assoc]

/-- What occurs in a part occurs in the whole. -/
theorem within_trans {inner part whole : Outline} {first second : Nat}
    (outside : part.Within whole first) (inside : inner.Within part second) :
    inner.Within whole (first + second) := by
  induction outside with
  | whole =>
    rw [Nat.zero_add]
    exact inside
  | arg split _ ih =>
    rw [Nat.add_assoc]
    exact .arg split ih
  | child split _ ih =>
    rw [Nat.add_assoc]
    exact .child split ih

/-- Right below a node that holds an outline stand parts of the outline. -/
theorem NodeAt.Holds.exists_within_child {node child : tree.NodeAt}
    {parent : Option tree.NodeAt} {whole : Outline} (h : node.Holds parent whole)
    (mem : child ∈ node.children) :
    ∃ part first, child.Holds (some node) part ∧ part.Within whole first ∧
      child.id = node.id + first := by
  obtain ⟨leaf, args, body, stored⟩ := h.stored
  -- What is stored shows the number of the child, and the number tells where the part begins.
  rcases NodeAt.mem_children_iff.1 mem with ⟨key, inArgs⟩ | inBody
  · have numbered : (key, Arg.node child.id) ∈ numberedArgs (node.id + 1) leaf whole.args := by
      have shown : (key, Arg.node child.id) ∈ node.stored.args := by
        rw [← node.map_numberArg_args]
        exact List.mem_map.2 ⟨_, inArgs, rfl⟩
      rw [stored] at shown
      exact shown
    obtain ⟨before, part, after, split, number⟩ := exists_of_mem_numberedArgs numbered
    rw [split] at args
    obtain ⟨other, later⟩ := args.drop
    have placed := later.head_node
    rw [← number] at placed
    refine ⟨part, _, ⟨other, placed⟩, .arg split .whole, ?_⟩
    omega
  · have numbered : child.id ∈
        numberedBody (node.id + 1 + argsNodeCount whole.args) whole.body := by
      have shown : child.id ∈ node.stored.body := by
        rw [← node.map_id_body]
        exact List.mem_map_of_mem inBody
      rw [stored] at shown
      exact shown
    obtain ⟨before, part, after, split, number⟩ := exists_of_mem_numberedBody numbered
    rw [split] at body
    obtain ⟨other, later⟩ := body.drop
    have placed := later.head
    rw [← number] at placed
    refine ⟨part, _, ⟨other, placed⟩, .child split .whole, ?_⟩
    omega

/-- At and below a node that holds an outline stand parts of the outline. -/
theorem NodeAt.Holds.exists_within {node inner : tree.NodeAt}
    {parent : Option tree.NodeAt} {whole : Outline} (h : node.Holds parent whole)
    (mem : inner ∈ node.preorder) :
    ∃ first, inner.outline.Within whole first ∧ inner.id = node.id + first := by
  -- Down the tree, the outline that the node holds changes with the node.
  induction node using NodeAt.induct_children generalizing parent whole with
  | step node ih =>
    rcases NodeAt.mem_preorder_iff.1 mem with rfl | ⟨child, inChildren, below⟩
    · rw [h.outline_eq]
      exact ⟨0, .whole, rfl⟩
    · obtain ⟨part, first, holds, within, number⟩ := h.exists_within_child inChildren
      obtain ⟨second, inPart, below⟩ := ih child inChildren holds below
      refine ⟨first + second, within_trans within inPart, ?_⟩
      omega

end Tree

open SequenceCheck.Tree

/-- The parts of an outline are what stands at the nodes of its tree, each at its number. -/
theorem Outline.within_iff {part whole : Outline} {first : Nat} :
    part.Within whole first ↔
      ∃ node : (ofOutline whole).NodeAt, node.id = first ∧ node.outline = part := by
  constructor
  · intro within
    obtain ⟨above, leaf, placed⟩ := Placed.within within (placed_ofOutline whole)
    rw [Nat.zero_add] at placed
    obtain ⟨inRange, _⟩ := Array.getElem?_eq_some_iff.1 placed.stored
    have stored := Option.some.inj
      ((NodeAt.mk first inRange).getElem?_id.symm.trans placed.stored)
    -- The parent of the node is the number that the part is placed below.
    have parent : (NodeAt.mk first inRange).parent.map NodeAt.id = above := by
      rw [NodeAt.map_id_parent, stored]
    subst parent
    have holds : (NodeAt.mk first inRange).Holds _ part := ⟨leaf, placed⟩
    exact ⟨NodeAt.mk first inRange, rfl, holds.outline_eq⟩
  · rintro ⟨node, rfl, rfl⟩
    obtain ⟨first, within, number⟩ := (holds_root whole).exists_within (mem_preorder_root node)
    have same : node.id = first := by
      rw [number]
      exact Nat.zero_add first
    rw [same]
    exact within

end SequenceCheck
