import SequenceCheck.Proofs.Check.Obligations
import SequenceCheck.Proofs.Tree.Numbering

/-!
# The order of obligations

In the tree of an outline, nodes are numbered in the order in which a check enters them. So when a
check comes to a node, it has asked about nothing but nodes with smaller numbers, and about such
nodes under the keys of these, and the same is true when it comes to a node under a key.

Main statements: before the keys of a node come its body and obligations about nodes with smaller
numbers (`exists_split_at_keys`), and before the pairing of a node under a key come obligations
about nodes with smaller numbers (`exists_split_at_pairing`).
-/

set_option autoImplicit false

namespace SequenceCheck.Check

open SequenceCheck.Tree

/-- An obligation is one of a node with a number below `owners`, and if it is about a node under a
key, then that node has a number below `values`. -/
def Obligation.Before {tree : Tree} (owners values : Nat) (obligation : Obligation tree) : Prop :=
  (∃ node, obligation.Of node ∧ node.id < owners) ∧
    ∀ owner key child, obligation = .pairing owner key (.node child) → child.id < values

theorem Obligation.Before.mono {tree : Tree} {owners values moreOwners moreValues : Nat}
    {obligation : Obligation tree} (before : obligation.Before owners values)
    (fewer : owners ≤ moreOwners) (less : values ≤ moreValues) :
    obligation.Before moreOwners moreValues := by
  obtain ⟨⟨node, own, smaller⟩, values⟩ := before
  refine ⟨⟨node, own, by omega⟩, ?_⟩
  intro owner key child same
  exact Nat.lt_of_lt_of_le (values owner key child same) less

section OfOutline

variable {outline : Outline} {node child inner : (ofOutline outline).NodeAt}

/-! ## What comes before -/

/-- If all numbers at and below a node are smaller, its obligations come before. -/
theorem before_of_mem_obligations {limit : Nat} {obligation : Obligation (ofOutline outline)}
    (smaller : ∀ inner ∈ node.preorder, inner.id < limit) (mem : obligation ∈ obligations node) :
    obligation.Before limit limit := by
  obtain ⟨inner, below, own⟩ := mem_obligations_iff.1 mem
  refine ⟨⟨inner, own, smaller inner below⟩, ?_⟩
  rintro owner key child rfl
  cases own with
  | pairing held =>
    have under := NodeAt.mem_preorder_of_mem_children (NodeAt.mem_children_iff.2 (.inl ⟨key, held⟩))
    exact smaller child (NodeAt.mem_preorder_trans below under)

/-- If all numbers at and below some arguments of a node are smaller, their obligations come
before. -/
theorem before_of_mem_argObligations {limit : Nat} {obligation : Obligation (ofOutline outline)}
    {entry : String × (ofOutline outline).ArgAt} (held : entry ∈ node.args) (here : node.id < limit)
    (smaller : ∀ child, entry.2.node? = some child → ∀ inner ∈ child.preorder, inner.id < limit)
    (mem : obligation ∈ argObligations node entry) : obligation.Before limit limit := by
  rcases entry with ⟨key, arg⟩
  rcases List.mem_cons.1 mem with rfl | mem
  · refine ⟨⟨node, .pairing held, here⟩, ?_⟩
    rintro owner other child same
    cases same
    exact smaller child rfl child (NodeAt.mem_preorder_self child)
  rcases List.mem_cons.1 mem with rfl | mem
  · exact ⟨⟨node, .argRule held, here⟩, by simp⟩
  cases arg with
  | node child => exact before_of_mem_obligations (smaller child rfl) mem
  | leaf leaf => exact absurd mem List.not_mem_nil
  | malformed raw => exact absurd mem List.not_mem_nil

/-- The obligations of the body and the keys of a node come before what is below it. -/
theorem before_of_own {obligation : Obligation (ofOutline outline)} {limit : Nat}
    (here : node.id < limit) (mem : obligation ∈ [.body node, .keys node]) :
    obligation.Before limit limit := by
  rcases List.mem_pair.1 mem with rfl | rfl
  · exact ⟨⟨node, .body, here⟩, by simp⟩
  · exact ⟨⟨node, .keys, here⟩, by simp⟩

/-! ## One step down -/

/-- Before a node under a key come the body and the keys of its owner and earlier arguments. -/
theorem exists_split_at_arg {key : String} (held : (key, Arg.node child) ∈ node.args) :
    ∃ before after, obligations node = before ++ .pairing node key (.node child) ::
        .argRule node key (.node child) :: (obligations child ++ after) ∧
      ∀ earlier ∈ before, earlier.Before child.id child.id := by
  obtain ⟨first, last, args⟩ := List.append_of_mem held
  have children : node.children = first.filterMap (fun entry => entry.2.node?) ++ child ::
      (last.filterMap (fun entry => entry.2.node?) ++ node.body) := by
    rw [NodeAt.children, args, List.filterMap_append, List.append_assoc]
    rfl
  have here := NodeAt.id_lt_of_mem_args held
  refine ⟨[.body node, .keys node] ++ first.flatMap (argObligations node),
    last.flatMap (argObligations node) ++ .nodeRule node :: node.body.flatMap obligations, ?_, ?_⟩
  · rw [obligations_eq, args, List.flatMap_append, List.flatMap_cons, argObligations,
      obligationsBelow]
    simp
  · intro obligation mem
    rcases List.mem_append.1 mem with own | inArgs
    · exact before_of_own here own
    · obtain ⟨entry, inFirst, mem⟩ := List.mem_flatMap.1 inArgs
      have inArgs : entry ∈ node.args := by
        rw [args]
        exact List.mem_append_left _ inFirst
      apply before_of_mem_argObligations inArgs here _ mem
      intro other found inner below
      exact id_lt_of_children_split children (List.mem_filterMap.2 ⟨entry, inFirst, found⟩) below

/-- Before a child of a body comes all else about its parent, but for later children. -/
theorem exists_split_at_child (inBody : child ∈ node.body) :
    ∃ before after, obligations node = before ++ (obligations child ++ after) ∧
      ∀ earlier ∈ before, earlier.Before child.id child.id := by
  obtain ⟨first, last, body⟩ := List.append_of_mem inBody
  have children : node.children =
      (node.args.filterMap (fun entry => entry.2.node?) ++ first) ++ child :: last := by
    rw [NodeAt.children, body, List.append_assoc]
  have here := NodeAt.id_lt_of_mem_body inBody
  refine ⟨[.body node, .keys node] ++ node.args.flatMap (argObligations node) ++
    [.nodeRule node] ++ first.flatMap obligations, last.flatMap obligations, ?_, ?_⟩
  · rw [obligations_eq, body, List.flatMap_append, List.flatMap_cons]
    simp
  · intro obligation mem
    simp only [List.mem_append] at mem
    rcases mem with ((own | inArgs) | rule) | inFirst
    · exact before_of_own here own
    · obtain ⟨entry, held, mem⟩ := List.mem_flatMap.1 inArgs
      apply before_of_mem_argObligations held here _ mem
      intro other found inner below
      have inArgs : other ∈ node.args.filterMap (fun entry => entry.2.node?) :=
        List.mem_filterMap.2 ⟨entry, held, found⟩
      exact id_lt_of_children_split children (List.mem_append_left _ inArgs) below
    · rw [List.mem_singleton.1 rule]
      exact ⟨⟨node, .nodeRule, here⟩, by simp⟩
    · obtain ⟨other, earlier, mem⟩ := List.mem_flatMap.1 inFirst
      apply before_of_mem_obligations _ mem
      intro inner below
      exact id_lt_of_children_split children (List.mem_append_right _ earlier) below

/-! ## Where a check comes to a node, to its keys, and to a node under a key -/

/-- Before a node come obligations about nodes with smaller numbers, and those about the node as an
argument. -/
theorem exists_split_at_node {top : (ofOutline outline).NodeAt} (mem : node ∈ top.preorder) :
    ∃ before after, obligations top = before ++ (obligations node ++ after) ∧
      ∀ earlier ∈ before, earlier.Before node.id (node.id + 1) := by
  induction top using NodeAt.induct_children with
  | step top ih =>
    rcases NodeAt.mem_preorder_iff.1 mem with rfl | ⟨child, inChildren, below⟩
    · refine ⟨[], [], by simp, ?_⟩
      intro earlier mem
      exact absurd mem List.not_mem_nil
    obtain ⟨before, after, inChild, earlier⟩ := ih child inChildren below
    have order := id_le_of_mem_preorder below
    rcases NodeAt.mem_children_iff.1 inChildren with ⟨key, held⟩ | inBody
    · have smaller := NodeAt.id_lt_of_mem_args held
      obtain ⟨first, last, split, outside⟩ := exists_split_at_arg held
      refine ⟨first ++ .pairing top key (.node child) :: .argRule top key (.node child) :: before,
        after ++ last, ?_, ?_⟩
      · rw [split, inChild]
        simp
      · intro obligation mem
        rcases List.mem_append.1 mem with inFirst | mem
        · exact (outside obligation inFirst).mono order (by omega)
        rcases List.mem_cons.1 mem with rfl | mem
        · refine ⟨⟨top, .pairing held, by omega⟩, ?_⟩
          rintro owner other value same
          cases same
          omega
        rcases List.mem_cons.1 mem with rfl | mem
        · exact ⟨⟨top, .argRule held, by omega⟩, by simp⟩
        · exact earlier obligation mem
    · obtain ⟨first, last, split, outside⟩ := exists_split_at_child inBody
      refine ⟨first ++ before, after ++ last, ?_, ?_⟩
      · rw [split, inChild]
        simp
      · intro obligation mem
        rcases List.mem_append.1 mem with inFirst | mem
        · exact (outside obligation inFirst).mono order (by omega)
        · exact earlier obligation mem

/-- Before the keys of a node come its body and obligations about nodes with smaller numbers. -/
theorem exists_split_at_keys (node : (ofOutline outline).NodeAt) :
    ∃ before after, obligations (ofOutline outline).root = before ++ .keys node :: after ∧
      ∀ earlier ∈ before, earlier = .body node ∨ earlier.Before node.id (node.id + 1) := by
  obtain ⟨before, after, split, earlier⟩ := exists_split_at_node (mem_preorder_root node)
  refine ⟨before ++ [.body node], node.args.flatMap (argObligations node) ++
    .nodeRule node :: node.body.flatMap obligations ++ after, ?_, ?_⟩
  · rw [split, obligations_eq node]
    simp
  · intro obligation mem
    rcases List.mem_append.1 mem with behind | here
    · exact .inr (earlier obligation behind)
    · exact .inl (List.mem_singleton.1 here)

/-- Before the pairing of a node under a key come obligations about nodes with smaller numbers. -/
theorem exists_split_at_pairing {key : String} (held : (key, Arg.node child) ∈ node.args) :
    ∃ before after, obligations (ofOutline outline).root =
        before ++ .pairing node key (.node child) :: after ∧
      ∀ earlier ∈ before, earlier.Before child.id child.id := by
  obtain ⟨before, after, split, outside⟩ := exists_split_at_node (mem_preorder_root node)
  obtain ⟨first, last, inNode, earlier⟩ := exists_split_at_arg held
  have smaller := NodeAt.id_lt_of_mem_args held
  refine ⟨before ++ first, .argRule node key (.node child) :: (obligations child ++ last) ++ after,
    ?_, ?_⟩
  · rw [split, inNode]
    simp
  · intro obligation mem
    rcases List.mem_append.1 mem with behind | inFirst
    · exact (outside obligation behind).mono (by omega) (by omega)
    · exact earlier obligation inFirst

end OfOutline

end SequenceCheck.Check
