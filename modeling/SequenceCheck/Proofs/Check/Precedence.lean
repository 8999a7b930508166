import SequenceCheck.Proofs.Check.Obligations

/-!
# What comes before a rule

When a check comes to a rule, other obligations lie behind it. `presupposed` lists those that a rule
may take for granted: for the rule of an argument the body and the keys of the owner and the pairing
of the argument, and for the rule of a node its body, its keys and everything about its arguments,
at whatever depth.

Main statement: wherever an obligation stands among those of a node, all that it presupposes stands
before it (`mem_before_of_presupposed`).
-/

set_option autoImplicit false

namespace SequenceCheck.Check

open SequenceCheck.Tree

variable {tree : Tree}

/-- The obligations that a rule takes for granted. -/
def presupposed : Obligation tree → List (Obligation tree)
  | .body _ => []
  | .keys _ => []
  | .pairing _ _ _ => []
  | .argRule owner key arg => [.body owner, .keys owner, .pairing owner key arg]
  | .nodeRule node => .body node :: .keys node :: node.args.flatMap (argObligations node)

/-- Whatever an obligation of a list presupposes is before it in the list, or has been seen
earlier. -/
def Ordered : List (Obligation tree) → List (Obligation tree) → Prop
  | _, [] => True
  | seen, obligation :: rest => presupposed obligation ⊆ seen ∧ Ordered (seen ++ [obligation]) rest

/-- Of two lists in order the second one may rely on the first. -/
theorem ordered_append {seen first second : List (Obligation tree)} :
    Ordered seen (first ++ second) ↔ Ordered seen first ∧ Ordered (seen ++ first) second := by
  induction first generalizing seen with
  | nil => simp only [List.nil_append, List.append_nil, Ordered, true_and]
  | cons obligation rest ih =>
    simp only [List.cons_append, Ordered, ih, List.append_assoc, List.nil_append, and_assoc]

/-- Groups that are in order once some obligations have been seen are in order together. -/
theorem ordered_flatMap {α : Type} {group : α → List (Obligation tree)}
    {base : List (Obligation tree)} {items : List α} {seen : List (Obligation tree)}
    (each : ∀ item ∈ items, ∀ earlier, base ⊆ earlier → Ordered earlier (group item))
    (known : base ⊆ seen) : Ordered seen (items.flatMap group) := by
  induction items generalizing seen with
  | nil => exact trivial
  | cons item rest ih =>
    obtain ⟨here, later⟩ := List.forall_mem_cons.1 each
    rw [List.flatMap_cons, ordered_append]
    refine ⟨here seen known, ih later ?_⟩
    exact List.subset_append_of_subset_left _ known

/-- The obligations of a node are in order, whatever has been seen earlier. -/
theorem ordered_obligations (node : tree.NodeAt) :
    ∀ seen, Ordered seen (obligations node) := by
  induction node using NodeAt.induct_children with
  | step node ih =>
    intro seen
    -- An argument relies on the body and the keys, which come before all arguments.
    have arg : ∀ entry ∈ node.args, ∀ earlier,
        [.body node, .keys node] ⊆ earlier → Ordered earlier (argObligations node entry) := by
      rintro ⟨key, arg⟩ mem earlier known
      have below : ∀ later, Ordered later (obligationsBelow arg) := by
        intro later
        cases arg with
        | node child => exact ih child (NodeAt.mem_children_iff.2 (.inl ⟨key, mem⟩)) later
        | leaf leaf => exact trivial
        | malformed raw => exact trivial
      refine ⟨List.nil_subset _, ?_, below _⟩
      change [Obligation.body node, .keys node] ++ [_] ⊆ earlier ++ [_]
      apply List.append_subset.2
      exact ⟨List.subset_append_of_subset_left _ known, List.subset_append_right _ _⟩
    have body : ∀ child ∈ node.body, ∀ earlier, [] ⊆ earlier →
        Ordered earlier (obligations child) := by
      intro child mem earlier _
      exact ih child (NodeAt.mem_children_iff.2 (.inr mem)) earlier
    rw [obligations_eq, List.cons_append, List.cons_append]
    refine ⟨List.nil_subset _, List.nil_subset _, ordered_append.2 ⟨?_, ?_, ?_⟩⟩
    · exact ordered_flatMap arg (by simp)
    · simp [presupposed]
    · exact ordered_flatMap body (List.nil_subset _)

/-- All that an obligation presupposes comes before it. -/
theorem mem_before_of_presupposed {node : tree.NodeAt} {obligation earlier : Obligation tree}
    {before after : List (Obligation tree)}
    (split : obligations node = before ++ obligation :: after)
    (needed : earlier ∈ presupposed obligation) : earlier ∈ before := by
  have inOrder := ordered_obligations node []
  rw [split, ordered_append] at inOrder
  obtain ⟨_, here, _⟩ := inOrder
  exact here needed

end SequenceCheck.Check
