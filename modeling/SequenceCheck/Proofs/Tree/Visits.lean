import SequenceCheck.Tree.Walk

/-!
# What a walk visits

The list `node.visited` is defined by recursion over bodies, and a walk by a stack.

Main statements: a walk has the outcome of its visits in the order of the list, one after the other
(`walkAll_eq_sequence`), so a walk from a node is a visit to the node followed by walks from the
children of its body (`walkFrom_eq`).
-/

set_option autoImplicit false

namespace SequenceCheck

/-- Steps that are grouped in lists come to the same as the outcomes of the groups. -/
theorem Outcome.sequence_map_flatMap {ρ α β : Type} [Outcome ρ] (step : β → ρ) (group : α → List β)
    (items : List α) :
    sequence ((items.flatMap group).map step) =
      sequence (items.map fun item => sequence ((group item).map step)) := by
  induction items with
  | nil => rfl
  | cons item rest ih =>
    rw [List.flatMap_cons, List.map_append, sequence_append, ih, List.map_cons, sequence_cons]

namespace Tree

variable {tree : Tree} {ρ : Type} [Outcome ρ] {first : Nat}

/-- A walk from the nodes of a stack visits what walks from each of them visit. -/
theorem walkAll_eq_sequence (visit : tree.NodeAt → ρ) :
    ∀ (stack : List tree.NodeAt) (bound : ∀ node ∈ stack, first ≤ node.id),
      walkAll first (fun node _ => visit node) stack bound =
        Outcome.sequence ((stack.flatMap NodeAt.visited).map visit)
  | [], _ => by rw [walkAll]; rfl
  | node :: rest, bound => by
    -- The body is on top of the stack once the node has been visited, as its children follow the
    -- node in the list.
    rw [walkAll, walkAll_eq_sequence visit (node.body ++ rest), List.flatMap_append,
      List.flatMap_cons, node.visited_eq]
    rfl
termination_by stack => (stack.flatMap NodeAt.visited).length
decreasing_by exact length_visited_lt node rest

/-- A walk from a node visits the node and then walks from each child of its body in order. -/
theorem walkFrom_eq (visit : tree.NodeAt → ρ) (node : tree.NodeAt) :
    (walkFrom node fun inner _ => visit inner) =
      (visit node >> Outcome.sequence (node.body.map fun child =>
        walkFrom child fun inner _ => visit inner)) := by
  have walks : ∀ start : tree.NodeAt,
      (walkFrom start fun inner _ => visit inner) =
        Outcome.sequence (start.visited.map visit) := by
    intro start
    rw [walkFrom, walkAll_eq_sequence, List.flatMap_singleton]
  simp only [walks]
  rw [node.visited_eq, List.map_cons, Outcome.sequence_cons, Outcome.sequence_map_flatMap]

end Tree

end SequenceCheck
