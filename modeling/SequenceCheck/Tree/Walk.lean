import SequenceCheck.Outcome
import SequenceCheck.Tree.Position

/-!
# Walking a tree

A walk visits a node and then everything that can be reached from it through bodies, each node
before its body and the children of a body in order. It does not enter arguments. A visit has an
outcome, and the walk ends when the outcome of a visit puts an end to it.

The nodes still to visit are held on a stack. The walk ends because the nodes that can be reached
from the stack are finitely many (`visited`) and each step visits one of them. No visited node has a
smaller number than the first one, and a visitor may rely on that.

`walk` is the walk of a visitor that has a state, which it changes at each node.
-/

set_option autoImplicit false

namespace SequenceCheck.Tree

variable {tree : Tree} {ρ : Type} [Outcome ρ]

/-- The nodes that a walk from a node visits, in order: the node, and then those that a walk from
each child of its body visits. -/
def NodeAt.visited (node : tree.NodeAt) : List tree.NodeAt :=
  node :: node.body.attach.flatMap fun ⟨child, _below⟩ => child.visited
termination_by node.remaining
decreasing_by exact NodeAt.remaining_lt_of_mem_body _below

theorem NodeAt.visited_eq (node : tree.NodeAt) :
    node.visited = node :: node.body.flatMap visited := by
  rw [visited]
  simp only [List.flatMap_subtype, List.unattach_attach]

/-- A stack has one node less to visit once its top is replaced by the body of the top. -/
theorem length_visited_lt (node : tree.NodeAt) (rest : List tree.NodeAt) :
    ((node.body ++ rest).flatMap NodeAt.visited).length <
      ((node :: rest).flatMap NodeAt.visited).length := by
  rw [List.flatMap_append, List.flatMap_cons, node.visited_eq, List.cons_append, List.length_cons]
  exact Nat.lt_succ_self _

/-- With a node replaced by its body, a stack has nothing below the numbers it had. -/
theorem le_id_of_mem_body_append {first : Nat} {node : tree.NodeAt} {rest : List tree.NodeAt}
    (bound : ∀ inner ∈ node :: rest, first ≤ inner.id) :
    ∀ inner ∈ node.body ++ rest, first ≤ inner.id := by
  intro inner mem
  rcases List.mem_append.1 mem with inBody | inRest
  · have above := bound node List.mem_cons_self
    have below := NodeAt.id_lt_of_mem_body inBody
    omega
  · exact bound inner (List.mem_cons_of_mem _ inRest)

/-- Walk from each node of a stack in turn, the first one being on top. -/
def walkAll (first : Nat) (visit : (node : tree.NodeAt) → first ≤ node.id → ρ) :
    (stack : List tree.NodeAt) → (∀ node ∈ stack, first ≤ node.id) → ρ
  | [], _ => Outcome.clear
  | node :: rest, bound =>
    visit node (bound node List.mem_cons_self) >>
    walkAll first visit (node.body ++ rest) (le_id_of_mem_body_append bound)
termination_by stack => (stack.flatMap NodeAt.visited).length
decreasing_by exact length_visited_lt node rest

/-- Walk from a node. -/
def walkFrom (node : tree.NodeAt) (visit : (inner : tree.NodeAt) → node.id ≤ inner.id → ρ) : ρ :=
  walkAll node.id visit [node] fun _ mem =>
    Nat.le_of_eq (congrArg NodeAt.id (List.mem_singleton.1 mem).symm)

/-- Walk from a node with a visitor that has a state and may end the walk with an error. -/
def walk {σ ε : Type} (visit : σ → tree.NodeAt → σ × Except ε Unit) (state : σ)
    (node : tree.NodeAt) : σ × Except ε Unit :=
  (walkFrom node fun inner _ => fun state => visit state inner : Stateful σ ε) state

end SequenceCheck.Tree
