import Mathlib.Data.List.Flatten
import Mathlib.Logic.Relation
import SequenceCheck.Proofs.Tree.Ancestry
import SequenceCheck.Proofs.Tree.Numbering
import SequenceCheck.Proofs.Tree.Visits

/-!
# Walks by recursion

A walk holds the nodes that are still to visit on a stack. `node.descend` says what a walk is
without one: visit the node, then do the same with each child of its body in turn, and end with the
first error. `walkRounds` is the loop around the stack, whose top is the end of a list, with a bound
on the number of its rounds; there is no answer if the bound is too small.

All of these treat the nodes of `node.visited` in turn (`inTurn`), and that list depends on nothing
but bodies: it has what the bodies lead to (`mem_visited_iff`), by increasing numbers
(`pairwise_visited`), and nothing that is at or below an argument (`not_mem_visited_of_mem_args`).

Main statement: the loop ends within as many rounds as the tree has nodes, with what the recursion
gives, and visits the nodes of the list up to the first error (`walk_eq_descend`).
-/

set_option autoImplicit false

namespace SequenceCheck

/-! ## Items treated in turn -/

section InTurn

variable {σ ε α β : Type}

/-- Treat the items of a list in turn, each with the state that the last one has left, and end with
the first error. -/
def inTurn (treat : σ → α → σ × Except ε Unit) (state : σ) : List α → σ × Except ε Unit
  | [] => (state, .ok ())
  | item :: rest =>
    match treat state item with
    | (after, .ok ()) => inTurn treat after rest
    | (after, .error error) => (after, .error error)

variable {treat : σ → α → σ × Except ε Unit} {state after : σ} {item : α}

theorem inTurn_cons_ok (done : treat state item = (after, .ok ())) (rest : List α) :
    inTurn treat state (item :: rest) = inTurn treat after rest := by
  rw [inTurn, done]

theorem inTurn_cons_error {error : ε} (failed : treat state item = (after, .error error))
    (rest : List α) : inTurn treat state (item :: rest) = (after, .error error) := by
  rw [inTurn, failed]

/-- An item is treated without an error or with one. -/
theorem treated_cases (treat : σ → α → σ × Except ε Unit) (state : σ) (item : α) :
    ∃ after, treat state item = (after, .ok ()) ∨
      ∃ error, treat state item = (after, .error error) := by
  rcases treat state item with ⟨after, error | done⟩
  · exact ⟨after, .inr ⟨error, rfl⟩⟩
  · exact ⟨after, .inl rfl⟩

/-- What is treated alike, item by item, comes to the same. -/
theorem inTurn_congr {other : σ → α → σ × Except ε Unit} {items : List α} (state : σ)
    (same : ∀ item ∈ items, ∀ state, treat state item = other state item) :
    inTurn treat state items = inTurn other state items := by
  induction items generalizing state with
  | nil => rfl
  | cons item rest ih =>
    have later := fun after => ih after fun inner mem => same inner (List.mem_cons_of_mem _ mem)
    simp only [inTurn, same item List.mem_cons_self state, later]

theorem inTurn_map (treat : σ → β → σ × Except ε Unit) (f : α → β) (items : List α) (state : σ) :
    inTurn treat state (items.map f) =
      inTurn (fun state item => treat state (f item)) state items := by
  induction items generalizing state with
  | nil => rfl
  | cons item rest ih => simp only [List.map_cons, inTurn, ih]

/-- Steps that change a state come to the same in sequence. -/
theorem sequence_eq_inTurn (step : α → Stateful σ ε) (items : List α) (state : σ) :
    Outcome.sequence (items.map step) state =
      inTurn (fun state item => step item state) state items := by
  induction items generalizing state with
  | nil => rfl
  | cons item rest ih =>
    change Stateful.andThen (step item) (fun _ => Outcome.sequence (rest.map step)) state = _
    rw [Stateful.andThen, inTurn]
    rcases step item state with ⟨after, error | done⟩
    · rfl
    · exact ih after

/-- Items in groups come to the same as the groups in turn. -/
theorem inTurn_flatMap (treat : σ → β → σ × Except ε Unit) (group : α → List β) (items : List α)
    (state : σ) :
    inTurn treat state (items.flatMap group) =
      inTurn (fun state item => inTurn treat state (group item)) state items := by
  let step (item : β) : Stateful σ ε := fun state => treat state item
  have groups := congrFun (Outcome.sequence_map_flatMap step group items) state
  simp only [sequence_eq_inTurn] at groups
  exact groups

/-- A treatment of items that writes down, after each item that it treats, that it did. -/
def recording (treat : σ → α → σ × Except ε Unit) (state : σ × List α) (item : α) :
    (σ × List α) × Except ε Unit :=
  let (after, result) := treat state.1 item
  ((after, state.2 ++ [item]), result)

/-- Items are treated either all, or up to one that ends with an error, and a recording one writes
down just these. -/
theorem inTurn_recording (treat : σ → α → σ × Except ε Unit) (items : List α) (state : σ)
    (done : List α) :
    (∃ after, inTurn treat state items = (after, .ok ()) ∧
      inTurn (recording treat) (state, done) items = ((after, done ++ items), .ok ())) ∨
    ∃ before stop rest reached after error, items = before ++ stop :: rest ∧
      inTurn treat state before = (reached, .ok ()) ∧
      treat reached stop = (after, .error error) ∧
      inTurn treat state items = (after, .error error) ∧
      inTurn (recording treat) (state, done) items =
        ((after, done ++ (before ++ [stop])), .error error) := by
  induction items generalizing state done with
  | nil => exact .inl ⟨state, rfl, by rw [inTurn, List.append_nil]⟩
  | cons item rest ih =>
    obtain ⟨after, treated | ⟨error, failed⟩⟩ := treated_cases treat state item
    · have recorded : recording treat (state, done) item = ((after, done ++ [item]), .ok ()) := by
        rw [recording, treated]
      rw [inTurn_cons_ok treated, inTurn_cons_ok recorded]
      rcases ih after (done ++ [item]) with ⟨last, all, log⟩ |
        ⟨before, stop, later, reached, last, error, split, answered, failed, result, log⟩
      · exact .inl ⟨last, all, by rw [log, List.append_assoc, List.singleton_append]⟩
      · refine .inr ⟨item :: before, stop, later, reached, last, error, by rw [split]; rfl, ?_,
          failed, result, ?_⟩
        · rw [inTurn_cons_ok treated, answered]
        · rw [log, List.append_assoc, List.singleton_append, List.cons_append]
    · have recorded :
          recording treat (state, done) item = ((after, done ++ [item]), .error error) := by
        rw [recording, failed]
      exact .inr ⟨[], item, rest, state, after, error, rfl, rfl, failed,
        inTurn_cons_error failed rest, inTurn_cons_error recorded rest⟩

end InTurn

namespace Tree

variable {tree : Tree} {σ ε : Type}

/-! ## Three forms of a walk -/

/-- Visit a node and then do the same with each child of its body in order, up to the first
error. -/
def NodeAt.descend (visit : σ → tree.NodeAt → σ × Except ε Unit) (state : σ) (node : tree.NodeAt) :
    σ × Except ε Unit :=
  match visit state node with
  | (after, .ok ()) =>
    inTurn (fun state ⟨child, _below⟩ => child.descend visit state) after node.body.attach
  | (after, .error error) => (after, .error error)
termination_by node.remaining
decreasing_by exact remaining_lt_of_mem_body _below

/-- The loop of a walk, for a number of rounds at most. The pending nodes are held with the next one
last. A round takes that one off, visits it, and puts its body there in reverse; if there is none,
the walk is over. -/
def walkRounds (visit : σ → tree.NodeAt → σ × Except ε Unit) :
    Nat → List tree.NodeAt → σ → Option (σ × Except ε Unit)
  | 0, _, _ => none
  | rounds + 1, pending, state =>
    match pending.getLast? with
    | none => some (state, .ok ())
    | some node =>
      match visit state node with
      | (after, .ok ()) => walkRounds visit rounds (pending.dropLast ++ node.body.reverse) after
      | (after, .error error) => some (after, .error error)

variable {visit : σ → tree.NodeAt → σ × Except ε Unit}

theorem NodeAt.descend_eq (visit : σ → tree.NodeAt → σ × Except ε Unit) (state : σ)
    (node : tree.NodeAt) :
    node.descend visit state =
      match visit state node with
      | (after, .ok ()) => inTurn (fun state child => child.descend visit state) after node.body
      | (after, .error error) => (after, .error error) := by
  have bodies := fun after =>
    inTurn_map (fun state (child : tree.NodeAt) => child.descend visit state) Subtype.val
      node.body.attach after
  rw [descend]
  simp only [← bodies, List.attach_map_subtype_val]

/-- The recursion visits the nodes of the list in turn. -/
theorem NodeAt.descend_eq_inTurn (state : σ) (node : tree.NodeAt) :
    node.descend visit state = inTurn visit state node.visited := by
  induction node using induct_children generalizing state with
  | step node ih =>
    have body : ∀ after, inTurn (fun state child => child.descend visit state) after node.body =
        inTurn visit after (node.body.flatMap visited) := by
      intro after
      rw [inTurn_flatMap]
      exact inTurn_congr after fun child mem state => ih child (mem_children_iff.2 (.inr mem)) state
    rw [descend_eq, visited_eq, inTurn]
    simp only [body]

/-- A walk visits the nodes of the list in turn. -/
theorem walk_eq_inTurn (state : σ) (node : tree.NodeAt) :
    walk visit state node = inTurn visit state node.visited := by
  let step (node : tree.NodeAt) : Stateful σ ε := fun state => visit state node
  change walkFrom node (fun inner _ => step inner) state = _
  rw [walkFrom, walkAll_eq_sequence, List.flatMap_singleton, sequence_eq_inTurn]

/-- The loop visits in turn what each pending node leads to, if it has a round for each visit and
one to see that nothing is left. -/
theorem walkRounds_reverse {rounds : Nat} (state : σ) {pending : List tree.NodeAt}
    (enough : (pending.flatMap NodeAt.visited).length < rounds) :
    walkRounds visit rounds pending.reverse state =
      some (inTurn visit state (pending.flatMap NodeAt.visited)) := by
  induction rounds generalizing state pending with
  | zero => exact absurd enough (Nat.not_lt_zero _)
  | succ rounds ih =>
    cases pending with
    | nil => rfl
    | cons node rest =>
      have fewer := length_visited_lt node rest
      have visits : ((node :: rest).flatMap NodeAt.visited) =
          node :: (node.body ++ rest).flatMap NodeAt.visited := by
        rw [List.flatMap_cons, node.visited_eq, List.flatMap_append]
        rfl
      rw [walkRounds, List.reverse_cons, List.getLast?_concat, visits]
      obtain ⟨after, done | ⟨error, failed⟩⟩ := treated_cases visit state node
      · -- With the top replaced by its body, the pending nodes are again a stack in reverse.
        have next : (rest.reverse ++ [node]).dropLast ++ node.body.reverse =
            (node.body ++ rest).reverse := by
          rw [List.dropLast_concat, List.reverse_append]
        rw [inTurn_cons_ok done, ← ih after (by omega), ← next]
        simp only [done]
      · rw [inTurn_cons_error failed]
        simp only [failed]

/-! ## Which nodes a walk visits -/

namespace NodeAt

/-- The nodes that a walk visits are those that bodies lead to. -/
theorem mem_visited_iff {node inner : tree.NodeAt} :
    inner ∈ node.visited ↔
      Relation.ReflTransGen (fun above below => below ∈ above.body) node inner := by
  constructor
  · intro mem
    induction node using induct_children with
    | step node ih =>
      rw [visited_eq, List.mem_cons, List.mem_flatMap] at mem
      rcases mem with rfl | ⟨child, inBody, below⟩
      · exact .refl
      · exact .head inBody (ih child (mem_children_iff.2 (.inr inBody)) below)
  · intro path
    induction path using Relation.ReflTransGen.head_induction_on with
    | refl =>
      rw [visited_eq]
      exact List.mem_cons_self
    | head inBody _ ih =>
      rw [visited_eq]
      exact List.mem_cons_of_mem _ (List.mem_flatMap.2 ⟨_, inBody, ih⟩)

/-- A walk visits some of what is at or below the first node, in the same order. -/
theorem sublist_visited (node : tree.NodeAt) : node.visited.Sublist node.preorder := by
  induction node using induct_children with
  | step node ih =>
    have body : (node.body.flatMap visited).Sublist (node.body.flatMap preorder) :=
      List.Sublist.flatMap_right _ fun child mem => ih child (mem_children_iff.2 (.inr mem))
    rw [visited_eq, preorder_eq, children, List.flatMap_append]
    exact (body.trans (List.sublist_append_right _ _)).cons_cons node

end NodeAt

section OfOutline

variable {outline : Outline} {node above below inner : (ofOutline outline).NodeAt}

/-- A walk visits nodes by increasing numbers. -/
theorem pairwise_visited (node : (ofOutline outline).NodeAt) :
    node.visited.Pairwise fun earlier later => earlier.id < later.id := by
  have numbers : (node.preorder.map NodeAt.id).Pairwise (· < ·) := by
    rw [map_id_preorder]
    exact List.pairwise_lt_range' _
  exact (List.pairwise_map.1 numbers).sublist node.sublist_visited

/-- A walk makes no more visits than there are nodes. -/
theorem length_visited_le (node : (ofOutline outline).NodeAt) :
    node.visited.length ≤ (ofOutline outline).nodeCount := by
  have once : node.visited.Nodup := (pairwise_visited node).imp fun smaller same =>
    absurd (congrArg NodeAt.id same) (Nat.ne_of_lt smaller)
  have count : (ofOutline outline).allNodes.length = (ofOutline outline).nodeCount := by
    rw [← List.length_map NodeAt.id, map_id_allNodes, List.length_range]
  rw [← count]
  exact (List.subperm_of_subset once fun inner _ => mem_allNodes inner).length_le

/-- What is at or below a node has no smaller number. -/
theorem le_id_of_mem_preorder (mem : inner ∈ node.preorder) : node.id ≤ inner.id := by
  have numbered := List.mem_map_of_mem (f := NodeAt.id) mem
  rw [map_id_preorder] at numbered
  exact (List.mem_range'_1.1 numbered).1

/-- What is at or below an argument of a node at or below the first one is not visited. -/
theorem not_mem_visited_of_mem_args {key : String} (inTree : above ∈ node.preorder)
    (mem : (key, Arg.node below) ∈ above.args) (inArg : inner ∈ below.preorder) :
    inner ∉ node.visited := by
  rw [NodeAt.mem_visited_iff]
  intro path
  induction path with
  | refl =>
    have first := le_id_of_mem_preorder inTree
    have second := NodeAt.id_lt_of_mem_args mem
    have third := le_id_of_mem_preorder inArg
    omega
  | @tail middle last _ inBody ih =>
    have parent : last.parent = some middle :=
      parent_of_mem_children (NodeAt.mem_children_iff.2 (.inr inBody))
    have way := mem_upward_iff.2 inArg
    rw [NodeAt.upward_of_parent parent, List.mem_cons] at way
    rcases way with rfl | further
    · -- The last node is the argument itself, and would stand in the body as well.
      have owner : below.parent = some above :=
        parent_of_mem_children (NodeAt.mem_children_iff.2 (.inl ⟨key, mem⟩))
      obtain rfl : above = middle := Option.some.inj (owner.symm.trans parent)
      exact not_mem_body_of_mem_args mem inBody
    · exact ih (mem_upward_iff.1 further)

/-- The loop of a walk ends, and the walk is the recursion over bodies: it visits what bodies lead
to, each node once and by increasing numbers, nothing at or below an argument, and nothing after
the first error. -/
theorem walk_eq_descend {σ ε : Type} (outline : Outline)
    (visit : σ → (ofOutline outline).NodeAt → σ × Except ε Unit) (state : σ)
    (node : (ofOutline outline).NodeAt) :
    (∀ rounds, (ofOutline outline).nodeCount < rounds →
      walkRounds visit rounds [node] state = some (node.descend visit state)) ∧
    walk visit state node = node.descend visit state ∧
    (∀ inner, inner ∈ node.visited ↔
      Relation.ReflTransGen (fun above below => below ∈ above.body) node inner) ∧
    (node.visited.Pairwise fun earlier later => earlier.id < later.id) ∧
    (∀ above ∈ node.preorder, ∀ key below, (key, Arg.node below) ∈ above.args →
      ∀ inner ∈ below.preorder, inner ∉ node.visited) ∧
    ((∃ after, walk visit state node = (after, .ok ()) ∧
        walk (recording visit) (state, []) node = ((after, node.visited), .ok ())) ∨
      ∃ before stop rest reached after error, node.visited = before ++ stop :: rest ∧
        inTurn visit state before = (reached, .ok ()) ∧
        visit reached stop = (after, .error error) ∧
        walk visit state node = (after, .error error) ∧
        walk (recording visit) (state, []) node = ((after, before ++ [stop]), .error error)) := by
  have descent : node.descend visit state = inTurn visit state node.visited :=
    node.descend_eq_inTurn state
  refine ⟨fun rounds more => ?_, ?_, fun inner => NodeAt.mem_visited_iff, pairwise_visited node,
    fun above inTree key below mem inner inArg => not_mem_visited_of_mem_args inTree mem inArg, ?_⟩
  · have enough : ([node].flatMap NodeAt.visited).length < rounds := by
      rw [List.flatMap_singleton]
      exact Nat.lt_of_le_of_lt (length_visited_le node) more
    have loop : walkRounds visit rounds [node] state = _ := walkRounds_reverse state enough
    rw [loop, List.flatMap_singleton, descent]
  · rw [walk_eq_inTurn, descent]
  · simp only [walk_eq_inTurn]
    exact inTurn_recording visit node.visited state []

end OfOutline

end Tree

end SequenceCheck
