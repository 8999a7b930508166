import SequenceCheck.Proofs.Tree.Content

/-!
# The way up from a node

`node.upward` lists the nodes that are passed on the way from a node up to the root: the node, its
parent, the parent of that, and so on.

Main statements: the way up ends at the root (`getLast?_upward`) after no more nodes than the number
of the node allows (`length_upward_le`), and it has exactly the nodes that the node is at or below
(`mem_upward_iff`).
-/

set_option autoImplicit false

namespace SequenceCheck.Tree

variable {tree : Tree}

namespace NodeAt

/-- The nodes from a node up to the root. -/
def upward (node : tree.NodeAt) : List tree.NodeAt :=
  node ::
    match _above : node.parent with
    | some parent => parent.upward
    | none => []
termination_by node.id
decreasing_by exact parent_id_lt _above

theorem upward_of_parent {node parent : tree.NodeAt} (above : node.parent = some parent) :
    node.upward = node :: parent.upward := by
  rw [upward]
  split
  · rename_i other same
    obtain rfl : parent = other := Option.some.inj (above.symm.trans same)
    rfl
  · rename_i none
    cases above.symm.trans none

theorem upward_of_no_parent {node : tree.NodeAt} (top : node.parent = none) :
    node.upward = [node] := by
  rw [upward]
  split
  · rename_i other same
    cases top.symm.trans same
  · rfl

/-- Induction from the parent of a node to the node. -/
@[elab_as_elim]
theorem induct_parent {motive : tree.NodeAt → Prop}
    (step : ∀ node, (∀ parent, node.parent = some parent → motive parent) → motive node)
    (node : tree.NodeAt) : motive node :=
  step node fun parent _above => induct_parent step parent
termination_by node.id
decreasing_by exact parent_id_lt _above

theorem mem_upward_self (node : tree.NodeAt) : node ∈ node.upward := by
  rw [upward]
  exact List.mem_cons_self

/-- On the way up numbers get smaller, so it is no longer than the number of the node allows. -/
theorem length_upward_le (node : tree.NodeAt) : node.upward.length ≤ node.id + 1 := by
  induction node using induct_parent with
  | step node ih =>
    cases above : node.parent with
    | none =>
      rw [upward_of_no_parent above, List.length_singleton]
      exact Nat.le_add_left _ _
    | some parent =>
      have shorter := ih parent above
      have smaller := parent_id_lt above
      rw [upward_of_parent above, List.length_cons]
      omega

/-- The parent of a node on the way up is on the way up. -/
theorem parent_mem_upward {node middle parent : tree.NodeAt} (mem : middle ∈ node.upward)
    (above : middle.parent = some parent) : parent ∈ node.upward := by
  induction node using induct_parent with
  | step node ih =>
    cases next : node.parent with
    | none =>
      rw [upward_of_no_parent next, List.mem_singleton] at mem
      rw [mem, next] at above
      cases above
    | some first =>
      rw [upward_of_parent next, List.mem_cons] at mem ⊢
      rcases mem with rfl | further
      · obtain rfl : first = parent := Option.some.inj (next.symm.trans above)
        exact .inr (mem_upward_self first)
      · exact .inr (ih first next further)

end NodeAt

section OfOutline

variable {outline : Outline} {node above : (ofOutline outline).NodeAt}

/-- A node is right below its parent. -/
theorem mem_children_of_parent (h : node.parent = some above) : node ∈ above.children := by
  have notRoot : node ≠ (ofOutline outline).root := by
    rintro rfl
    cases h.symm.trans (parent_root outline)
  obtain ⟨parent, mem⟩ := exists_mem_children notRoot
  obtain rfl : above = parent := Option.some.inj (h.symm.trans (parent_of_mem_children mem))
  exact mem

/-- The way up ends at the root. -/
theorem getLast?_upward (node : (ofOutline outline).NodeAt) :
    node.upward.getLast? = some (ofOutline outline).root := by
  induction node using NodeAt.induct_parent with
  | step node ih =>
    cases next : node.parent with
    | none =>
      rw [NodeAt.upward_of_no_parent next, eq_root_of_parent_eq_none next]
      rfl
    | some parent =>
      rw [NodeAt.upward_of_parent next, List.getLast?_cons, ih parent next]
      rfl

/-- The nodes on the way up are those that the node is at or below. -/
theorem mem_upward_iff : above ∈ node.upward ↔ node ∈ above.preorder := by
  constructor
  · -- Going up from the node
    intro mem
    induction node using NodeAt.induct_parent with
    | step node ih =>
      cases next : node.parent with
      | none =>
        rw [NodeAt.upward_of_no_parent next, List.mem_singleton] at mem
        exact mem ▸ NodeAt.mem_preorder_self node
      | some parent =>
        rw [NodeAt.upward_of_parent next, List.mem_cons] at mem
        rcases mem with rfl | further
        · exact NodeAt.mem_preorder_self _
        · have below := NodeAt.mem_preorder_of_mem_children (mem_children_of_parent next)
          exact NodeAt.mem_preorder_trans (ih parent next further) below
  · -- Going down from the node above
    intro below
    induction above using NodeAt.induct_children with
    | step above ih =>
      rcases NodeAt.mem_preorder_iff.1 below with rfl | ⟨child, mem, inChild⟩
      · exact NodeAt.mem_upward_self _
      · exact NodeAt.parent_mem_upward (ih child mem inChild) (parent_of_mem_children mem)

end OfOutline

end SequenceCheck.Tree
