import Mathlib.Data.List.Perm.Basic
import SequenceCheck.Tree.Position

/-!
# The nodes below a node

`node.children` are the positions right below a node, and `node.preorder` lists the node and then
everything below each child in turn. What holds of a node whenever it holds of its children holds of
every node (`NodeAt.induct_children`).

Main statements: what is below a node of the list is in the list (`mem_preorder_trans`), and what a
walk gathers from a node and from everything below it is, up to order, what the nodes of the list
have of their own (`perm_flatMap_preorder`).
-/

set_option autoImplicit false

namespace SequenceCheck.Tree

variable {tree : Tree}

namespace NodeAt

/-- The nodes right below a node: those among its arguments, then its body. -/
def children (node : tree.NodeAt) : List tree.NodeAt :=
  node.args.filterMap (fun entry => entry.2.node?) ++ node.body

theorem mem_children_iff {node child : tree.NodeAt} :
    child ∈ node.children ↔ (∃ key, (key, Arg.node child) ∈ node.args) ∨ child ∈ node.body := by
  rw [children, List.mem_append]
  refine or_congr_left ⟨fun mem => ?_, fun ⟨key, mem⟩ => ?_⟩
  · obtain ⟨⟨key, arg⟩, stored, same⟩ := List.mem_filterMap.1 mem
    cases arg with
    | node found =>
      obtain rfl : found = child := Option.some.inj same
      exact ⟨key, stored⟩
    | leaf found => exact absurd same (by simp [Arg.node?])
    | malformed raw => exact absurd same (by simp [Arg.node?])
  · exact List.mem_filterMap.2 ⟨_, mem, rfl⟩

/-- The argument under a key is among the arguments. -/
theorem mem_args_of_arg? {node : tree.NodeAt} {key : String} {arg : tree.ArgAt}
    (stands : node.arg? key = some arg) : (key, arg) ∈ node.args := by
  obtain ⟨before, after, split, _⟩ := List.lookup_eq_some_iff.1 stands
  rw [split]
  exact List.mem_append_right _ List.mem_cons_self

/-- The node under a key is right below. -/
theorem mem_children_of_arg? {node child : tree.NodeAt} {key : String}
    (stands : node.arg? key = some (.node child)) : child ∈ node.children :=
  mem_children_iff.2 (.inl ⟨key, mem_args_of_arg? stands⟩)

/-- Fewer numbers are left after a node right below another than after that other. -/
theorem remaining_lt_of_mem_children {node child : tree.NodeAt} (mem : child ∈ node.children) :
    child.remaining < node.remaining := by
  rcases mem_children_iff.1 mem with ⟨key, inArgs⟩ | inBody
  · exact remaining_lt_of_mem_args inArgs
  · exact remaining_lt_of_mem_body inBody

/-- Induction from the nodes right below a node to the node. -/
@[elab_as_elim]
theorem induct_children {motive : tree.NodeAt → Prop}
    (step : ∀ node, (∀ child ∈ node.children, motive child) → motive node) (node : tree.NodeAt) :
    motive node :=
  step node fun child _below => induct_children step child
termination_by node.remaining
decreasing_by exact remaining_lt_of_mem_children _below

/-- A node and everything below it: the node, then each child with everything below it. -/
def preorder (node : tree.NodeAt) : List tree.NodeAt :=
  node :: node.children.attach.flatMap fun ⟨child, _below⟩ => child.preorder
termination_by node.remaining
decreasing_by exact remaining_lt_of_mem_children _below

theorem preorder_eq (node : tree.NodeAt) :
    node.preorder = node :: node.children.flatMap preorder := by
  rw [preorder]
  simp only [List.flatMap_subtype, List.unattach_attach]

theorem mem_preorder_self (node : tree.NodeAt) : node ∈ node.preorder := by
  rw [preorder_eq]
  exact List.mem_cons_self

/-- What is at or below a node is the node, or at or below one of its children. -/
theorem mem_preorder_iff {node inner : tree.NodeAt} :
    inner ∈ node.preorder ↔ inner = node ∨ ∃ child ∈ node.children, inner ∈ child.preorder := by
  rw [preorder_eq, List.mem_cons, List.mem_flatMap]

theorem mem_preorder_of_mem_children {node child : tree.NodeAt} (mem : child ∈ node.children) :
    child ∈ node.preorder :=
  mem_preorder_iff.2 (.inr ⟨child, mem, mem_preorder_self child⟩)

/-- What is below something below a node is below the node. -/
theorem mem_preorder_trans {node middle inner : tree.NodeAt} (hmiddle : middle ∈ node.preorder)
    (hinner : inner ∈ middle.preorder) : inner ∈ node.preorder := by
  induction node using induct_children with
  | step node ih =>
    rcases mem_preorder_iff.1 hmiddle with rfl | ⟨child, mem, below⟩
    · exact hinner
    · exact mem_preorder_iff.2 (.inr ⟨child, mem, ih child mem below⟩)

/-! ## Gathering from everything below a node -/

/-- What is gathered from the children comes from those in arguments and then from the body. -/
theorem flatMap_children {β : Type} (gather : tree.NodeAt → List β) (node : tree.NodeAt) :
    node.children.flatMap gather =
      (node.args.flatMap fun entry => entry.2.node?.toList.flatMap gather) ++
        node.body.flatMap gather := by
  rw [children, List.flatMap_append, List.filterMap_eq_flatMap_toList, List.flatMap_assoc]

/-- What each argument has of its own may be taken before what is below the arguments. -/
theorem perm_flatMap_args {β : Type} (own : String × tree.ArgAt → List β)
    (gather : tree.NodeAt → List β) (node : tree.NodeAt) :
    ((node.args.flatMap fun entry => own entry ++ entry.2.node?.toList.flatMap gather) ++
        node.body.flatMap gather).Perm
      (node.args.flatMap own ++ node.children.flatMap gather) := by
  rw [flatMap_children, ← List.append_assoc]
  exact (List.flatMap_append_perm _ _ _).symm.append_right _

/-- If a node and its children give what is gathered from the node, then it is what the node and
everything below it have of their own. -/
theorem perm_flatMap_preorder {β : Type} (own gather : tree.NodeAt → List β)
    (step : ∀ node : tree.NodeAt,
      (gather node).Perm (own node ++ node.children.flatMap gather)) (node : tree.NodeAt) :
    (gather node).Perm (node.preorder.flatMap own) := by
  induction node using induct_children with
  | step node ih =>
    have below : (node.children.flatMap gather).Perm
        (node.children.flatMap fun child => child.preorder.flatMap own) :=
      List.Perm.flatMap_left _ ih
    rw [preorder_eq, List.flatMap_cons, List.flatMap_assoc]
    exact (step node).trans (below.append_left (own node))

end NodeAt

end SequenceCheck.Tree
