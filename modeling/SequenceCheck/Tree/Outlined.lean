import SequenceCheck.Tree.Position

/-!
# The outline of a tree

`NodeAt.outline` reads back the outline of what stands at and below a node, by moving from position
to position. It ends because every move goes to a greater number. `outline_eq` is the equation it
satisfies.
-/

set_option autoImplicit false

namespace SequenceCheck.Tree

variable {tree : Tree}

/-- The outline of what stands at and below a node. -/
def NodeAt.outline (node : tree.NodeAt) : Outline :=
  { kind := node.kind
    args := node.args.attach.map fun
      | ⟨(key, .node child), _below⟩ => (key, .node child.outline)
      | ⟨(key, .leaf leaf), _⟩ => (key, .leaf leaf.value)
      | ⟨(key, .malformed raw), _⟩ => (key, .malformed raw)
    body := node.body.attach.map fun ⟨child, _below⟩ => child.outline
    comment := node.comment }
termination_by node.remaining
decreasing_by
  · exact NodeAt.remaining_lt_of_mem_args _below
  · exact NodeAt.remaining_lt_of_mem_body _below

/-- An argument with the outline of its node, or with the value of its leaf. -/
def outlineArg : tree.ArgAt → Arg Outline Value
  | .node child => .node child.outline
  | .leaf leaf => .leaf leaf.value
  | .malformed raw => .malformed raw

/-- The outline of a node is made of the outlines of what is right below it. -/
theorem NodeAt.outline_eq (node : tree.NodeAt) :
    node.outline =
      { kind := node.kind
        args := node.args.map fun entry => (entry.1, outlineArg entry.2)
        body := node.body.map NodeAt.outline
        comment := node.comment } := by
  rw [NodeAt.outline]
  congr 1
  · refine Eq.trans (List.map_congr_left fun entry _ => ?_) List.attach_map_val
    rcases entry with ⟨⟨key, arg⟩, below⟩
    cases arg <;> rfl
  · exact List.attach_map_val

/-- The outline of a whole tree. -/
def outline (tree : Tree) : Outline :=
  tree.root.outline

end SequenceCheck.Tree
