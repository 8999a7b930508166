import SequenceCheck.Check.Steps
import SequenceCheck.Tree.Walk

/-!
# Checking a tree

`check` examines a tree against a grammar, for a device, and stops at the first offence. It walks
the tree from its root, and examines each node that it visits. At a node it looks in turn at

1. the body: each child must be of a kind that the grammar allows there;
2. the argument keys: they must be exactly those that the grammar requires;
3. each argument in declared order: it must pair with the entry of its key, then pass the rule of
   the key, and then, if it is a node, that node is walked from and examined likewise;
4. the rule for the node's kind.

The recursion ends because an argument has a greater number than its owner and a walk visits no
number below its first.
-/

set_option autoImplicit false

namespace SequenceCheck

namespace Check

open SequenceCheck.Tree

variable {D : Type} {tree : Tree}

mutual

/-- Examine a node and everything in its arguments. -/
def examine (grammar : Grammar D) (device : D) (node : tree.NodeAt) : Report tree :=
  Report.event (.entered node) >>
  Report.ofStep (checkBody grammar node) >>
  Report.ofStep (checkKeys grammar node) >>
  examineArgs grammar device node node.args (fun _ mem => mem) >>
  askNodeRule grammar device node
termination_by (node.remaining, node.args.length + 1)
decreasing_by exact Prod.Lex.right _ (Nat.lt_succ_self _)

/-- Examine some arguments of a node in order, and everything in them. -/
def examineArgs (grammar : Grammar D) (device : D) (owner : tree.NodeAt) :
    (args : List (String × tree.ArgAt)) → (∀ entry ∈ args, entry ∈ owner.args) → Report tree
  | [], _ => .clear
  | (key, arg) :: rest, below =>
    Report.ofStep (checkPairing grammar owner key arg) >>
    askArgRule grammar device owner key arg >>
    examineBelow grammar device owner key arg (below _ List.mem_cons_self) >>
    examineArgs grammar device owner rest fun entry mem => below entry (List.mem_cons_of_mem _ mem)
termination_by args => (owner.remaining, args.length)
decreasing_by
  · exact Prod.Lex.right _ (by simp)
  · exact Prod.Lex.right _ (by simp)

/-- Walk from the node that an argument is, and examine each node on the way. -/
def examineBelow (grammar : Grammar D) (device : D) (owner : tree.NodeAt) (key : String) :
    (arg : tree.ArgAt) → (key, arg) ∈ owner.args → Report tree
  | .node node, _below => walkFrom node fun inner _after => examine grammar device inner
  | .leaf _, _ => .clear
  | .malformed _, _ => .clear
termination_by (owner.remaining, 0)
decreasing_by
  have := NodeAt.id_lt_of_mem_args _below
  have := inner.isLt
  refine Prod.Lex.left _ _ ?_
  unfold NodeAt.remaining
  omega

end

/-- Walk from a node, and examine each node on the way. -/
def checkNode (grammar : Grammar D) (device : D) (node : tree.NodeAt) : Report tree :=
  walkFrom node fun inner _ => examine grammar device inner

/-- Check the node that an argument is; below a leaf there is nothing. -/
def checkBelow (grammar : Grammar D) (device : D) : tree.ArgAt → Report tree
  | .node node => checkNode grammar device node
  | .leaf _ => .clear
  | .malformed _ => .clear

/-- Check an argument of a node with everything below it. -/
def checkArg (grammar : Grammar D) (device : D) (owner : tree.NodeAt)
    (entry : String × tree.ArgAt) : Report tree :=
  Report.ofStep (checkPairing grammar owner entry.1 entry.2) >>
  askArgRule grammar device owner entry.1 entry.2 >>
  checkBelow grammar device entry.2

theorem examineBelow_eq (grammar : Grammar D) (device : D) (owner : tree.NodeAt) (key : String)
    (arg : tree.ArgAt) (mem : (key, arg) ∈ owner.args) :
    examineBelow grammar device owner key arg mem = checkBelow grammar device arg := by
  cases arg <;> rw [examineBelow] <;> rfl

/-- The examination of some arguments is made of the checks of each. -/
theorem examineArgs_eq (grammar : Grammar D) (device : D) (owner : tree.NodeAt) :
    ∀ (args : List (String × tree.ArgAt)) (below : ∀ entry ∈ args, entry ∈ owner.args),
      examineArgs grammar device owner args below =
        Outcome.sequence (args.map (checkArg grammar device owner))
  | [], _ => by rw [examineArgs]; rfl
  | (key, arg) :: rest, below => by
    -- The three parts of one argument are grouped before those of the rest.
    rw [examineArgs, examineArgs_eq grammar device owner rest, examineBelow_eq,
      ← Report.andThen_assoc (askArgRule grammar device owner key arg), ← Report.andThen_assoc]
    rfl

/-- The examination of a node, without the proofs that its recursion carries. -/
theorem examine_eq (grammar : Grammar D) (device : D) (node : tree.NodeAt) :
    examine grammar device node =
      (Report.event (.entered node) >>
      Report.ofStep (checkBody grammar node) >>
      Report.ofStep (checkKeys grammar node) >>
      Outcome.sequence (node.args.map (checkArg grammar device node)) >>
      askNodeRule grammar device node) := by
  rw [examine, examineArgs_eq]

end Check

/-- Check a whole tree. -/
def check {D : Type} (grammar : Grammar D) (device : D) (tree : Tree) : Report tree :=
  Check.checkNode grammar device tree.root

end SequenceCheck
