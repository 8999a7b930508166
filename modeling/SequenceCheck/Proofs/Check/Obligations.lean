import SequenceCheck.Check.Descent
import SequenceCheck.Proofs.Tree.Visits
import SequenceCheck.Proofs.Tree.Preorder

/-!
# The obligations of a check

A node has to meet obligations: its body, its argument keys, the pairing and the rule of each of its
arguments, and the rule of its kind. `obligations node` lists those of a node and of everything
below it, by recursion over the tree and without regard to how a check moves through it.

Main statements: a check asks about these obligations one after the other
(`checkNode_eq_askAll`), it ends with the offence of the first one that gives any
(`offence_checkNode_eq_some_iff`), and the obligations listed for a node are those that it and the
nodes below it have of their own (`mem_obligations_iff`).
-/

set_option autoImplicit false

namespace SequenceCheck.Check

open SequenceCheck.Tree

variable {D : Type} {tree : Tree}

/-- What has to be so at a node or at an argument of one. -/
inductive Obligation (tree : Tree) where
  /-- The children in the body of a node are of kinds that may stand there. -/
  | body (node : tree.NodeAt)
  /-- The argument keys of a node are the required ones. -/
  | keys (node : tree.NodeAt)
  /-- An argument of a node may stand under its key. -/
  | pairing (owner : tree.NodeAt) (key : String) (arg : tree.ArgAt)
  /-- The rule of a key accepts an argument. -/
  | argRule (owner : tree.NodeAt) (key : String) (arg : tree.ArgAt)
  /-- The rule of its kind accepts a node. -/
  | nodeRule (node : tree.NodeAt)

/-! ## Lists of obligations -/

/-- The obligations of a node and of everything below it, in order: its body, its keys, then for
each argument its pairing, its rule and everything below it, then the rule of the node, then
everything below each child of the body. -/
def obligations (node : tree.NodeAt) : List (Obligation tree) :=
  .body node :: .keys node ::
    (node.args.attach.flatMap fun
      | ⟨(key, .node child), _below⟩ =>
        .pairing node key (.node child) :: .argRule node key (.node child) :: obligations child
      | ⟨(key, .leaf leaf), _⟩ => [.pairing node key (.leaf leaf), .argRule node key (.leaf leaf)]
      | ⟨(key, .malformed raw), _⟩ =>
        [.pairing node key (.malformed raw), .argRule node key (.malformed raw)]) ++
    .nodeRule node :: node.body.attach.flatMap fun ⟨child, _below⟩ => obligations child
termination_by node.remaining
decreasing_by
  · exact NodeAt.remaining_lt_of_mem_args _below
  · exact NodeAt.remaining_lt_of_mem_body _below

/-- The obligations of everything below an argument. -/
def obligationsBelow : tree.ArgAt → List (Obligation tree)
  | .node child => obligations child
  | .leaf _ => []
  | .malformed _ => []

/-- The obligations of an argument of a node and of everything below it. -/
def argObligations (owner : tree.NodeAt) (entry : String × tree.ArgAt) : List (Obligation tree) :=
  .pairing owner entry.1 entry.2 :: .argRule owner entry.1 entry.2 :: obligationsBelow entry.2

/-- The obligations of a node are made of those of its arguments and of its body. -/
theorem obligations_eq (node : tree.NodeAt) :
    obligations node =
      .body node :: .keys node ::
        node.args.flatMap (argObligations node) ++
        .nodeRule node :: node.body.flatMap obligations := by
  rw [obligations, List.flatMap_subtype (g := argObligations node),
    List.flatMap_subtype (g := obligations), List.unattach_attach, List.unattach_attach]
  · intro child below
    rfl
  · rintro ⟨key, arg⟩ below
    cases arg <;> rfl

/-! ## Asking about obligations in turn -/

/-- What a check does about an obligation. It enters a node when it looks at its body. -/
def ask (grammar : Grammar D) (device : D) : Obligation tree → Report tree
  | .body node => Report.event (.entered node) >> Report.ofStep (checkBody grammar node)
  | .keys node => Report.ofStep (checkKeys grammar node)
  | .pairing owner key arg => Report.ofStep (checkPairing grammar owner key arg)
  | .argRule owner key arg => askArgRule grammar device owner key arg
  | .nodeRule node => askNodeRule grammar device node

/-- What a check does about some obligations in turn. -/
def askAll (grammar : Grammar D) (device : D) (obligations : List (Obligation tree)) :
    Report tree :=
  Outcome.sequence (obligations.map (ask grammar device))

section

variable (grammar : Grammar D) (device : D)

theorem askAll_cons (obligation : Obligation tree) (rest : List (Obligation tree)) :
    askAll grammar device (obligation :: rest) =
      (ask grammar device obligation >> askAll grammar device rest) :=
  rfl

theorem askAll_append (first second : List (Obligation tree)) :
    askAll grammar device (first ++ second) =
      (askAll grammar device first >> askAll grammar device second) := by
  rw [askAll, List.map_append, Outcome.sequence_append]
  rfl

/-- Obligations of several things are asked about one thing after the other. -/
theorem askAll_flatMap {α : Type} (group : α → List (Obligation tree)) (items : List α) :
    askAll grammar device (items.flatMap group) =
      Outcome.sequence (items.map fun item => askAll grammar device (group item)) :=
  Outcome.sequence_map_flatMap _ _ _

/-- A check from a node examines the node, and then checks from each child of its body. -/
theorem checkNode_eq (node : tree.NodeAt) :
    checkNode grammar device node =
      (examine grammar device node >>
        Outcome.sequence (node.body.map (checkNode grammar device))) :=
  walkFrom_eq (examine grammar device) node

/-- A check from a node asks about the obligations of the node and of everything below it. -/
theorem checkNode_eq_askAll (node : tree.NodeAt) :
    checkNode grammar device node = askAll grammar device (obligations node) := by
  induction node using NodeAt.induct_children with
  | step node ih =>
    have arg : ∀ entry ∈ node.args,
        checkArg grammar device node entry = askAll grammar device (argObligations node entry) := by
      rintro ⟨key, arg⟩ mem
      -- Only a node has anything below it, and of that the induction hypothesis speaks.
      have below :
          checkBelow grammar device arg = askAll grammar device (obligationsBelow arg) := by
        cases arg with
        | node child => exact ih child (NodeAt.mem_children_iff.2 (.inl ⟨key, mem⟩))
        | leaf leaf => rfl
        | malformed raw => rfl
      rw [checkArg, below]
      rfl
    have body : node.body.map (checkNode grammar device) =
        node.body.map fun child => askAll grammar device (obligations child) := by
      apply List.map_congr_left
      intro child mem
      exact ih child (NodeAt.mem_children_iff.2 (.inr mem))
    -- Both sides name the same parts in the same order, and differ in how these are grouped.
    rw [checkNode_eq, examine_eq, List.map_congr_left arg, body, obligations_eq, askAll_append,
      askAll_cons, askAll_cons, askAll_cons, askAll_flatMap, askAll_flatMap, ask, ask, ask]
    simp only [Report.andThen_assoc]

end

/-! ## Obligations that put an end to a check -/

/-- The offence of two parts is that of the first, if it has any. -/
theorem offence_andThen (first second : Report tree) :
    (first >> second).offence = first.offence.or second.offence := by
  cases h : first.offence with
  | some diagnostic =>
    rw [Report.andThen_of_offence second h, h]
    rfl
  | none =>
    rw [Report.andThen_of_clear second h]
    rfl

/-- The offence of some parts is that of the first one that has any. -/
theorem offence_sequence (parts : List (Report tree)) :
    (Outcome.sequence parts).offence = parts.findSome? Report.offence := by
  induction parts with
  | nil => rfl
  | cons part rest ih =>
    rw [Outcome.sequence_cons, offence_andThen, ih, List.findSome?_cons]
    cases part.offence <;> rfl

variable {grammar : Grammar D} {device : D}

/-- A check passes if none of the obligations gives an offence. -/
theorem offence_checkNode_eq_none_iff (node : tree.NodeAt) :
    (checkNode grammar device node).offence = none ↔
      ∀ obligation ∈ obligations node, (ask grammar device obligation).offence = none := by
  rw [checkNode_eq_askAll, askAll, offence_sequence, List.findSome?_map]
  exact List.findSome?_eq_none_iff

/-- A check ends with the offence of the first obligation that gives any. -/
theorem offence_checkNode_eq_some_iff (node : tree.NodeAt) (diagnostic : Diagnostic) :
    (checkNode grammar device node).offence = some diagnostic ↔
      ∃ before obligation after, obligations node = before ++ obligation :: after ∧
        (ask grammar device obligation).offence = some diagnostic ∧
        ∀ earlier ∈ before, (ask grammar device earlier).offence = none := by
  rw [checkNode_eq_askAll, askAll, offence_sequence, List.findSome?_map]
  exact List.findSome?_eq_some_iff

/-! ## The nodes that have an obligation -/

/-- An obligation is one that a node has of its own. -/
inductive Obligation.Of (node : tree.NodeAt) : Obligation tree → Prop where
  | body : Of node (.body node)
  | keys : Of node (.keys node)
  | pairing {key : String} {arg : tree.ArgAt} :
      (key, arg) ∈ node.args → Of node (.pairing node key arg)
  | argRule {key : String} {arg : tree.ArgAt} :
      (key, arg) ∈ node.args → Of node (.argRule node key arg)
  | nodeRule : Of node (.nodeRule node)

/-- The obligations of a node and of everything below a child are among those of the node. -/
theorem mem_obligations_cases {node : tree.NodeAt} {obligation : Obligation tree} :
    obligation ∈ obligations node ↔
      obligation.Of node ∨ ∃ child ∈ node.children, obligation ∈ obligations child := by
  rw [obligations_eq]
  simp only [List.cons_append, List.mem_cons, List.mem_append, List.mem_flatMap, argObligations]
  constructor
  · rintro (rfl | rfl | ⟨⟨key, arg⟩, mem, rfl | rfl | below⟩ | rfl | ⟨child, mem, below⟩)
    · exact .inl .body
    · exact .inl .keys
    · exact .inl (.pairing mem)
    · exact .inl (.argRule mem)
    · cases arg with
      | node child => exact .inr ⟨child, NodeAt.mem_children_iff.2 (.inl ⟨key, mem⟩), below⟩
      | leaf leaf => exact absurd below List.not_mem_nil
      | malformed raw => exact absurd below List.not_mem_nil
    · exact .inl .nodeRule
    · exact .inr ⟨child, NodeAt.mem_children_iff.2 (.inr mem), below⟩
  · rintro (own | ⟨child, mem, below⟩)
    · cases own with
      | body => exact .inl rfl
      | keys => exact .inr (.inl rfl)
      | pairing mem => exact .inr (.inr (.inl ⟨_, mem, .inl rfl⟩))
      | argRule mem => exact .inr (.inr (.inl ⟨_, mem, .inr (.inl rfl)⟩))
      | nodeRule => exact .inr (.inr (.inr (.inl rfl)))
    · rcases NodeAt.mem_children_iff.1 mem with ⟨key, inArgs⟩ | inBody
      · exact .inr (.inr (.inl ⟨_, inArgs, .inr (.inr below)⟩))
      · exact .inr (.inr (.inr (.inr ⟨child, inBody, below⟩)))

/-- The obligations listed for a node are those that it and the nodes below it have of their own. -/
theorem mem_obligations_iff {node : tree.NodeAt} {obligation : Obligation tree} :
    obligation ∈ obligations node ↔ ∃ inner ∈ node.preorder, obligation.Of inner := by
  induction node using NodeAt.induct_children with
  | step node ih =>
    rw [mem_obligations_cases]
    constructor
    · rintro (own | ⟨child, mem, below⟩)
      · exact ⟨node, NodeAt.mem_preorder_self node, own⟩
      · obtain ⟨inner, inChild, own⟩ := (ih child mem).1 below
        exact ⟨inner, NodeAt.mem_preorder_iff.2 (.inr ⟨child, mem, inChild⟩), own⟩
    · rintro ⟨inner, mem, own⟩
      rcases NodeAt.mem_preorder_iff.1 mem with rfl | ⟨child, inChildren, inChild⟩
      · exact .inl own
      · exact .inr ⟨child, inChildren, (ih child inChildren).2 ⟨inner, inChild, own⟩⟩

/-- Wherever an obligation stands among those of a node, some node has it of its own. -/
theorem exists_of_split {node : tree.NodeAt} {obligation : Obligation tree}
    {before after : List (Obligation tree)}
    (split : obligations node = before ++ obligation :: after) : ∃ inner, obligation.Of inner := by
  have listed : obligation ∈ obligations node := by
    rw [split]
    exact List.mem_append_cons_self
  obtain ⟨inner, _, own⟩ := mem_obligations_iff.1 listed
  exact ⟨inner, own⟩

end SequenceCheck.Check
