import SequenceCheck.Proofs.Check.Failures

/-!
# How a check comes to an offence

`Offends grammar device diagnostic node` traces an offence from the node that is checked down to the
obligation that fails. A node below is only entered after its owner has met the obligations of its
body and its keys and, if the node is an argument, that of the pairing. So what an owner has
admitted may be used, level by level, about the node that an offence comes from.

Main statement: every offence of a check can be traced (`offends_of_offence`).
-/

set_option autoImplicit false

namespace SequenceCheck.Check

open SequenceCheck.Tree

variable {D : Type} {tree : Tree} {grammar : Grammar D} {device : D} {diagnostic : Diagnostic}

/-- A check of a node ends with a diagnostic, for an obligation of the node or of something that is
entered from it. -/
inductive Offends (grammar : Grammar D) (device : D) (diagnostic : Diagnostic) :
    tree.NodeAt → Prop where
  | body {node : tree.NodeAt} :
      Fails grammar device (.body node) diagnostic → Offends grammar device diagnostic node
  | keys {node : tree.NodeAt} :
      Meets grammar device (.body node) → Fails grammar device (.keys node) diagnostic →
      Offends grammar device diagnostic node
  | pairing {node : tree.NodeAt} {key : String} {arg : tree.ArgAt} :
      Meets grammar device (.body node) → Meets grammar device (.keys node) →
      (key, arg) ∈ node.args → Fails grammar device (.pairing node key arg) diagnostic →
      Offends grammar device diagnostic node
  | argRule {node : tree.NodeAt} {key : String} {arg : tree.ArgAt} :
      Meets grammar device (.body node) → Meets grammar device (.keys node) →
      (key, arg) ∈ node.args → Meets grammar device (.pairing node key arg) →
      Fails grammar device (.argRule node key arg) diagnostic →
      Offends grammar device diagnostic node
  /-- The offence comes from an argument that may stand where it does. -/
  | argument {node child : tree.NodeAt} {key : String} :
      Meets grammar device (.body node) → Meets grammar device (.keys node) →
      (key, Arg.node child) ∈ node.args → Meets grammar device (.pairing node key (.node child)) →
      Offends grammar device diagnostic child → Offends grammar device diagnostic node
  | nodeRule {node : tree.NodeAt} :
      Meets grammar device (.body node) → Meets grammar device (.keys node) →
      Fails grammar device (.nodeRule node) diagnostic → Offends grammar device diagnostic node
  /-- The offence comes from a child of the body, which the node allows. -/
  | child {node child : tree.NodeAt} :
      Meets grammar device (.body node) → Meets grammar device (.keys node) →
      child ∈ node.body → Offends grammar device diagnostic child →
      Offends grammar device diagnostic node

/-! ## Offences of lists of obligations -/

/-- The first obligation fails, or it is met and the offence comes later. -/
theorem offence_askAll_cons {obligation : Obligation tree} {rest : List (Obligation tree)}
    (offence : (askAll grammar device (obligation :: rest)).offence = some diagnostic) :
    Fails grammar device obligation diagnostic ∨
      Meets grammar device obligation ∧ (askAll grammar device rest).offence = some diagnostic := by
  rw [askAll_cons, offence_andThen, Option.or_eq_some_iff] at offence
  rcases offence with here | ⟨silent, later⟩
  · exact .inl (offence_ask_eq_some_iff.1 here)
  · exact .inr ⟨offence_ask_eq_none_iff.1 silent, later⟩

/-- The offence of two lists is that of one of them. -/
theorem offence_askAll_append {first second : List (Obligation tree)}
    (offence : (askAll grammar device (first ++ second)).offence = some diagnostic) :
    (askAll grammar device first).offence = some diagnostic ∨
      (askAll grammar device second).offence = some diagnostic := by
  rw [askAll_append, offence_andThen, Option.or_eq_some_iff] at offence
  rcases offence with here | ⟨_, later⟩
  · exact .inl here
  · exact .inr later

/-- The offence of several things is that of one of them. -/
theorem offence_askAll_flatMap {α : Type} {group : α → List (Obligation tree)} {items : List α}
    (offence : (askAll grammar device (items.flatMap group)).offence = some diagnostic) :
    ∃ item ∈ items, (askAll grammar device (group item)).offence = some diagnostic := by
  rw [askAll_flatMap, offence_sequence, List.findSome?_map] at offence
  exact List.exists_of_findSome?_eq_some offence

/-! ## Offences of nodes -/

/-- Every offence of a check can be traced from the node that is checked. -/
theorem offends_of_offence {node : tree.NodeAt}
    (offence : (checkNode grammar device node).offence = some diagnostic) :
    Offends grammar device diagnostic node := by
  induction node using NodeAt.induct_children with
  | step node ih =>
    -- The obligations of the node stand in the order in which they are met, each before what it
    -- opens the way to.
    rw [checkNode_eq_askAll, obligations_eq, List.cons_append, List.cons_append] at offence
    rcases offence_askAll_cons offence with fails | ⟨body, offence⟩
    · exact .body fails
    rcases offence_askAll_cons offence with fails | ⟨keys, offence⟩
    · exact .keys body fails
    rcases offence_askAll_append offence with inArgs | offence
    · obtain ⟨⟨key, arg⟩, mem, offence⟩ := offence_askAll_flatMap inArgs
      rw [argObligations] at offence
      rcases offence_askAll_cons offence with fails | ⟨pairing, offence⟩
      · exact .pairing body keys mem fails
      rcases offence_askAll_cons offence with fails | ⟨_, offence⟩
      · exact .argRule body keys mem pairing fails
      -- What is left of an argument is the node that it is, if it is one.
      cases arg with
      | node child =>
        rw [obligationsBelow, ← checkNode_eq_askAll] at offence
        have below := ih child (NodeAt.mem_children_iff.2 (.inl ⟨key, mem⟩)) offence
        exact .argument body keys mem pairing below
      | leaf leaf => cases offence
      | malformed raw => cases offence
    · rcases offence_askAll_cons offence with fails | ⟨_, offence⟩
      · exact .nodeRule body keys fails
      obtain ⟨child, mem, offence⟩ := offence_askAll_flatMap offence
      rw [← checkNode_eq_askAll] at offence
      exact .child body keys mem (ih child (NodeAt.mem_children_iff.2 (.inr mem)) offence)

end SequenceCheck.Check
