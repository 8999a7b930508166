import Mathlib.Logic.Equiv.Basic
import SequenceCheck.Proofs.Check.InStep
import SequenceCheck.Proofs.Check.Rearranged
import SequenceCheck.Proofs.Tree.SameLayout

/-!
# Renamed labels

Labels are renamed consistently if no two texts get the same name. Labels are only compared with
each other, and so references keep their declarations; a check asks the same questions, and shows a
label only where it says that an identifier is unbound.

Main statement: renaming all labels of an outline changes neither what references are resolved to
nor the answer of a check, but for the name of an unbound identifier (`check_relabelled`).
-/

set_option autoImplicit false

namespace SequenceCheck.Check

open SequenceCheck.Tree

/-- What is said of a tree and what is said of it after labels are renamed: the same, except that an
unbound identifier whose label is a text is named by its new label. -/
inductive Relabelled (rename : String → String) (tree : Tree) : Diagnostic → Diagnostic → Prop where
  | same {diagnostic : Diagnostic} :
      (∀ (node : tree.NodeAt) (text : String), Scope.Labelled node (.string text) →
        diagnostic.fault = .unboundVariable → diagnostic.node ≠ some node.id) →
      Relabelled rename tree diagnostic diagnostic
  | unbound {node : tree.NodeAt} {text : String} :
      Scope.Labelled node (.string text) →
      Relabelled rename tree ((Diagnostic.unboundVariable text).located node.id)
        ((Diagnostic.unboundVariable (rename text)).located node.id)

section Layout

variable {rename : String → String} {outline : Outline} {copy : Tree}

/-- In the tree with renamed labels, references are resolved as in the original. -/
theorem respelled_of_layout (injective : Function.Injective rename)
    (layout : SameLayout (Value.relabelled rename) (ofOutline outline) copy) :
    Scope.Respelled (@SameNumber (ofOutline outline) copy) SameLeafNumber
      (Value.respelled rename) where
  toAlike := layout.alike
  label number := layout.leafValue? number "label"
  same_spell := Value.same_respelled injective

/-- In the tree with renamed labels, a check asks the same questions in the same order. -/
theorem inStep_of_layout (injective : Function.Injective rename)
    (layout : SameLayout (Value.relabelled rename) (ofOutline outline) copy) :
    InStep (@SameNumber (ofOutline outline) copy) SameLeafNumber :=
  inStep_of_sameLayout layout (respelled_of_layout injective layout) (Value.type_relabelled rename)

/-- What is said of an unbound reference stays if its label is no text. -/
theorem relabelled_of_no_text {tree : Tree} {reference : tree.NodeAt} {name : String}
    (noText : ∀ text, reference.leafValue? "label" ≠ some (.string text)) :
    Relabelled rename tree ((Diagnostic.unboundVariable name).located reference.id)
      ((Diagnostic.unboundVariable name).located reference.id) := by
  apply Relabelled.same
  intro node text labelled _ located
  obtain rfl : reference = node := NodeAt.ext (Option.some.inj located)
  exact noText text (Scope.leafValue?_eq_some_iff.2 labelled)

/-- What a check repeats in the tree with renamed labels is what it said, but for the name of an
unbound identifier. -/
theorem relabelled_of_repeats
    (layout : SameLayout (Value.relabelled rename) (ofOutline outline) copy)
    {first second : Diagnostic}
    (repeats : Repeats (@SameNumber (ofOutline outline) copy) first second) :
    Relabelled rename (ofOutline outline) first second := by
  cases repeats with
  | same bound => exact .same fun _ _ _ fault => absurd fault bound
  | @unbound x y unbound counterpart number unresolved answer =>
    have number : y.id = x.id := number.symm
    obtain rfl := Scope.unbound_eq_of_resolve unresolved
    obtain rfl := Scope.unbound_eq_of_resolve answer
    rw [Scope.Unbound.diagnostic, Scope.Unbound.diagnostic, number, layout.leafValue? number.symm]
    cases labelled : x.leafValue? "label" with
    | none =>
      apply relabelled_of_no_text
      intro text found
      cases labelled.symm.trans found
    | some label =>
      cases label with
      | string text => exact .unbound (Scope.leafValue?_eq_some_iff.1 labelled)
      | _ =>
        apply relabelled_of_no_text
        intro text found
        cases labelled.symm.trans found

end Layout

/-- If labels are renamed consistently, then without rules every reference keeps its declaration, or
stays without one, and a check passes as before, or ends with the same diagnostic but for the name
of an unbound identifier. -/
theorem check_relabelled {D : Type} {grammar : Grammar D} {rename : String → String}
    (injective : Function.Injective rename) (bare : grammar.Ruleless) (device : D)
    (outline : Outline) :
    (ofOutline (outline.relabelled rename)).nodeCount = (ofOutline outline).nodeCount ∧
    (∀ (x : (ofOutline outline).NodeAt) (y : (ofOutline (outline.relabelled rename)).NodeAt),
      x.id = y.id →
        (Scope.resolve x).toOption.map NodeAt.id = (Scope.resolve y).toOption.map NodeAt.id) ∧
    Option.Rel (Relabelled rename (ofOutline outline))
      (check grammar device (ofOutline outline)).offence
      (check grammar device (ofOutline (outline.relabelled rename))).offence := by
  have layout : SameLayout (Value.relabelled rename) (ofOutline outline)
      (ofOutline (outline.relabelled rename)) := sameLayout_rewritten _ _ outline
  have respelled := respelled_of_layout injective layout
  refine ⟨layout.nodeCount_eq.symm, ?resolved, ?checked⟩
  case resolved =>
    intro x y number
    cases resolved : Scope.resolve x with
    | ok declaration =>
      obtain ⟨counterpart, answer, same⟩ := respelled.exists_resolve number resolved
      rw [answer]
      exact congrArg some same
    | error unbound =>
      obtain ⟨counterpart, answer⟩ := respelled.exists_unbound number resolved
      rw [answer]
      rfl
  case checked =>
    apply rel_of_rel _ fun _ _ _ _ => relabelled_of_repeats layout
    apply rel_offence_checkNode (inStep_of_layout injective layout) bare
    · intro x y unbound number unresolved
      exact respelled.exists_unbound number unresolved
    · rfl

/-- With two names swapped, a reference is resolved as before. -/
theorem check_relabelled_scopeFirst :
    Function.Injective (Equiv.swap "spot" "home") ∧ assignmentGrammar.Ruleless ∧
    ∃ reference : (ofOutline (scopeFirst.relabelled (Equiv.swap "spot" "home"))).NodeAt,
      reference.id = 3 ∧ (Scope.resolve reference).toOption.map NodeAt.id = some 2 := by
  have injective := (Equiv.swap "spot" "home").injective
  obtain ⟨count, resolved, _⟩ :=
    check_relabelled injective ruleless_assignmentGrammar () scopeFirst
  have inRange : 3 < (ofOutline (scopeFirst.relabelled (Equiv.swap "spot" "home"))).nodeCount := by
    rw [count]
    decide
  have same := resolved (scopeFirstNode 3 (by decide)) ⟨3, inRange⟩ rfl
  rw [resolve_scopeFirst] at same
  exact ⟨injective, ruleless_assignmentGrammar, ⟨3, inRange⟩, rfl, same.symm⟩

end SequenceCheck.Check
