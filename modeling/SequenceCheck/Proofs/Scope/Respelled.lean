import SequenceCheck.Proofs.Scope.Context
import SequenceCheck.Proofs.Tree.Alike

/-!
# Identifiers in trees that look alike

What a reference is resolved to depends on labels only in so far as these are compared. If two trees
look alike, except that one has each label in another spelling and the spellings are equal for equal
labels only, then a reference in one is resolved as a related one is in the other.

Main statements: a reference with a declaration is resolved to a related declaration
(`Respelled.exists_resolve`), and one without is unbound in the other tree too
(`Respelled.exists_unbound`).
-/

set_option autoImplicit false

namespace SequenceCheck.Scope

open SequenceCheck.Tree

variable {one other : Tree}

/-- An unbound reference is named by its label, or by nothing if it has none. -/
theorem unbound_eq_of_resolve {reference : one.NodeAt} {unbound : Unbound}
    (unresolved : resolve reference = .error unbound) :
    unbound = ⟨(reference.leafValue? "label").elim "" Value.display, reference.id⟩ := by
  rcases resolve_eq_error_iff.1 unresolved with ⟨none, rfl⟩ | ⟨label, labelled, _, rfl⟩
  · cases found : reference.leafValue? "label" with
    | none => rfl
    | some label => exact absurd (leafValue?_eq_some_iff.1 found) (none label)
  · rw [leafValue?_eq_some_iff.2 labelled]
    rfl

/-- Two trees look alike, and a label of a node in one tree is spelled otherwise at related nodes of
the other. Labels are equal in the one spelling if they are equal in the other. -/
structure Respelled (node : one.NodeAt → other.NodeAt → Prop)
    (leaf : one.LeafAt → other.LeafAt → Prop) (spell : Value → Value) : Prop
    extends Tree.Alike node leaf where
  label : ∀ {x y}, node x y → y.leafValue? "label" = (x.leafValue? "label").map spell
  same_spell : ∀ a b, (spell a).same (spell b) = a.same b

namespace Respelled

variable {node : one.NodeAt → other.NodeAt → Prop} {leaf : one.LeafAt → other.LeafAt → Prop}
  {spell : Value → Value} {x : one.NodeAt} {y : other.NodeAt}

theorem hasLabel_eq (respelled : Respelled node leaf spell) (related : node x y) (label : Value) :
    hasLabel label x = hasLabel (spell label) y := by
  rw [hasLabel, hasLabel, respelled.label related]
  cases x.leafValue? "label" with
  | none => rfl
  | some own => exact (respelled.same_spell own label).symm

/-- Related nodes declare related nodes under a label, or nothing. -/
theorem declarationIn? (respelled : Respelled node leaf spell) (related : node x y)
    (label : Value) :
    Option.Rel node (Scope.declarationIn? x label) (Scope.declarationIn? y (spell label)) := by
  unfold Scope.declarationIn?
  have scopes := respelled.nodeArg? related "locals"
  generalize x.nodeArg? "locals" = scope at scopes
  generalize y.nodeArg? "locals" = counterpart at scopes
  cases scopes with
  | none => exact .none
  | some same =>
    dsimp only
    rw [respelled.kind same]
    split
    · apply find?_of_forall₂ (respelled.body same)
      intro a b both
      exact respelled.hasLabel_eq both label
    · exact .none

/-- Searches for a label in its two spellings from related nodes find related nodes, or nothing. -/
theorem search (respelled : Respelled node leaf spell) (related : node x y) (label : Value) :
    Option.Rel node (Scope.search label x) (Scope.search (spell label) y) := by
  induction x using NodeAt.induct_parent generalizing y with
  | step x ih =>
    rw [search_eq label x, search_eq (spell label) y]
    have here := respelled.declarationIn? related label
    have above := respelled.parent related
    generalize Scope.declarationIn? x label = found at here
    generalize Scope.declarationIn? y (spell label) = counterpart at here
    cases here with
    | some same => exact .some same
    | none =>
      -- Nothing is declared at either node, and both searches go on from the parents.
      cases inOne : x.parent with
      | none =>
        rw [inOne] at above
        generalize y.parent = top at above
        cases above
        exact .none
      | some parent =>
        rw [inOne] at above
        generalize y.parent = top at above
        cases above with
        | some same => exact ih parent inOne same

/-- A reference that has a declaration has a related one in the other tree. -/
theorem exists_resolve (respelled : Respelled node leaf spell) (related : node x y)
    {declaration : one.NodeAt} (resolved : resolve x = .ok declaration) :
    ∃ counterpart, resolve y = .ok counterpart ∧ node declaration counterpart := by
  obtain ⟨label, labelled, found⟩ := resolve_eq_ok_iff.1 resolved
  have searched := respelled.search related label
  rw [found] at searched
  have spelled : Labelled y (spell label) := by
    apply leafValue?_eq_some_iff.1
    rw [respelled.label related, leafValue?_eq_some_iff.2 labelled]
    rfl
  cases inOther : Scope.search (spell label) y with
  | none =>
    rw [inOther] at searched
    cases searched
  | some counterpart =>
    rw [inOther] at searched
    cases searched with
    | some same => exact ⟨counterpart, resolve_of_found spelled inOther, same⟩

/-- A reference that is unbound is unbound in the other tree. -/
theorem exists_unbound (respelled : Respelled node leaf spell) (related : node x y)
    {unbound : Unbound} (unresolved : resolve x = .error unbound) :
    ∃ counterpart, resolve y = .error counterpart := by
  rcases resolve_eq_error_iff.1 unresolved with ⟨none, _⟩ | ⟨label, labelled, missing, _⟩
  · refine ⟨_, resolve_of_not_labelled ?_⟩
    intro label spelled
    have found := leafValue?_eq_some_iff.2 spelled
    rw [respelled.label related] at found
    obtain ⟨own, labelled, _⟩ := Option.map_eq_some_iff.1 found
    exact none own (leafValue?_eq_some_iff.1 labelled)
  · have spelled : Labelled y (spell label) := by
      apply leafValue?_eq_some_iff.1
      rw [respelled.label related, leafValue?_eq_some_iff.2 labelled]
      rfl
    have searched := respelled.search related label
    rw [missing] at searched
    refine ⟨_, resolve_of_not_found spelled ?_⟩
    generalize Scope.search (spell label) y = found at searched
    cases searched
    rfl

end Respelled

end SequenceCheck.Scope
