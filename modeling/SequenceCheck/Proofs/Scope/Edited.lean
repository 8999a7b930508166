import SequenceCheck.Proofs.Scope.Resolution
import SequenceCheck.Proofs.Tree.Edited
import SequenceCheck.Proofs.Tree.Numbering

/-!
# Identifiers after an edit

An edit of the arguments of a node can leave an identifier before it unresolved in three ways only:
the label of the identifier itself is lost, or the label of the declaration that it was resolved to,
or the scope that the identifier opens itself. A label that is new somewhere may have it resolved to
another declaration, but not to none.

Main statement: a reference up to the edit is resolved after it, or one of the three is lost
(`resolved_or_lost`).
-/

set_option autoImplicit false

namespace SequenceCheck.Scope

open SequenceCheck.Tree Outline

/-- A node declares something under each label that is to be found in its scope. -/
theorem exists_declares {tree : Tree} {node scope child : tree.NodeAt} {label : Value}
    (opens : Opens node scope) (mem : child ∈ scope.body) (matching : Matches label child) :
    ∃ declaration, Declares node label declaration := by
  by_contra none
  have silent := declarationIn?_eq_none_iff.2 (not_exists.1 none)
  rw [declarationIn?, nodeArg?_eq_some_iff.2 opens.1] at silent
  dsimp only at silent
  rw [if_pos opens.2] at silent
  exact List.find?_eq_none.1 silent child mem (hasLabel_iff_matches.2 matching)

section Edited

variable {edit : Outline → Outline} {first : Nat} {lost : String → Prop} {a b : Outline}
  {x : (ofOutline a).NodeAt} {y : (ofOutline b).NodeAt}

theorem labelled_or_lost (across : AcrossAt edit first x y)
    (keeps : x.id = first → KeepsArgs lost x.outline (edit x.outline)) {label : Value}
    (labelled : Labelled x label) : (x.id = first ∧ lost "label") ∨ Labelled y label := by
  obtain ⟨leaf, found, value⟩ := labelled
  rcases across.exists_arg? keeps found with lost | ⟨_, foundOther, same⟩
  · exact .inl lost
  · cases same with
    | leaf equal => exact .inr ⟨_, foundOther, equal.symm.trans value⟩

theorem opens_or_lost (across : AcrossAt edit first x y) (edits : ArgsOnly edit)
    (keeps : x.id = first → KeepsArgs lost x.outline (edit x.outline))
    {scope : (ofOutline a).NodeAt} (opens : Opens x scope) :
    (x.id = first ∧ lost "locals") ∨
      ∃ counterpart, Opens y counterpart ∧ AcrossAt edit first scope counterpart := by
  obtain ⟨found, kind⟩ := opens
  rcases across.exists_arg? keeps found with lost | ⟨_, foundOther, same⟩
  · exact .inl lost
  · cases same with
    | node below =>
      rw [below.kind edits] at kind
      exact .inr ⟨_, ⟨foundOther, kind⟩, below⟩

/-- A reference up to an edit is resolved after it, or its label is lost, or that of the declaration
that it was resolved to, or the scope that it opens. -/
theorem resolved_or_lost (across : AcrossAt edit first x y) (edits : ArgsOnly edit)
    (keeps : ∀ x : (ofOutline a).NodeAt, x.id = first → KeepsArgs lost x.outline (edit x.outline))
    (upward : List.Forall₂ (AcrossAt edit first) x.upward y.upward) (early : x.id ≤ first)
    {declaration : (ofOutline a).NodeAt} (resolved : resolve x = .ok declaration) :
    (∃ counterpart, resolve y = .ok counterpart) ∨
      lost "label" ∧ (x.id = first ∨ declaration.id = first) ∨ lost "locals" ∧ x.id = first := by
  obtain ⟨label, labelled, found⟩ := resolve_eq_ok_iff.1 resolved
  rcases labelled_or_lost across (keeps x) labelled with ⟨here, gone⟩ | labelledOther
  · exact .inr (.inl ⟨gone, .inl here⟩)
  obtain ⟨nearer, holder, farther, way, declares, _⟩ := search_eq_some_iff.1 found
  obtain ⟨scope, before, after, opens, split, matching, _⟩ := declares
  have onWay : holder ∈ x.upward := by
    rw [way]
    exact List.mem_append_cons_self
  have inScope : declaration ∈ scope.body := by
    rw [split]
    exact List.mem_append_cons_self
  obtain ⟨holderOther, onWayOther, holders⟩ := exists_of_forall₂_mem upward onWay
  rcases opens_or_lost holders edits (keeps holder) opens with ⟨here, gone⟩ |
    ⟨scopeOther, opensOther, scopes⟩
  · -- The node that opens the scope is at or above the reference, so it is the reference itself.
    have above := id_le_of_mem_preorder (mem_upward_iff.1 onWay)
    exact .inr (.inr ⟨gone, by omega⟩)
  obtain ⟨declared, inOther, declarations⟩ := exists_of_forall₂_mem (scopes.body edits) inScope
  obtain ⟨own, itsLabel, equal⟩ := matching
  rcases labelled_or_lost declarations (keeps declaration) itsLabel with ⟨here, gone⟩ | itsOther
  · exact .inr (.inl ⟨gone, .inr here⟩)
  -- The search after the edit finds the declaration, unless it finds another one before.
  obtain ⟨nearest, declaresOther⟩ := exists_declares opensOther inOther ⟨own, itsOther, equal⟩
  left
  cases foundOther : search label y with
  | some other => exact ⟨other, resolve_of_found labelledOther foundOther⟩
  | none =>
    exact absurd declaresOther (search_eq_none_iff.1 foundOther holderOther onWayOther nearest)

end Edited

end SequenceCheck.Scope
