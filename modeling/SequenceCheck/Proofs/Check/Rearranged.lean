import SequenceCheck.Proofs.Check.Alike
import SequenceCheck.Proofs.Check.Context
import SequenceCheck.Proofs.Tree.Counterparts

/-!
# The order of arguments

If two outlines differ in the order of arguments only, and no key comes twice, then their trees
number the same nodes differently, and a check may come upon another offence first. But without
rules it passes for both or for neither, and what an identifier refers to is the same node.

Main statement: validity and resolution do not depend on the order of arguments
(`check_rearranged`).
-/

set_option autoImplicit false

namespace SequenceCheck.Check

open SequenceCheck.Tree

section SameLeaf

variable {one other : Tree} {node : one.NodeAt → other.NodeAt → Prop}

/-- Where related leaves are the same, labels are spelled in one way. -/
theorem respelled_of_sameLeaf (alike : Tree.Alike node SameLeaf) :
    Scope.Respelled node SameLeaf id where
  toAlike := alike
  label related := by
    rw [NodeAt.leafValue?, NodeAt.leafValue?, Option.map_id]
    symm
    apply map_eq_map_of_rel (alike.leafArg? related "label")
    intro l _ m same
    exact same.2
  same_spell _ _ := rfl

/-- Where related leaves are the same, obligations ask the same of them. -/
theorem askedAlike_of_sameLeaf (alike : Tree.Alike node SameLeaf) : AskedAlike node SameLeaf := by
  apply askedAlike_of_respelled (respelled_of_sameLeaf alike)
  · intro l m same
    exact same.1
  · intro l m same
    exact congrArg Value.type same.2

end SameLeaf

section Counterparts

variable {D : Type} {grammar : Grammar D} {device : D} {a b : Outline}

/-- The counterpart of a reference is resolved to the counterpart of what it is resolved to. -/
theorem resolve_counterpart
    (alike : Tree.Alike (@Counterparts (ofOutline a) (ofOutline b)) SameLeaf)
    {x d : (ofOutline a).NodeAt} {y e : (ofOutline b).NodeAt} (references : Counterparts x y)
    (declarations : Counterparts d e) (resolved : Scope.resolve x = .ok d) :
    Scope.resolve y = .ok e := by
  obtain ⟨found, answer, counterparts⟩ :=
    (respelled_of_sameLeaf alike).exists_resolve references resolved
  rw [answer, declarations.unique counterparts]

/-- If counterparts look alike and all nodes have one, a check that passes for the one tree passes
for the other. -/
theorem passes_of_counterparts
    (alike : Tree.Alike (@Counterparts (ofOutline a) (ofOutline b)) SameLeaf)
    (bare : grammar.Ruleless)
    (covered : ∀ y : (ofOutline b).NodeAt, ∃! x : (ofOutline a).NodeAt, Counterparts y x)
    (distinct : b.KeysDistinct) (passes : (check grammar device (ofOutline a)).offence = none) :
    (check grammar device (ofOutline b)).offence = none := by
  apply passes_of_rel (askedAlike_of_sameLeaf alike) bare _ (NodeAt.nodup_argKeys distinct) passes
  intro y
  obtain ⟨x, counterparts, _⟩ := covered y
  exact ⟨x, counterparts.symm⟩

/-- If two outlines differ in the order of arguments only, and no key comes twice, then without
rules a check passes for both or for neither. Every node has exactly one counterpart in the other
tree, and the counterpart of a reference is resolved to the counterpart of its declaration. -/
theorem check_rearranged (bare : grammar.Ruleless) (device : D) (rearranged : a.Rearranged b)
    (distinct : a.KeysDistinct) (distinctOther : b.KeysDistinct) :
    ((check grammar device (ofOutline a)).offence = none ↔
      (check grammar device (ofOutline b)).offence = none) ∧
    (∀ x : (ofOutline a).NodeAt, ∃! y : (ofOutline b).NodeAt, Counterparts x y) ∧
    (∀ y : (ofOutline b).NodeAt, ∃! x : (ofOutline a).NodeAt, Counterparts x y) ∧
    ∀ (x : (ofOutline a).NodeAt) (y : (ofOutline b).NodeAt), Counterparts x y →
      ∀ (d : (ofOutline a).NodeAt) (e : (ofOutline b).NodeAt), Counterparts d e →
        (Scope.resolve x = .ok d ↔ Scope.resolve y = .ok e) := by
  -- The trees look alike in either direction, and what holds of one direction gives both.
  have forth := alike_counterparts rearranged distinct
  have back := forth.flip
  rw [flip_counterparts, flip_sameLeaf] at back
  have covered := existsUnique_counterpart forth distinct
  have coveredBack := existsUnique_counterpart back distinctOther
  refine ⟨⟨?passes, ?passesBack⟩, covered, ?unique, ?resolved⟩
  case passes => exact passes_of_counterparts forth bare coveredBack distinctOther
  case passesBack => exact passes_of_counterparts back bare covered distinct
  case unique =>
    intro y
    obtain ⟨x, counterparts, only⟩ := coveredBack y
    exact ⟨x, counterparts.symm, fun other also => only other also.symm⟩
  case resolved =>
    intro x y references d e declarations
    constructor
    · exact resolve_counterpart forth references declarations
    · exact resolve_counterpart back references.symm declarations.symm

end Counterparts

/-! ## A scope before and after what refers to it -/

/-- A scope with one variable. -/
def spotScope : Outline :=
  ⟨.scopeDeclaration, [],
    [⟨.variableDeclaration, [("label", .leaf (.string "spot"))], [], none⟩], none⟩

/-- A sequence with a scope, and after it a reference to its variable. -/
def scopeFirst : Outline :=
  ⟨.sequence, [("locals", .node spotScope), ("data_value", .node (Scope.identifier "spot"))], [],
    none⟩

/-- The same sequence with the reference before the scope. -/
def scopeLast : Outline :=
  ⟨.sequence, [("data_value", .node (Scope.identifier "spot")), ("locals", .node spotScope)], [],
    none⟩

theorem keysDistinct_identifier : (Scope.identifier "spot").KeysDistinct := by
  refine .node (by decide) ?_ ?_
  · simp [Scope.identifier]
  · simp [Scope.identifier]

theorem keysDistinct_spotScope : spotScope.KeysDistinct := by
  refine .node (by decide) ?_ ?_
  · simp [spotScope]
  · intro child mem
    rw [List.mem_singleton.1 mem]
    refine .node (by decide) ?_ ?_
    · simp
    · simp

/-- In either order the two arguments have keys of their own. -/
theorem keysDistinct_of_perm {args : List (String × Arg Outline Value)}
    (perm : scopeFirst.args.Perm args) :
    Outline.KeysDistinct ⟨.sequence, args, [], none⟩ := by
  have nodup : (Keyed.keys scopeFirst.args).Nodup := by decide
  refine .node ((perm.map Prod.fst).nodup nodup) ?_ ?_
  · intro key inner mem
    rcases List.mem_pair.1 (perm.mem_iff.2 mem) with scope | reference
    · cases scope
      exact keysDistinct_spotScope
    · cases reference
      exact keysDistinct_identifier
  · simp

/-- The nodes of the tree with the scope first: the sequence, the scope, the variable and the
reference. -/
def scopeFirstNode (id : Nat) (inRange : id < 4) : (ofOutline scopeFirst).NodeAt :=
  ⟨id, inRange⟩

/-- The nodes of the tree with the scope last: the sequence, the reference, the scope and the
variable. -/
def scopeLastNode (id : Nat) (inRange : id < 4) : (ofOutline scopeLast).NodeAt :=
  ⟨id, inRange⟩

theorem resolve_scopeFirst :
    Scope.resolve (scopeFirstNode 3 (by decide)) = .ok (scopeFirstNode 2 (by decide)) := by
  apply Scope.resolve_of_found (Scope.leafValue?_eq_some_iff.1 rfl)
  rw [Scope.search_eq]
  change (none : Option (ofOutline scopeFirst).NodeAt).or
    (Scope.search _ (ofOutline scopeFirst).root) = _
  rw [Scope.search_eq]
  rfl

/-- Before the scope or after it, the reference is resolved to the variable of the scope, and the
check gives one verdict. -/
theorem check_rearranged_scopeFirst :
    ((check assignmentGrammar () (ofOutline scopeFirst)).offence = none ↔
      (check assignmentGrammar () (ofOutline scopeLast)).offence = none) ∧
    Scope.resolve (scopeLastNode 1 (by decide)) = .ok (scopeLastNode 3 (by decide)) := by
  have swapped : scopeFirst.args.Perm scopeLast.args := List.Perm.swap _ _ _
  obtain ⟨verdict, _, _, resolved⟩ := check_rearranged ruleless_assignmentGrammar ()
    (.of_perm swapped) (keysDistinct_of_perm (.refl _)) (keysDistinct_of_perm swapped)
  have references : Counterparts (scopeFirstNode 3 (by decide)) (scopeLastNode 1 (by decide)) :=
    .down (.arg "data_value") .root rfl rfl
  have scopes : Counterparts (scopeFirstNode 1 (by decide)) (scopeLastNode 2 (by decide)) :=
    .down (.arg "locals") .root rfl rfl
  have declared : Counterparts (scopeFirstNode 2 (by decide)) (scopeLastNode 3 (by decide)) :=
    .down (.child 0) scopes rfl rfl
  exact ⟨verdict, (resolved _ _ references _ _ declared).1 resolve_scopeFirst⟩

end SequenceCheck.Check
