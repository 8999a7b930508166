import SequenceCheck.Scope
import SequenceCheck.Proofs.Equality
import SequenceCheck.Proofs.Tree.Ancestry

/-!
# What identifiers refer to

`Declares node label declaration` says that a node opens a scope and that a declaration is the first
one in it with an equal label. An identifier refers to what the nearest node declares, on the way up
from the identifier to the root, that declares anything under its label.

Main statements: a search finds what the nearest such node declares (`search_eq_some_iff`), it finds
nothing exactly if no node on the way up declares anything (`search_eq_none_iff`), and so an
identifier is resolved, or not, as the scopes around it say (`resolve_eq_nearest`).
-/

set_option autoImplicit false

namespace SequenceCheck.Scope

open SequenceCheck.Tree

variable {tree : Tree}

/-! ## Labels and scopes -/

/-- A leaf with a value stands under the argument `label` of a node. -/
def Labelled (node : tree.NodeAt) (label : Value) : Prop :=
  ∃ leaf, node.arg? "label" = some (.leaf leaf) ∧ leaf.value = label

/-- A scope declaration stands under the argument `locals` of a node. -/
def Opens (node scope : tree.NodeAt) : Prop :=
  node.arg? "locals" = some (.node scope) ∧ scope.kind = .scopeDeclaration

/-- A node has a label that is equal to a given one. -/
def Matches (label : Value) (node : tree.NodeAt) : Prop :=
  ∃ own, Labelled node own ∧ own.Equal label

/-- A node opens a scope, and a declaration is the first one in it with a matching label. -/
def Declares (node : tree.NodeAt) (label : Value) (declaration : tree.NodeAt) : Prop :=
  ∃ scope before after, Opens node scope ∧ scope.body = before ++ declaration :: after ∧
    Matches label declaration ∧ ∀ earlier ∈ before, ¬ Matches label earlier

theorem leafValue?_eq_some_iff {node : tree.NodeAt} {label : Value} :
    node.leafValue? "label" = some label ↔ Labelled node label := by
  rw [NodeAt.leafValue?, NodeAt.leafArg?, Option.map_eq_some_iff]
  constructor
  · rintro ⟨leaf, found, value⟩
    obtain ⟨arg, stands, same⟩ := Option.bind_eq_some_iff.1 found
    cases arg with
    | leaf other =>
      obtain rfl : other = leaf := Option.some.inj same
      exact ⟨other, stands, value⟩
    | node child => cases same
    | malformed raw => cases same
  · rintro ⟨leaf, stands, value⟩
    exact ⟨leaf, Option.bind_eq_some_iff.2 ⟨_, stands, rfl⟩, value⟩

theorem nodeArg?_eq_some_iff {node scope : tree.NodeAt} :
    node.nodeArg? "locals" = some scope ↔ node.arg? "locals" = some (.node scope) := by
  rw [NodeAt.nodeArg?, Option.bind_eq_some_iff]
  constructor
  · rintro ⟨arg, stands, same⟩
    cases arg with
    | node child =>
      obtain rfl : child = scope := Option.some.inj same
      exact stands
    | leaf leaf => cases same
    | malformed raw => cases same
  · intro stands
    exact ⟨_, stands, rfl⟩

/-- The comparison of labels finds exactly the nodes that match. -/
theorem hasLabel_iff_matches {label : Value} {node : tree.NodeAt} :
    hasLabel label node = true ↔ Matches label node := by
  constructor
  · intro h
    unfold hasLabel at h
    split at h
    · rename_i own found
      exact ⟨own, leafValue?_eq_some_iff.1 found, Value.same_iff_equal.1 h⟩
    · cases h
  · rintro ⟨own, labelled, equal⟩
    rw [hasLabel, leafValue?_eq_some_iff.2 labelled]
    exact Value.same_iff_equal.2 equal

/-- The search in one scope finds exactly what its node declares. -/
theorem declarationIn?_eq_some_iff {node declaration : tree.NodeAt} {label : Value} :
    declarationIn? node label = some declaration ↔ Declares node label declaration := by
  constructor
  · intro h
    unfold declarationIn? at h
    split at h
    · rename_i scope found
      split at h
      · rename_i kind
        obtain ⟨here, before, after, split, none⟩ := List.find?_eq_some_iff_append.1 h
        refine ⟨scope, before, after, ⟨nodeArg?_eq_some_iff.1 found, kind⟩, split,
          hasLabel_iff_matches.1 here, ?_⟩
        intro earlier mem matching
        have silent := none earlier mem
        rw [hasLabel_iff_matches.2 matching] at silent
        cases silent
      · cases h
    · cases h
  · rintro ⟨scope, before, after, ⟨stands, kind⟩, split, matching, none⟩
    rw [declarationIn?, nodeArg?_eq_some_iff.2 stands]
    refine (if_pos kind).trans (List.find?_eq_some_iff_append.2
      ⟨hasLabel_iff_matches.2 matching, before, after, split, ?_⟩)
    intro earlier mem
    rw [Bool.eq_false_iff.2 (mt hasLabel_iff_matches.1 (none earlier mem))]
    rfl

theorem declarationIn?_eq_none_iff {node : tree.NodeAt} {label : Value} :
    declarationIn? node label = none ↔ ∀ declaration, ¬ Declares node label declaration := by
  rw [Option.eq_none_iff_forall_ne_some]
  simp only [ne_eq, declarationIn?_eq_some_iff]

/-! ## The nearest declaration -/

/-- A search asks the nodes on the way up one after the other. -/
theorem search_eq_findSome? (label : Value) (node : tree.NodeAt) :
    search label node = node.upward.findSome? fun above => declarationIn? above label := by
  induction node using NodeAt.induct_parent with
  | step node ih =>
    rw [search]
    cases here : declarationIn? node label with
    | some declaration =>
      rw [NodeAt.upward, List.findSome?_cons, here]
    | none =>
      -- Nothing is declared here, so the search and the list both go on from the parent.
      dsimp only
      split
      · rename_i parent above
        rw [NodeAt.upward_of_parent above, List.findSome?_cons, here, ih parent above]
      · rename_i top
        rw [NodeAt.upward_of_no_parent top, List.findSome?_cons, here]
        rfl

/-- A search finds what the nearest node declares that declares anything. -/
theorem search_eq_some_iff {label : Value} {node declaration : tree.NodeAt} :
    search label node = some declaration ↔
      ∃ nearer holder farther, node.upward = nearer ++ holder :: farther ∧
        Declares holder label declaration ∧
        ∀ inner ∈ nearer, ∀ other, ¬ Declares inner label other := by
  rw [search_eq_findSome?, List.findSome?_eq_some_iff]
  simp only [declarationIn?_eq_some_iff, declarationIn?_eq_none_iff]

/-- A search finds nothing if no node on the way up declares anything. -/
theorem search_eq_none_iff {label : Value} {node : tree.NodeAt} :
    search label node = none ↔
      ∀ above ∈ node.upward, ∀ declaration, ¬ Declares above label declaration := by
  rw [search_eq_findSome?, List.findSome?_eq_none_iff]
  simp only [declarationIn?_eq_none_iff]

/-! ## References -/

theorem resolve_of_found {reference declaration : tree.NodeAt} {label : Value}
    (labelled : Labelled reference label) (found : search label reference = some declaration) :
    resolve reference = .ok declaration := by
  rw [resolve, leafValue?_eq_some_iff.2 labelled]
  dsimp only
  rw [found]

theorem resolve_of_not_found {reference : tree.NodeAt} {label : Value}
    (labelled : Labelled reference label) (none : search label reference = none) :
    resolve reference = .error ⟨label.display, reference.id⟩ := by
  rw [resolve, leafValue?_eq_some_iff.2 labelled]
  dsimp only
  rw [none]

theorem resolve_of_not_labelled {reference : tree.NodeAt}
    (unlabelled : ∀ label, ¬ Labelled reference label) :
    resolve reference = .error ⟨"", reference.id⟩ := by
  have none : reference.leafValue? "label" = none := by
    apply Option.eq_none_iff_forall_ne_some.2
    intro label found
    exact unlabelled label (leafValue?_eq_some_iff.1 found)
  rw [resolve, none]

/-- There is no label, or a search for the label finds something, or it finds nothing. -/
theorem resolve_cases (reference : tree.NodeAt) :
    (∀ label, ¬ Labelled reference label) ∨
    (∃ label declaration, Labelled reference label ∧ search label reference = some declaration) ∨
    ∃ label, Labelled reference label ∧ search label reference = none := by
  by_cases labelled : ∃ label, Labelled reference label
  · obtain ⟨label, labelled⟩ := labelled
    cases found : search label reference with
    | some declaration => exact .inr (.inl ⟨label, declaration, labelled, found⟩)
    | none => exact .inr (.inr ⟨label, labelled, found⟩)
  · left
    intro label h
    exact labelled ⟨label, h⟩

/-- A reference is resolved to what a search for its label finds. -/
theorem resolve_eq_ok_iff {reference declaration : tree.NodeAt} :
    resolve reference = .ok declaration ↔
      ∃ label, Labelled reference label ∧ search label reference = some declaration := by
  constructor
  · intro h
    rcases resolve_cases reference with none | ⟨label, other, labelled, found⟩ |
      ⟨label, labelled, missing⟩
    · cases h.symm.trans (resolve_of_not_labelled none)
    · cases h.symm.trans (resolve_of_found labelled found)
      exact ⟨label, labelled, found⟩
    · cases h.symm.trans (resolve_of_not_found labelled missing)
  · rintro ⟨label, labelled, found⟩
    exact resolve_of_found labelled found

/-- A reference is not resolved if it has no label, or if a search for its label finds nothing. -/
theorem resolve_eq_error_iff {reference : tree.NodeAt} {unbound : Unbound} :
    resolve reference = .error unbound ↔
      (∀ label, ¬ Labelled reference label) ∧ unbound = ⟨"", reference.id⟩ ∨
      ∃ label, Labelled reference label ∧ search label reference = none ∧
        unbound = ⟨label.display, reference.id⟩ := by
  constructor
  · intro h
    rcases resolve_cases reference with none | ⟨label, other, labelled, found⟩ |
      ⟨label, labelled, missing⟩
    · cases h.symm.trans (resolve_of_not_labelled none)
      exact .inl ⟨none, rfl⟩
    · cases h.symm.trans (resolve_of_found labelled found)
    · cases h.symm.trans (resolve_of_not_found labelled missing)
      exact .inr ⟨label, labelled, missing, rfl⟩
  · rintro (⟨none, rfl⟩ | ⟨label, labelled, missing, rfl⟩)
    · exact resolve_of_not_labelled none
    · exact resolve_of_not_found labelled missing

/-- The node that a declaration's scope belongs to is the only one whose scope has it. -/
theorem eq_of_opens {outline : Outline}
    {holder other scope otherScope declaration : (ofOutline outline).NodeAt}
    (opens : Opens holder scope) (inScope : declaration ∈ scope.body)
    (otherOpens : Opens other otherScope) (inOther : declaration ∈ otherScope.body) :
    holder = other := by
  -- Both the declaration and the scope have one parent.
  have scopes : some scope = some otherScope := by
    rw [← parent_of_mem_children (NodeAt.mem_children_iff.2 (.inr inScope)),
      parent_of_mem_children (NodeAt.mem_children_iff.2 (.inr inOther))]
  obtain rfl := Option.some.inj scopes
  have holders : some holder = some other := by
    rw [← parent_of_mem_children (NodeAt.mem_children_of_arg? opens.1),
      parent_of_mem_children (NodeAt.mem_children_of_arg? otherOpens.1)]
  exact Option.some.inj holders

/-- A reference to a node of the tree of an outline is resolved to the first declaration with an
equal label in the scope of the nearest node, on the way up from the reference to the root, that has
one; otherwise it is unbound, under its label as messages show it. What it is resolved to is held in
no scope but those of nodes that the reference is at or below, and the way up ends at the root. -/
theorem resolve_eq_nearest (outline : Outline) (reference : (ofOutline outline).NodeAt) :
    (∀ declaration, resolve reference = .ok declaration ↔
      ∃ label nearer holder farther, Labelled reference label ∧
        reference.upward = nearer ++ holder :: farther ∧ Declares holder label declaration ∧
        ∀ inner ∈ nearer, ∀ other, ¬ Declares inner label other) ∧
    (∀ unbound, resolve reference = .error unbound ↔
      (∀ label, ¬ Labelled reference label) ∧ unbound = ⟨"", reference.id⟩ ∨
      ∃ label, Labelled reference label ∧
        (∀ above ∈ reference.upward, ∀ declaration, ¬ Declares above label declaration) ∧
        unbound = ⟨label.display, reference.id⟩) ∧
    (∀ declaration, resolve reference = .ok declaration →
      ∀ holder scope, Opens holder scope → declaration ∈ scope.body →
        reference ∈ holder.preorder) ∧
    reference.upward.getLast? = some (ofOutline outline).root ∧
    reference.upward.length ≤ reference.id + 1 := by
  refine ⟨?_, ?_, ?_, getLast?_upward reference, NodeAt.length_upward_le reference⟩
  · intro declaration
    rw [resolve_eq_ok_iff]
    constructor
    · rintro ⟨label, labelled, found⟩
      obtain ⟨nearer, holder, farther, way, declares, silent⟩ := search_eq_some_iff.1 found
      exact ⟨label, nearer, holder, farther, labelled, way, declares, silent⟩
    · rintro ⟨label, nearer, holder, farther, labelled, way, declares, silent⟩
      exact ⟨label, labelled, search_eq_some_iff.2 ⟨nearer, holder, farther, way, declares, silent⟩⟩
  · intro unbound
    rw [resolve_eq_error_iff]
    simp only [search_eq_none_iff]
  · intro declaration resolved holder scope opens mem
    obtain ⟨label, _, found⟩ := resolve_eq_ok_iff.1 resolved
    obtain ⟨nearer, nearest, farther, way, declares, _⟩ := search_eq_some_iff.1 found
    obtain ⟨inner, before, after, itsOpens, split, _⟩ := declares
    have inScope : declaration ∈ inner.body := by
      rw [split]
      exact List.mem_append_right _ List.mem_cons_self
    -- The node whose scope holds the declaration is the one that the search found.
    obtain rfl := eq_of_opens itsOpens inScope opens mem
    apply mem_upward_iff.1
    rw [way]
    exact List.mem_append_right _ List.mem_cons_self

end SequenceCheck.Scope
