import SequenceCheck.Proofs.Scope.Resolution
import SequenceCheck.Proofs.Tree.Embedding

/-!
# Identifiers in context

What an identifier refers to does not depend on what stands around the nearest scope that declares
its label. A search in an embedded tree first does what it does in the tree alone, and only if that
finds nothing goes on above the root (`search_node`). So nothing around a part of an outline can
capture or break a reference that is bound within the part.

Main statement: a reference in a part of an outline is resolved in the whole as it is in the part,
or else by the search for its label from the parent of the part (`resolve_within`).
-/

set_option autoImplicit false

namespace SequenceCheck.Scope

open SequenceCheck.Tree

variable {tree inner outer : Tree}

/-- A search asks a node first, and its parent after that. -/
theorem search_eq (label : Value) (node : tree.NodeAt) :
    search label node = (declarationIn? node label).or (node.parent.bind (search label)) := by
  rw [search]
  cases declarationIn? node label with
  | some declaration => rfl
  | none =>
    dsimp only
    split
    · rename_i parent above
      rw [above]
      rfl
    · rename_i top
      rw [top]
      rfl

/-- What the search for a label finds from the parent of a node on. -/
def searchAbove (label : Value) (node : tree.NodeAt) : Option tree.NodeAt :=
  node.parent.bind (search label)

section Embedded

variable (e : Embedding inner outer)

/-- An embedding keeps labels. -/
theorem hasLabel_node (label : Value) (i : inner.NodeAt) :
    hasLabel label (e.node i) = hasLabel label i := by
  rw [hasLabel, hasLabel, e.leafValue?_node]

/-- An embedding keeps what a scope declares. -/
theorem declarationIn?_node (i : inner.NodeAt) (label : Value) :
    declarationIn? (e.node i) label = (declarationIn? i label).map e.node := by
  rw [declarationIn?, declarationIn?, e.nodeArg?_node]
  cases i.nodeArg? "locals" with
  | none => rfl
  | some scope =>
    -- The children of a scope are searched in the same order, with the same labels.
    have labels : hasLabel label ∘ e.node = hasLabel label := by
      funext declaration
      exact hasLabel_node e label declaration
    simp only [Option.map_some, e.kind_node, e.body_node, List.find?_map, labels]
    split <;> rfl

/-- A search in an embedded tree finds what it finds in the tree alone; if that is nothing, it goes
on above the root. -/
theorem search_node (label : Value) (i : inner.NodeAt) :
    search label (e.node i) =
      ((search label i).map e.node).or (searchAbove label (e.node inner.root)) := by
  -- By induction on the way up. Below the root the parent is embedded too; at the root the search
  -- leaves the embedded tree.
  induction i using NodeAt.induct_parent with
  | step i ih =>
    rw [search_eq, declarationIn?_node, search_eq label i, Option.map_or, Option.or_assoc]
    congr 1
    cases above : i.parent with
    | none =>
      rw [e.parent_node, above]
      rfl
    | some parent =>
      rw [e.parent_of_parent above]
      exact ih parent above

/-- An embedding keeps which nodes have a label. -/
theorem labelled_node_iff {i : inner.NodeAt} {label : Value} :
    Labelled (e.node i) label ↔ Labelled i label := by
  rw [← leafValue?_eq_some_iff, ← leafValue?_eq_some_iff, e.leafValue?_node]

/-- A reference that is resolved in a tree is resolved alike where the tree is embedded. -/
theorem resolve_node_of_ok {reference declaration : inner.NodeAt}
    (resolved : resolve reference = .ok declaration) :
    resolve (e.node reference) = .ok (e.node declaration) := by
  obtain ⟨label, labelled, found⟩ := resolve_eq_ok_iff.1 resolved
  apply resolve_of_found ((labelled_node_iff e).2 labelled)
  rw [search_node, found]
  rfl

/-- A labelled reference that is not resolved in a tree is resolved above the root where the tree is
embedded. -/
theorem search_node_of_error {reference : inner.NodeAt} {unbound : Unbound} {label : Value}
    (labelled : Labelled reference label) (unresolved : resolve reference = .error unbound) :
    search label (e.node reference) = searchAbove label (e.node inner.root) := by
  have missing : search label reference = none := by
    cases found : search label reference with
    | none => rfl
    | some declaration => cases unresolved.symm.trans (resolve_of_found labelled found)
  rw [search_node, missing]
  rfl

end Embedded

/-- A reference in a part of an outline that is resolved there is resolved to the same declaration
in the whole. If it has a label and is not resolved in the part, then in the whole it is resolved to
what the search for the label finds from the parent of the part on, and is unbound if the part has
no parent or nothing is found. -/
theorem resolve_within {part whole : Outline} {first : Nat} (within : part.Within whole first)
    (reference : (ofOutline part).NodeAt) :
    (∀ declaration, resolve reference = .ok declaration →
      resolve (within.node reference) = .ok (within.node declaration)) ∧
    ∀ label unbound, Labelled reference label → resolve reference = .error unbound →
      (∀ declaration, resolve (within.node reference) = .ok declaration ↔
        searchAbove label (within.node (ofOutline part).root) = some declaration) ∧
      (searchAbove label (within.node (ofOutline part).root) = none →
        resolve (within.node reference) = .error ⟨label.display, first + reference.id⟩) := by
  obtain ⟨e, same⟩ := within.exists_embedding_node
  simp only [← same]
  constructor
  · intro declaration resolved
    exact resolve_node_of_ok e resolved
  · intro label unbound labelled unresolved
    have inWhole := (labelled_node_iff e).2 labelled
    have above := search_node_of_error e labelled unresolved
    refine ⟨fun declaration => ?_, fun missing => ?_⟩
    · rw [← above]
      constructor
      · intro resolved
        obtain ⟨other, otherLabelled, found⟩ := resolve_eq_ok_iff.1 resolved
        -- The reference has one label only.
        have labels := (leafValue?_eq_some_iff.2 inWhole).symm.trans
          (leafValue?_eq_some_iff.2 otherLabelled)
        rw [Option.some.inj labels]
        exact found
      · exact resolve_of_found inWhole
    · have number : (e.node reference).id = first + reference.id := congrArg NodeAt.id (same _)
      rw [resolve_of_not_found inWhole (above.trans missing), number]

/-! ## A part that refers to what is around it -/

/-- A sequence with one variable in its scope. -/
def declaring (name : String) (body : List Outline) : Outline where
  kind := .sequence
  args :=
    [("locals", .node
      ⟨.scopeDeclaration, [],
        [⟨.variableDeclaration, [("label", .leaf (.string name))], [], none⟩], none⟩)]
  body := body
  comment := none

/-- An identifier with a label. -/
def identifier (label : String) : Outline :=
  ⟨.identifier, [("label", .leaf (.string label))], [], none⟩

/-- A sequence that refers to a variable of its own and to another one. -/
def fragment : Outline :=
  declaring "inner" [identifier "inner", identifier "outer"]

/-- A sequence around it that declares the other variable. -/
def surroundings : Outline :=
  declaring "outer" [fragment]

/-- The nodes of the fragment: the sequence, its scope, the variable and the two identifiers. -/
def fragmentNode (id : Fin 5) : (ofOutline fragment).NodeAt :=
  ⟨id.val, id.isLt⟩

/-- The nodes of the whole: the sequence, its scope, the variable and those of the fragment. -/
def surroundedNode (id : Fin 8) : (ofOutline surroundings).NodeAt :=
  ⟨id.val, id.isLt⟩

theorem fragment_within_surroundings : fragment.Within surroundings 3 := by
  have inBody : surroundings.body = [] ++ fragment :: [] := rfl
  exact .child inBody .whole

/-- The own variable is found in the fragment and stays what is referred to; the other one is found
around the fragment. -/
theorem resolve_within_surroundings :
    resolve (fragmentNode 3) = .ok (fragmentNode 2) ∧
      resolve (surroundedNode 6) = .ok (surroundedNode 5) ∧
      resolve (fragmentNode 4) = .error ⟨"outer", 4⟩ ∧
      resolve (surroundedNode 7) = .ok (surroundedNode 2) := by
  have inner : Labelled (fragmentNode 3) (.string "inner") := leafValue?_eq_some_iff.1 rfl
  have outer : Labelled (fragmentNode 4) (.string "outer") := leafValue?_eq_some_iff.1 rfl
  have own : resolve (fragmentNode 3) = .ok (fragmentNode 2) := by
    apply resolve_of_found inner
    rw [search_eq]
    change (none : Option (ofOutline fragment).NodeAt).or (search _ (fragmentNode 0)) = _
    rw [search_eq]
    rfl
  have other : resolve (fragmentNode 4) = .error ⟨"outer", 4⟩ := by
    apply resolve_of_not_found outer
    rw [search_eq]
    change (none : Option (ofOutline fragment).NodeAt).or (search _ (fragmentNode 0)) = _
    rw [search_eq]
    rfl
  have above : searchAbove (.string "outer") (surroundedNode 3) = some (surroundedNode 2) := by
    change search _ (surroundedNode 0) = _
    rw [search_eq]
    rfl
  have inContext := resolve_within fragment_within_surroundings
  refine ⟨own, (inContext (fragmentNode 3)).1 _ own, other, ?_⟩
  exact (((inContext (fragmentNode 4)).2 _ _ outer other).1 _).2 above

end SequenceCheck.Scope
