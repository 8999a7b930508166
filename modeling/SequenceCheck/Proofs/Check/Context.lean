import SequenceCheck.Proofs.Check.Blame
import SequenceCheck.Proofs.Grammar.Loading
import SequenceCheck.Proofs.Scope.Context

/-!
# Checks in context

Without rules, what an obligation asks for is kept where a tree is embedded in another one: kinds,
keys and values are the same there, and references that are resolved stay resolved
(`meets_embed`). So if the tree of a part passes a check, nothing in the part is ever to blame
for what is wrong with the whole.

Main statement: where a part of an outline passes a check alone, a check of the whole never blames a
node within the part, and it blames the root of the part for one of three things only, all of which
are about its place under its owner (`offence_within`).
-/

set_option autoImplicit false

namespace SequenceCheck

open SequenceCheck.Tree

variable {D : Type} {tree inner outer : Tree}

namespace Check

/-! ## Obligations in an embedded tree -/

/-- An obligation of a tree where the tree is embedded. -/
def Obligation.embed (e : Embedding inner outer) : Obligation inner → Obligation outer
  | .body node => .body (e.node node)
  | .keys node => .keys (e.node node)
  | .pairing owner key arg => .pairing (e.node owner) key (e.arg arg)
  | .argRule owner key arg => .argRule (e.node owner) key (e.arg arg)
  | .nodeRule node => .nodeRule (e.node node)

section Embedded

variable (e : Embedding inner outer)

/-- An embedded node has the obligations that it has in its own tree. -/
theorem exists_of_node {i : inner.NodeAt} {obligation : Obligation outer}
    (own : obligation.Of (e.node i)) :
    ∃ original : Obligation inner, original.Of i ∧ obligation = original.embed e := by
  have exists_arg : ∀ {key : String} {arg : outer.ArgAt}, (key, arg) ∈ (e.node i).args →
      ∃ original, (key, original) ∈ i.args ∧ arg = e.arg original := by
    intro key arg mem
    rw [e.args_node] at mem
    obtain ⟨⟨held, original⟩, inArgs, same⟩ := List.mem_map.1 mem
    cases same
    exact ⟨original, inArgs, rfl⟩
  cases own with
  | body => exact ⟨.body i, .body, rfl⟩
  | keys => exact ⟨.keys i, .keys, rfl⟩
  | pairing mem =>
    obtain ⟨original, inArgs, rfl⟩ := exists_arg mem
    exact ⟨_, .pairing inArgs, rfl⟩
  | argRule mem =>
    obtain ⟨original, inArgs, rfl⟩ := exists_arg mem
    exact ⟨_, .argRule inArgs, rfl⟩
  | nodeRule => exact ⟨.nodeRule i, .nodeRule, rfl⟩

variable {grammar : Grammar D} {device other : D}

/-- Without rules an obligation that is met is met where its tree is embedded. -/
theorem meets_embed (bare : grammar.Ruleless) {obligation : Obligation inner}
    (meets : Meets grammar device obligation) : Meets grammar other (obligation.embed e) := by
  cases obligation with
  | body node =>
    intro child mem
    rw [e.body_node] at mem
    obtain ⟨original, inBody, rfl⟩ := List.mem_map.1 mem
    rw [e.kind_node, e.kind_node]
    exact meets original inBody
  | keys node =>
    obtain ⟨entry, known, same⟩ := meets
    refine ⟨entry, ?_, ?_⟩
    · rw [e.kind_node]
      exact known
    · rw [e.argKeys_node]
      exact same
  | pairing owner key arg =>
    cases arg with
    | node child =>
      obtain ⟨entry, known, allowed, resolved⟩ := meets
      refine ⟨entry, known, ?_, ?_⟩
      · rw [e.kind_node]
        exact allowed
      · intro identifier
        rw [e.kind_node] at identifier
        obtain ⟨declaration, answer⟩ := resolved identifier
        -- What is bound in the embedded tree is not captured by anything around it.
        exact ⟨e.node declaration, Scope.resolve_node_of_ok e answer⟩
    | leaf leaf =>
      obtain ⟨entry, known, allowed⟩ := meets
      refine ⟨entry, ?_, ?_⟩
      · rw [e.key_leaf]
        exact known
      · rw [e.value_leaf]
        exact allowed
    | malformed raw => exact meets
  | argRule owner key arg =>
    intro entry rule known attached
    cases (bare.args key entry known).symm.trans attached
  | nodeRule node =>
    obtain ⟨entry, known, _⟩ := meets
    refine ⟨entry, ?_, ?_⟩
    · rw [e.kind_node]
      exact known
    · intro rule attached
      cases (bare.nodes node.kind entry known).symm.trans attached

end Embedded

/-! ## What an owner says about a node -/

/-- A diagnostic is about the place of a node under its owner: the node stands in a body that does
not allow it, or under a key that does not allow it, or it is an identifier under a key and refers
to nothing. -/
inductive RaisedByOwner (grammar : Grammar D) (node : tree.NodeAt) : Diagnostic → Prop where
  | badBody {owner : tree.NodeAt} {entry : NodeEntry D} {before after : List tree.NodeAt} :
      node.parent = some owner → owner.body = before ++ node :: after →
      grammar.nodes owner.kind = some entry → entry.allowsChild node.kind = false →
      RaisedByOwner grammar node
        ⟨.badBody, Remark.wording (.badBody owner.kind node.kind before.length entry.children),
          some node.id⟩
  | badLeaf {owner : tree.NodeAt} {key : String} {entry : ArgEntry D} :
      StandsUnder node owner key → grammar.args[key]? = some entry →
      entry.allowsKind node.kind = false →
      RaisedByOwner grammar node
        ⟨.badLeaf, Remark.wording (.strayNode node.kind owner.kind entry.kinds), some node.id⟩
  | unboundVariable {owner : tree.NodeAt} {key : String} {unbound : Scope.Unbound} :
      StandsUnder node owner key → node.kind = .identifier →
      Scope.resolve node = .error unbound →
      RaisedByOwner grammar node
        ⟨.unboundVariable,
          Remark.wording (.unboundVariable ((node.leafValue? "label").elim "" Value.display)),
          some node.id⟩

section OfOutline

variable {grammar : Grammar D} {device other : D} {diagnostic : Diagnostic}

/-- Without rules, what is wrong with an obligation of a node is said of the node, or of a node
right below it because of its place there, or of no node. -/
theorem node_of_fails {outline : Outline} (bare : grammar.Ruleless)
    {node : (ofOutline outline).NodeAt} {obligation : Obligation (ofOutline outline)}
    (own : obligation.Of node) (fails : Fails grammar device obligation diagnostic) :
    diagnostic.node = none ∨ diagnostic.node = some node.id ∨
      ∃ child : (ofOutline outline).NodeAt, child.parent = some node ∧
        diagnostic.node = some child.id ∧ RaisedByOwner grammar child diagnostic := by
  cases own with
  | body =>
    cases fails with
    | unknownBody _ _ => exact .inr (.inl rfl)
    | @strayChild _ child entry before after known split _ stray =>
      have inBody : child ∈ node.body := by
        rw [split]
        exact List.mem_append_cons_self
      have parent := parent_of_mem_children (NodeAt.mem_children_iff.2 (.inr inBody))
      exact .inr (.inr ⟨child, parent, rfl, .badBody parent split known stray⟩)
  | keys =>
    cases fails with
    | unknownKeys _ => exact .inr (.inl rfl)
    | absentKey _ _ _ _ => exact .inr (.inl rfl)
    | surplusKeys _ _ _ => exact .inr (.inl rfl)
  | @pairing key arg held =>
    cases fails with
    | unknownNodeKey _ => exact .inr (.inl rfl)
    | @unbound _ value _ entry unbound _ identifier answer =>
      have stands := standsUnder_of_mem_args held
      exact .inr (.inr ⟨value, stands.1, rfl, .unboundVariable stands identifier answer⟩)
    | @strayNode _ value _ entry known _ stray =>
      have stands := standsUnder_of_mem_args held
      exact .inr (.inr ⟨value, stands.1, rfl, .badLeaf stands known stray⟩)
    | unknownLeafKey _ =>
      obtain ⟨_, rfl⟩ := stored_of_mem_args held
      exact .inr (.inl rfl)
    | strayLeaf _ _ =>
      obtain ⟨_, rfl⟩ := stored_of_mem_args held
      exact .inr (.inl rfl)
    | malformed => exact .inr (.inl rfl)
  | argRule _ =>
    cases fails with
    | argRule known attached _ => cases (bare.args _ _ known).symm.trans attached
  | nodeRule =>
    cases fails with
    | unknownRule _ => exact .inl rfl
    | nodeRule known attached _ => cases (bare.nodes _ _ known).symm.trans attached

/-- Where a part of an outline passes a check alone, a check of the whole does not blame any node
below the root of the part, and the root of the part only for its place under its owner. -/
theorem offence_within {part whole : Outline} {first : Nat} (within : part.Within whole first)
    (bare : grammar.Ruleless) (passes : (check grammar device (ofOutline part)).offence = none)
    (offence : (check grammar other (ofOutline whole)).offence = some diagnostic) :
    (∀ id, first < id → id < first + part.nodeCount → diagnostic.node ≠ some id) ∧
    (diagnostic.node = some first →
      RaisedByOwner grammar (within.node (ofOutline part).root) diagnostic) := by
  obtain ⟨e, same⟩ := within.exists_embedding_node
  obtain ⟨before, obligation, after, split, answer, _⟩ :=
    (offence_checkNode_eq_some_iff _ diagnostic).1 offence
  obtain ⟨failing, own⟩ := exists_of_split split
  -- The nodes of the part meet their obligations in the whole as they do alone.
  have outside : ∀ i, failing ≠ e.node i := by
    rintro i rfl
    obtain ⟨original, itsOwn, rfl⟩ := exists_of_node e own
    have listed : original ∈ obligations (ofOutline part).root :=
      mem_obligations_iff.2 ⟨i, mem_preorder_root i, itsOwn⟩
    have met : Meets grammar device original :=
      offence_ask_eq_none_iff.1 ((offence_checkNode_eq_none_iff _).1 passes original listed)
    cases (offence_ask_of_meets (meets_embed e bare met)).symm.trans answer
  -- The nodes of the part are those with numbers from that of the part on, as many as it has.
  have inPart : ∀ node : (ofOutline whole).NodeAt, first ≤ node.id →
      node.id < first + part.nodeCount →
      ∃ i : (ofOutline part).NodeAt, node = e.node i ∧ i.id = node.id - first := by
    intro node above below
    have inRange : node.id - first < (ofOutline part).nodeCount := by
      rw [nodeCount_ofOutline]
      omega
    refine ⟨⟨node.id - first, inRange⟩, NodeAt.ext ?_, rfl⟩
    rw [same]
    exact (Nat.add_sub_cancel' above).symm
  have located := node_of_fails bare own (offence_ask_eq_some_iff.1 answer)
  constructor
  · intro id above below blamed
    rw [blamed] at located
    -- Neither a node of the part nor an owner in the part fails its obligation.
    rcases located with none | here | ⟨child, parent, there, _⟩
    · cases none
    · obtain rfl := Option.some.inj here
      obtain ⟨i, isNode, _⟩ := inPart failing (Nat.le_of_lt above) below
      exact outside i isNode
    · obtain rfl := Option.some.inj there
      obtain ⟨i, rfl, number⟩ := inPart child (Nat.le_of_lt above) below
      -- Below the root of the part, the owner is in the part too.
      cases owner : i.parent with
      | none =>
        have top : i.id = 0 := congrArg NodeAt.id (eq_root_of_parent_eq_none owner)
        omega
      | some owner =>
        have parents := (e.parent_of_parent owner).symm.trans parent
        exact outside _ (Option.some.inj parents).symm
  · intro blamed
    have count : 0 < part.nodeCount := part.nodeCount_pos
    rw [blamed] at located
    rcases located with none | here | ⟨child, _, there, raised⟩
    · cases none
    · have number := Option.some.inj here
      obtain ⟨i, isNode, _⟩ := inPart failing (by omega) (by omega)
      exact absurd isNode (outside i)
    · have root : within.node (ofOutline part).root = child :=
        NodeAt.ext (Option.some.inj there)
      rw [root]
      exact raised

end OfOutline

/-! ## A part that passes alone and fails in context -/

/-- A grammar in which a variable is given an identifier that has a scope of its own. -/
def assignmentGrammar : Grammar Unit :=
  (Grammar.empty.defineArgs
    [⟨"label", [], [.string]⟩, ⟨"locals", [.scopeDeclaration], []⟩,
      ⟨"data_value", [.identifier], []⟩]).defineNodes
    [⟨.identifier, ["label", "locals"], []⟩, ⟨.scopeDeclaration, [], []⟩,
      ⟨.variableDeclaration, ["data_value"], []⟩]

/-- An identifier with a scope of its own that declares nothing. -/
def scopedIdentifier : Outline :=
  ⟨.identifier,
    [("label", .leaf (.string "spot")), ("locals", .node (.ofKind .scopeDeclaration))], [], none⟩

/-- A variable that is given the value of the identifier. -/
def assignment : Outline :=
  ⟨.variableDeclaration, [("data_value", .node scopedIdentifier)], [], none⟩

theorem scopedIdentifier_within_assignment : scopedIdentifier.Within assignment 1 := by
  have inArgs : assignment.args = [] ++ ("data_value", .node scopedIdentifier) :: [] := rfl
  exact .arg inArgs .whole

/-- The nodes of the tree of the identifier: the identifier and its scope. -/
def scopedNode : Fin 2 → (ofOutline scopedIdentifier).NodeAt
  | ⟨id, isLt⟩ => ⟨id, isLt⟩

/-- The label of the identifier. -/
def scopedLabel : (ofOutline scopedIdentifier).LeafAt :=
  ⟨0, Nat.one_pos⟩

/-- The nodes of the tree of the variable: the variable, the identifier and its scope. -/
def assignmentNode : Fin 3 → (ofOutline assignment).NodeAt
  | ⟨id, isLt⟩ => ⟨id, isLt⟩

theorem ruleless_assignmentGrammar : assignmentGrammar.Ruleless := by
  repeat apply Grammar.Ruleless.defineNode
  repeat apply Grammar.Ruleless.defineArg
  exact Grammar.ruleless_empty

/-- The identifier of the variable refers to nothing. -/
theorem resolve_assignment : Scope.resolve (assignmentNode 1) = .error ⟨"spot", 1⟩ := by
  have labelled : Scope.Labelled (assignmentNode 1) (.string "spot") :=
    Scope.leafValue?_eq_some_iff.1 rfl
  apply Scope.resolve_of_not_found labelled
  rw [Scope.search_eq]
  change (none : Option (ofOutline assignment).NodeAt).or (Scope.search _ (assignmentNode 0)) = _
  rw [Scope.search_eq]
  rfl

/-- What there is to say about it. -/
def unboundSpot : Diagnostic :=
  ⟨.unboundVariable, "Unbound variable: spot", some 1⟩

/-- Alone the identifier is no argument, and need not refer to anything. -/
theorem offence_scopedIdentifier :
    (check assignmentGrammar () (ofOutline scopedIdentifier)).offence = none := by
  have identifier : obligations (scopedNode 0) =
      .body (scopedNode 0) :: .keys (scopedNode 0) ::
        .pairing (scopedNode 0) "label" (.leaf scopedLabel) ::
        .argRule (scopedNode 0) "label" (.leaf scopedLabel) ::
        .pairing (scopedNode 0) "locals" (.node (scopedNode 1)) ::
        .argRule (scopedNode 0) "locals" (.node (scopedNode 1)) ::
        obligations (scopedNode 1) ++ [] ++ [.nodeRule (scopedNode 0)] :=
    obligations_eq (scopedNode 0)
  have scope : obligations (scopedNode 1) =
      [.body (scopedNode 1), .keys (scopedNode 1), .nodeRule (scopedNode 1)] :=
    obligations_eq (scopedNode 1)
  rw [check, checkNode_eq_askAll]
  change (askAll assignmentGrammar () (obligations (scopedNode 0))).offence = _
  rw [identifier, scope]
  rfl

/-- In the whole the identifier is the first thing that is wrong. -/
theorem offence_assignment :
    (check assignmentGrammar () (ofOutline assignment)).offence = some unboundSpot := by
  apply (offence_checkNode_eq_some_iff _ _).2
  refine ⟨[.body (assignmentNode 0), .keys (assignmentNode 0)],
    .pairing (assignmentNode 0) "data_value" (.node (assignmentNode 1)), _, obligations_eq _,
    ?_, ?_⟩
  · have known : assignmentGrammar.args["data_value"]? =
        some (ArgSchema.entry ⟨"data_value", [.identifier], []⟩) := rfl
    exact offence_ask_of_fails (.unbound known rfl resolve_assignment)
  · intro earlier mem
    rcases List.mem_pair.1 mem with rfl | rfl
    · rfl
    · rfl

/-- The identifier is to blame for its place under the variable, and its scope is not to blame. -/
theorem offence_within_assignment :
    (check assignmentGrammar () (ofOutline scopedIdentifier)).offence = none ∧
    (check assignmentGrammar () (ofOutline assignment)).offence = some unboundSpot ∧
    unboundSpot.node ≠ some (assignmentNode 2).id ∧
    RaisedByOwner assignmentGrammar (assignmentNode 1) unboundSpot := by
  obtain ⟨below, root⟩ := offence_within scopedIdentifier_within_assignment
    ruleless_assignmentGrammar offence_scopedIdentifier offence_assignment
  exact ⟨offence_scopedIdentifier, offence_assignment, below 2 (by decide) (by decide), root rfl⟩

end Check

end SequenceCheck
