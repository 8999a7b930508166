import SequenceCheck.Proofs.Check.Alike
import SequenceCheck.Proofs.Check.Order
import SequenceCheck.Proofs.Check.Rearranged
import SequenceCheck.Proofs.Check.Wording
import SequenceCheck.Proofs.Scope.Edited

/-!
# Keys set and taken out of a tree that passes

If a check passes, each node has exactly the keys that its kind requires. Setting another key, or
taking out one, anywhere in such a tree makes a check of it end there, unless it ends before: a
check looks for the declarations of identifiers under a key when it comes to their owners, and the
key that was taken out may be what an identifier was resolved by.

Main statement: without rules, a tree that passes and is edited so fails with an absent key, or with
the first identifier that is left without a declaration, or with the surplus key (`check_edited`).
An identifier whose own label is taken out is one that fails so (`not_forall_missingArg`).
-/

set_option autoImplicit false

namespace SequenceCheck.Check

open SequenceCheck.Tree Outline

variable {D : Type}

/-! ## References that a check comes to -/

/-- An identifier under a key of another node. Whether it refers to anything is asked before the
identifier is entered. -/
def IsReference {tree : Tree} (node : tree.NodeAt) : Prop :=
  node.kind = .identifier ∧ ∃ owner key, StandsUnder node owner key

/-- A reference does not come first, since it stands under a key of another node. -/
theorem IsReference.id_pos {tree : Tree} {node : tree.NodeAt} (isReference : IsReference node) :
    0 < node.id := by
  obtain ⟨_, owner, key, _, held⟩ := isReference
  have := NodeAt.id_lt_of_mem_args held
  omega

/-- All references with numbers below a limit refer to something. -/
def ResolvedBelow (tree : Tree) (limit : Nat) : Prop :=
  ∀ reference : tree.NodeAt, reference.id < limit → IsReference reference →
    ∃ declaration, Scope.resolve reference = .ok declaration

/-- A reference with a number below a limit refers to nothing, and it is the first one. -/
structure FirstUnbound {tree : Tree} (limit : Nat) (reference : tree.NodeAt)
    (unbound : Scope.Unbound) : Prop where
  lt : reference.id < limit
  isReference : IsReference reference
  unresolved : Scope.resolve reference = .error unbound
  earlier : ResolvedBelow tree reference.id

/-- All references below a limit refer to something, or there is a first one that does not. -/
theorem resolvedBelow_or_firstUnbound (tree : Tree) (limit : Nat) :
    ResolvedBelow tree limit ∨
      ∃ (reference : tree.NodeAt) (unbound : Scope.Unbound),
        FirstUnbound limit reference unbound := by
  induction limit with
  | zero =>
    left
    intro reference below
    exact absurd below (Nat.not_lt_zero _)
  | succ limit ih =>
    rcases ih with all | ⟨reference, unbound, first⟩
    · by_cases last : ∃ (reference : tree.NodeAt) (unbound : Scope.Unbound),
          reference.id = limit ∧ IsReference reference ∧ Scope.resolve reference = .error unbound
      · obtain ⟨reference, unbound, rfl, isReference, unresolved⟩ := last
        exact .inr ⟨reference, unbound, Nat.lt_succ_self _, isReference, unresolved, all⟩
      · left
        intro reference below isReference
        cases answer : Scope.resolve reference with
        | ok declaration => exact ⟨declaration, rfl⟩
        | error unbound =>
          by_cases here : reference.id = limit
          · exact absurd ⟨reference, unbound, here, isReference, answer⟩ last
          · obtain ⟨declaration, resolved⟩ := all reference (by omega) isReference
            cases answer.symm.trans resolved
    · exact .inr ⟨reference, unbound, Nat.lt_succ_of_lt first.lt, first.isReference,
        first.unresolved, first.earlier⟩

/-! ## Obligations up to an edit -/

section Edited

variable {grammar : Grammar D} {device : D} {edit : Outline → Outline} {first : Nat}
  {outline : Outline}

/-- A body that is as it has to be stays so, wherever the edit is. -/
theorem meets_body_across {x : (ofOutline outline).NodeAt}
    {y : (ofOutline (outline.editAt edit first)).NodeAt} (across : AcrossAt edit first x y)
    (edits : ArgsOnly edit) (met : Meets grammar device (.body x)) :
    Meets grammar device (.body y) := by
  intro child mem
  obtain ⟨original, inBody, below⟩ := exists_of_forall₂_mem (across.body edits).flip mem
  rw [← across.kind edits, ← AcrossAt.kind below edits]
  exact met original inBody

/-- If a tree passes, then the obligations that come before an edit are met after it, provided that
the references among them are resolved. -/
theorem meets_of_before (bare : grammar.Ruleless)
    (passes : (check grammar device (ofOutline outline)).offence = none) (edits : ArgsOnly edit)
    (inRange : first < outline.nodeCount) {values : Nat}
    {obligation : Obligation (ofOutline (outline.editAt edit first))}
    (before : obligation.Before first values)
    (resolved : ResolvedBelow (ofOutline (outline.editAt edit first)) values) :
    Meets grammar device obligation := by
  obtain ⟨⟨y, own, smaller⟩, below⟩ := before
  obtain ⟨x, number, across, _⟩ := exists_across edits inRange y (by omega)
  have elsewhere : x.id ≠ first := by omega
  have kind := across.kind edits
  have met := passes_iff_meets.1 passes x
  cases own with
  | body => exact meets_body_across across edits (met _ .body)
  | keys =>
    obtain ⟨entry, known, keys⟩ := met _ .keys
    have same : x.argKeys = y.argKeys := Keyed.keys_of_forall₂ (across.args elsewhere)
    rw [kind] at known
    rw [same] at keys
    exact ⟨entry, known, keys⟩
  | @pairing key arg held =>
    obtain ⟨⟨_, original⟩, heldBefore, related⟩ :=
      exists_of_forall₂_mem (across.args elsewhere).flip held
    cases related with
    | entry same =>
      have asked := met _ (.pairing heldBefore)
      cases same with
      | @node child counterpart inner =>
        obtain ⟨entry, known, allowed, _⟩ := asked
        rw [inner.kind edits] at allowed
        refine ⟨entry, known, allowed, ?_⟩
        intro identifier
        exact resolved counterpart (below _ _ _ rfl)
          ⟨identifier, y, key, standsUnder_of_mem_args held⟩
      | @leaf l m value =>
        obtain ⟨entry, known, allowed⟩ := asked
        rw [(stored_of_mem_args heldBefore).1, ← (stored_of_mem_args held).1] at known
        have values : l.value = m.value := value
        rw [values] at allowed
        exact ⟨entry, known, allowed⟩
      | malformed => exact asked
  | argRule held =>
    intro entry rule known attached
    cases (bare.args _ _ known).symm.trans attached
  | nodeRule =>
    obtain ⟨entry, known, _⟩ := met _ .nodeRule
    rw [kind] at known
    refine ⟨entry, known, ?_⟩
    intro rule attached
    cases (bare.nodes _ _ known).symm.trans attached

/-- The node that is edited is there after the edit, with its number. -/
theorem exists_edited_node (edits : ArgsOnly edit) (node : (ofOutline outline).NodeAt) :
    ∃ y : (ofOutline (outline.editAt edit node.id)).NodeAt, y.id = node.id ∧
      y.outline = edit node.outline ∧ AcrossAt edit node.id node y := by
  have inRange := node.id_lt_nodeCount
  have stays : node.id < (ofOutline (outline.editAt edit node.id)).nodes.size := by
    rw [← Tree.nodeCount, nodeCount_ofOutline]
    exact lt_nodeCount_editAt outline inRange
  obtain ⟨x, number, across, _⟩ := exists_across edits inRange ⟨node.id, stays⟩ (Nat.le_refl _)
  obtain rfl : x = node := NodeAt.ext number
  have edited := Across.eq_edit across rfl
  exact ⟨_, rfl, (Prod.mk.inj edited).1, across⟩

/-- A reference that a check comes to before an edit was one before the edit, and it is resolved
still unless what it was resolved by is lost. -/
theorem exists_reference_before {lost : String → Prop}
    (passes : (check grammar device (ofOutline outline)).offence = none) (edits : ArgsOnly edit)
    (inRange : first < outline.nodeCount)
    (keeps : ∀ x : (ofOutline outline).NodeAt, x.id = first →
      KeepsArgs lost x.outline (edit x.outline))
    {y : (ofOutline (outline.editAt edit first)).NodeAt} (early : y.id ≤ first)
    (isReference : IsReference y) :
    ∃ x declaration : (ofOutline outline).NodeAt, x.id = y.id ∧ IsReference x ∧
      Scope.resolve x = .ok declaration ∧
      ((∃ counterpart, Scope.resolve y = .ok counterpart) ∨
        lost "label" ∧ (x.id = first ∨ declaration.id = first) ∨ lost "locals" ∧ x.id = first) := by
  obtain ⟨identifier, owner, key, _, held⟩ := isReference
  have smaller := NodeAt.id_lt_of_mem_args held
  obtain ⟨x, number, across, upward⟩ := exists_across edits inRange y early
  obtain ⟨parent, original, heldBefore, below⟩ :=
    exists_held_before edits inRange (by omega) held
  obtain rfl : original = x := NodeAt.ext ((below.id_eq early).trans number.symm)
  rw [← across.kind edits] at identifier
  obtain ⟨_, _, _, resolved⟩ := passes_iff_meets.1 passes parent _ (.pairing heldBefore)
  obtain ⟨declaration, answer⟩ := resolved identifier
  exact ⟨original, declaration, number,
    ⟨identifier, parent, key, standsUnder_of_mem_args heldBefore⟩, answer,
    Scope.resolved_or_lost across edits keeps upward (by omega) answer⟩

/-! ## How a check ends after an edit -/

/-- A check ends with the first reference up to the edit that refers to nothing. -/
theorem offence_of_firstUnbound (bare : grammar.Ruleless)
    (passes : (check grammar device (ofOutline outline)).offence = none) (edits : ArgsOnly edit)
    (inRange : first < outline.nodeCount)
    {reference : (ofOutline (outline.editAt edit first)).NodeAt} {unbound : Scope.Unbound}
    (unresolved : FirstUnbound (first + 1) reference unbound) :
    (check grammar device (ofOutline (outline.editAt edit first))).offence =
      some unbound.diagnostic := by
  obtain ⟨identifier, owner, key, _, held⟩ := unresolved.isReference
  have early := unresolved.lt
  have smaller := NodeAt.id_lt_of_mem_args held
  obtain ⟨parent, _, heldBefore, _⟩ := exists_held_before edits inRange (by omega) held
  obtain ⟨_, known, _⟩ := passes_iff_meets.1 passes parent _ (.pairing heldBefore)
  obtain ⟨before, after, split, earlier⟩ := exists_split_at_pairing held
  rw [check, offence_checkNode_eq_some_iff]
  refine ⟨before, _, after, split,
    offence_ask_of_fails (fails_of_unbound known identifier unresolved.unresolved), ?_⟩
  intro obligation mem
  have behind := (earlier obligation mem).mono (Nat.le_of_lt_succ early) (Nat.le_refl _)
  exact offence_ask_of_meets (meets_of_before bare passes edits inRange behind unresolved.earlier)

/-- If all references up to the edit are resolved, a check ends with what is wrong with the keys of
the node that is edited. -/
theorem offence_of_edited_keys (bare : grammar.Ruleless)
    (passes : (check grammar device (ofOutline outline)).offence = none) (edits : ArgsOnly edit)
    {node : (ofOutline outline).NodeAt} {y : (ofOutline (outline.editAt edit node.id)).NodeAt}
    (number : y.id = node.id) (across : AcrossAt edit node.id node y)
    (resolved : ResolvedBelow (ofOutline (outline.editAt edit node.id)) (node.id + 1))
    {diagnostic : Diagnostic} (fails : Fails grammar device (.keys y) diagnostic) :
    (check grammar device (ofOutline (outline.editAt edit node.id))).offence =
      some diagnostic := by
  obtain ⟨before, after, split, earlier⟩ := exists_split_at_keys y
  rw [check, offence_checkNode_eq_some_iff]
  refine ⟨before, _, after, split, offence_ask_of_fails fails, ?_⟩
  intro obligation mem
  apply offence_ask_of_meets
  rcases earlier obligation mem with rfl | behind
  · exact meets_body_across across edits (passes_iff_meets.1 passes node _ .body)
  · rw [number] at behind
    exact meets_of_before bare passes edits node.id_lt_nodeCount behind resolved

end Edited

/-! ## Keys of the edited node -/

section Keys

variable {grammar : Grammar D} {device : D} {one other : Tree} {node : one.NodeAt}
  {edited : other.NodeAt} {key : String}

theorem argKeys_withoutArg (outline : edited.outline = node.outline.withoutArg key) :
    edited.argKeys = node.argKeys.filter (· ≠ key) := by
  rw [← edited.keys_outline, ← node.keys_outline, outline, withoutArg, Keyed.drop, Keyed.keys,
    Keyed.keys, List.filter_map]
  rfl

theorem argKeys_withArg {arg : Arg Outline Value} (absent : key ∉ node.argKeys)
    (outline : edited.outline = node.outline.withArg key arg) :
    edited.argKeys = node.argKeys ++ [key] := by
  rw [← node.keys_outline] at absent ⊢
  rw [← edited.keys_outline, outline, withArg, Keyed.put_of_not_mem absent, Keyed.keys,
    List.map_append]
  rfl

/-- Without one of its keys a node has an absent key, and no other one. -/
theorem fails_keys_withoutArg (met : Meets grammar device (.keys node)) (held : key ∈ node.argKeys)
    (kind : edited.kind = node.kind) (keys : edited.argKeys = node.argKeys.filter (· ≠ key)) :
    Fails grammar device (.keys edited)
      ⟨.missingArg, Remark.wording (.missingArg node.kind key (node.argKeys.filter (· ≠ key))),
        some edited.id⟩ := by
  obtain ⟨entry, known, same⟩ := met
  obtain ⟨before, after, split, new⟩ := List.eq_append_cons_of_mem ((same key).1 held)
  rw [← kind] at known
  rw [← keys, ← kind]
  refine .absentKey known split ?_ ?_
  · intro earlier mem
    have required : earlier ∈ entry.keys := by
      rw [split]
      exact List.mem_append_left _ mem
    have differs : earlier ≠ key := by
      rintro rfl
      exact new mem
    rw [keys]
    exact List.mem_filter.2 ⟨(same earlier).2 required, by simpa using differs⟩
  · rw [keys]
    simp

/-- With one more key a node has a surplus key, and no other one. -/
theorem fails_keys_withArg {entry : NodeEntry D} (known : grammar.nodes node.kind = some entry)
    (same : ∀ key, key ∈ node.argKeys ↔ key ∈ entry.keys) (surplus : key ∉ entry.keys)
    (kind : edited.kind = node.kind) (keys : edited.argKeys = node.argKeys ++ [key]) :
    Fails grammar device (.keys edited)
      ⟨.extraArgs, Remark.wording (.extraArgs node.kind [key] entry.keys), some edited.id⟩ := by
  have extras : edited.argKeys.filter (· ∉ entry.keys) = [key] := by
    have none : node.argKeys.filter (· ∉ entry.keys) = [] := by
      apply List.filter_eq_nil_iff.2
      intro other mem
      simpa using (same other).1 mem
    rw [keys, List.filter_append, none, List.nil_append]
    exact List.filter_cons_of_pos (by simpa using surplus)
  rw [← kind] at known ⊢
  rw [← extras]
  refine .surplusKeys known ?_ ⟨key, ?_, surplus⟩
  · intro required mem
    rw [keys]
    exact List.mem_append_left _ ((same required).2 mem)
  · rw [keys]
    exact List.mem_append_right _ (List.mem_singleton_self key)

end Keys

/-! ## Trees that pass, with a key set or taken out -/

/-- A check of the tree of an outline ends with a remark about the part that has a number, in the
words of the remark if these are not garbled. -/
structure EndsAt (grammar : Grammar D) (device : D) (outline part : Outline) (number : Nat)
    (remark : Remark) : Prop where
  stands : part.Within outline number
  ends : ∃ diagnostic, (check grammar device (ofOutline outline)).offence = some diagnostic ∧
    diagnostic.fault = remark.fault ∧ diagnostic.node = some number ∧
    (¬ remark.Garbled → diagnostic.message = remark.text)

/-- A key of a node is what a reference was resolved by: its own label, the label of its
declaration, or the scope that it opens itself. -/
def ResolvesBy {tree : Tree} (node : tree.NodeAt) (key : String) (reference : tree.NodeAt) : Prop :=
  IsReference reference ∧ ∃ declaration, Scope.resolve reference = .ok declaration ∧
    (key = "label" ∧ (reference = node ∨ declaration = node) ∨ key = "locals" ∧ reference = node)

/-- How a check ends after a key of a node is taken out. -/
inductive EndsWithout (grammar : Grammar D) (device : D) {outline : Outline}
    (node : (ofOutline outline).NodeAt) (key : String) : Prop where
  /-- With the node, if all references up to it are resolved. -/
  | missingArg :
      ResolvedBelow (ofOutline (outline.withoutArgAt node.id key)) (node.id + 1) →
      EndsAt grammar device (outline.withoutArgAt node.id key) (node.outline.withoutArg key) node.id
        (.missingArg node.kind key (node.argKeys.filter (· ≠ key))) →
      EndsWithout grammar device node key
  /-- With the first reference up to the node that is not resolved any more; the key was what it was
  resolved by. -/
  | unbound {reference : (ofOutline (outline.withoutArgAt node.id key)).NodeAt}
      {unbound : Scope.Unbound} {original : (ofOutline outline).NodeAt} :
      FirstUnbound (node.id + 1) reference unbound →
      EndsAt grammar device (outline.withoutArgAt node.id key) reference.outline reference.id
        (.unboundVariable ((reference.leafValue? "label").elim "" Value.display)) →
      original.id = reference.id → ResolvesBy node key original →
      EndsWithout grammar device node key

section Arity

variable {grammar : Grammar D} {device : D} {outline : Outline}

theorem endsAt_of_offence {part : Outline} {remark : Remark} {node : (ofOutline outline).NodeAt}
    {number : Nat} (here : node.id = number) (stands : node.outline = part)
    (offence : (check grammar device (ofOutline outline)).offence =
      some ⟨remark.fault, remark.wording, some node.id⟩) :
    EndsAt grammar device outline part number remark where
  stands := within_iff.2 ⟨node, here, stands⟩
  ends := ⟨_, offence, rfl, congrArg some here, (wording_eq_text_iff remark).2⟩

/-- Without one of its keys, a node is what a check ends with, or a reference that was resolved by
the key. -/
theorem endsWithout_of_passes (bare : grammar.Ruleless)
    (passes : (check grammar device (ofOutline outline)).offence = none)
    (node : (ofOutline outline).NodeAt) {key : String} (held : key ∈ node.argKeys) :
    EndsWithout grammar device node key := by
  have edits := argsOnly_withoutArg key
  have keeps : ∀ x : (ofOutline outline).NodeAt, x.id = node.id →
      KeepsArgs (· = key) x.outline (x.outline.withoutArg key) :=
    fun x _ => keepsArgs_withoutArg key x.outline
  rcases resolvedBelow_or_firstUnbound (ofOutline (outline.withoutArgAt node.id key))
    (node.id + 1) with resolved | ⟨reference, unbound, first⟩
  · obtain ⟨edited, number, stands, across⟩ := exists_edited_node edits node
    have fails := fails_keys_withoutArg (passes_iff_meets.1 passes node _ .keys) held
      (across.kind edits).symm (argKeys_withoutArg stands)
    have offence := offence_of_edited_keys bare passes edits number across resolved fails
    exact .missingArg resolved (endsAt_of_offence number stands offence)
  · have offence := offence_of_firstUnbound bare passes edits node.id_lt_nodeCount first
    rw [diagnostic_of_resolve_eq_error first.unresolved] at offence
    have ends : EndsAt grammar device (outline.withoutArgAt node.id key) reference.outline
        reference.id (.unboundVariable ((reference.leafValue? "label").elim "" Value.display)) :=
      endsAt_of_offence rfl rfl offence
    obtain ⟨original, declaration, number, isReference, answer, ways⟩ :=
      exists_reference_before passes edits node.id_lt_nodeCount keeps
        (Nat.le_of_lt_succ first.lt) first.isReference
    rcases ways with still | ⟨rfl, label⟩ | ⟨rfl, own⟩
    · obtain ⟨counterpart, resolved⟩ := still
      cases first.unresolved.symm.trans resolved
    · exact .unbound first ends number
        ⟨isReference, declaration, answer, .inl ⟨rfl, label.imp NodeAt.ext NodeAt.ext⟩⟩
    · exact .unbound first ends number
        ⟨isReference, declaration, answer, .inr ⟨rfl, NodeAt.ext own⟩⟩

/-- With one more key, a node is what a check ends with. -/
theorem endsAt_withArg (bare : grammar.Ruleless)
    (passes : (check grammar device (ofOutline outline)).offence = none)
    (node : (ofOutline outline).NodeAt) {entry : NodeEntry D}
    (known : grammar.nodes node.kind = some entry)
    (same : ∀ key, key ∈ node.argKeys ↔ key ∈ entry.keys) {key : String}
    (surplus : key ∉ entry.keys) (value : Value) :
    EndsAt grammar device (outline.withArgAt node.id key (.leaf value))
      (node.outline.withArg key (.leaf value)) node.id
      (.extraArgs node.kind [key] entry.keys) := by
  have edits := argsOnly_withArg key (.leaf value)
  have absent : key ∉ node.argKeys := mt (same key).1 surplus
  have keeps : ∀ x : (ofOutline outline).NodeAt, x.id = node.id →
      KeepsArgs (fun _ => False) x.outline (x.outline.withArg key (.leaf value)) := by
    intro x here
    obtain rfl : x = node := NodeAt.ext here
    rw [← x.keys_outline] at absent
    exact keepsArgs_withArg _ absent
  -- Nothing is lost, so all references up to the node are resolved as before.
  have resolved : ResolvedBelow (ofOutline (outline.withArgAt node.id key (.leaf value)))
      (node.id + 1) := by
    intro reference below isReference
    obtain ⟨_, _, _, _, _, still | ⟨lost, _⟩ | ⟨lost, _⟩⟩ :=
      exists_reference_before passes edits node.id_lt_nodeCount keeps (Nat.le_of_lt_succ below)
        isReference
    · exact still
    · exact lost.elim
    · exact lost.elim
  obtain ⟨edited, number, stands, across⟩ := exists_edited_node edits node
  have keys := argKeys_withArg absent stands
  have fails : Fails grammar device (.keys edited) _ :=
    fails_keys_withArg known same surplus (across.kind edits).symm keys
  have offence := offence_of_edited_keys bare passes edits number across resolved fails
  exact endsAt_of_offence number stands offence

/-- Suppose that a tree passes without rules. If a key of a node is taken out, then a check ends
with the absent key of this node, provided that all references up to it are resolved still, and else
with the first one that is not; this was resolved by the key. If a leaf is set under a key that is
not required, then a check ends with this surplus key of the node. -/
theorem check_edited (bare : grammar.Ruleless)
    (passes : (check grammar device (ofOutline outline)).offence = none)
    (node : (ofOutline outline).NodeAt) :
    (∀ key ∈ node.argKeys, EndsWithout grammar device node key) ∧
    ∃ required, grammar.requiredKeys node.kind = .ok required ∧ ∀ key ∉ required, ∀ value,
      EndsAt grammar device (outline.withArgAt node.id key (.leaf value))
        (node.outline.withArg key (.leaf value)) node.id
        (.extraArgs node.kind [key] required) := by
  obtain ⟨entry, known, same⟩ := passes_iff_meets.1 passes node _ .keys
  refine ⟨fun key held => endsWithout_of_passes bare passes node held, entry.keys, ?_,
    fun key surplus value => endsAt_withArg bare passes node known same surplus value⟩
  rw [Grammar.requiredKeys, Grammar.nodeEntry_of_some known]
  rfl

end Arity

/-! ## A tree in which an identifier comes before its declaration -/

/-- A grammar in which a sequence has a value and a scope. -/
def boundGrammar : Grammar Unit :=
  (Grammar.empty.defineArgs
    [⟨"label", [], [.string]⟩, ⟨"data_value", [.identifier], []⟩,
      ⟨"locals", [.scopeDeclaration], []⟩]).defineNodes
    [⟨.sequence, ["data_value", "locals"], []⟩, ⟨.scopeDeclaration, [], [.variableDeclaration]⟩,
      ⟨.variableDeclaration, ["label"], []⟩, ⟨.identifier, ["label"], []⟩]

theorem ruleless_boundGrammar : boundGrammar.Ruleless := by
  repeat apply Grammar.Ruleless.defineNode
  repeat apply Grammar.Ruleless.defineArg
  exact Grammar.ruleless_empty

theorem resolve_scopeLast :
    Scope.resolve (scopeLastNode 1 (by decide)) = .ok (scopeLastNode 3 (by decide)) := by
  apply Scope.resolve_of_found (Scope.leafValue?_eq_some_iff.1 rfl)
  rw [Scope.search_eq]
  change (none : Option (ofOutline scopeLast).NodeAt).or
    (Scope.search _ (ofOutline scopeLast).root) = _
  rw [Scope.search_eq]
  rfl

theorem passes_scopeLast : (check boundGrammar () (ofOutline scopeLast)).offence = none := by
  have reference : (ask boundGrammar () (.pairing (scopeLastNode 0 (by decide)) "data_value"
      (.node (scopeLastNode 1 (by decide))))).offence = none :=
    offence_ask_of_meets ⟨_, rfl, rfl, fun _ => ⟨_, resolve_scopeLast⟩⟩
  have identifier : (checkNode boundGrammar () (scopeLastNode 1 (by decide))).offence = none := by
    rw [checkNode_eq_askAll, obligations_eq]
    rfl
  have declaration : (checkNode boundGrammar () (scopeLastNode 3 (by decide))).offence = none := by
    rw [checkNode_eq_askAll, obligations_eq]
    rfl
  have scope : (checkNode boundGrammar () (scopeLastNode 2 (by decide))).offence = none := by
    rw [offence_checkNode_eq_none_iff] at declaration ⊢
    have parts : obligations (scopeLastNode 2 (by decide)) =
        .body (scopeLastNode 2 (by decide)) :: .keys (scopeLastNode 2 (by decide)) ::
          .nodeRule (scopeLastNode 2 (by decide)) ::
          (obligations (scopeLastNode 3 (by decide)) ++ []) :=
      obligations_eq _
    rw [parts]
    simp only [List.forall_mem_cons, List.forall_mem_append]
    exact ⟨rfl, rfl, rfl, declaration, by simp⟩
  rw [offence_checkNode_eq_none_iff] at identifier scope
  have parts : obligations (ofOutline scopeLast).root =
      .body (scopeLastNode 0 (by decide)) :: .keys (scopeLastNode 0 (by decide)) ::
        (.pairing (scopeLastNode 0 (by decide)) "data_value"
            (.node (scopeLastNode 1 (by decide))) ::
          .argRule (scopeLastNode 0 (by decide)) "data_value"
            (.node (scopeLastNode 1 (by decide))) ::
          (obligations (scopeLastNode 1 (by decide)) ++
          (.pairing (scopeLastNode 0 (by decide)) "locals" (.node (scopeLastNode 2 (by decide))) ::
          .argRule (scopeLastNode 0 (by decide)) "locals" (.node (scopeLastNode 2 (by decide))) ::
          (obligations (scopeLastNode 2 (by decide)) ++ [])))) ++
        [.nodeRule (scopeLastNode 0 (by decide))] :=
    obligations_eq _
  rw [check, offence_checkNode_eq_none_iff, parts]
  simp only [List.forall_mem_cons, List.forall_mem_append]
  exact ⟨⟨rfl, rfl, reference, rfl, identifier, rfl, rfl, scope, by simp⟩, rfl, by simp⟩

/-- The identifier, after its label is taken out. -/
def unlabelledReference : (ofOutline (scopeLast.withoutArgAt 1 "label")).NodeAt :=
  ⟨1, by decide⟩

/-- The only reference is the identifier, so without its label this is the first one that is not
resolved. -/
theorem firstUnbound_scopeLast : FirstUnbound 2 unlabelledReference ⟨"", 1⟩ := by
  have held : ("data_value", Arg.node unlabelledReference) ∈
      (ofOutline (scopeLast.withoutArgAt 1 "label")).root.args := List.mem_cons_self
  refine ⟨by decide, ⟨rfl, _, "data_value", rfl, held⟩, rfl, ?_⟩
  intro reference below isReference
  have := isReference.id_pos
  change reference.id < 1 at below
  omega

/-- Without the scope, the sequence is what a check ends with; without its label, the identifier is,
which refers to nothing then; with a speed, the variable is. -/
theorem check_edited_scopeLast :
    EndsAt boundGrammar () (scopeLast.withoutArgAt 0 "locals") (scopeLast.withoutArg "locals") 0
      (.missingArg .sequence "locals" ["data_value"]) ∧
    EndsAt boundGrammar () (scopeLast.withoutArgAt 1 "label") (.ofKind .identifier) 1
      (.unboundVariable "") ∧
    EndsAt boundGrammar () (scopeLast.withArgAt 3 "speed" (.leaf (.integer 1)))
      ⟨.variableDeclaration, [("label", .leaf (.string "spot")), ("speed", .leaf (.integer 1))],
        [], none⟩ 3
      (.extraArgs .variableDeclaration ["speed"] ["label"]) := by
  have sequence := check_edited ruleless_boundGrammar passes_scopeLast (scopeLastNode 0 (by decide))
  have identifier :=
    check_edited ruleless_boundGrammar passes_scopeLast (scopeLastNode 1 (by decide))
  have declaration :=
    check_edited ruleless_boundGrammar passes_scopeLast (scopeLastNode 3 (by decide))
  refine ⟨?absent, ?unbound, ?surplus⟩
  case absent =>
    have part : (scopeLastNode 0 (by decide)).outline = scopeLast := outline_ofOutline scopeLast
    cases sequence.1 "locals" (by decide) with
    | missingArg _ ends =>
      rw [part] at ends
      exact ends
    | unbound unresolved _ _ _ =>
      have := unresolved.isReference.id_pos
      have below := unresolved.lt
      change _ < 0 + 1 at below
      omega
  case unbound =>
    cases identifier.1 "label" (by decide) with
    | missingArg resolved _ =>
      obtain ⟨declaration, answer⟩ := resolved unlabelledReference (by decide)
        firstUnbound_scopeLast.isReference
      cases firstUnbound_scopeLast.unresolved.symm.trans answer
    | @unbound reference _ _ unresolved ends _ _ =>
      -- The sequence is no reference, so that the identifier is the one.
      have positive := unresolved.isReference.id_pos
      have below := unresolved.lt
      change reference.id < 1 + 1 at below
      obtain rfl : reference = unlabelledReference := by
        apply NodeAt.ext
        change reference.id = 1
        omega
      have part : unlabelledReference.outline = .ofKind .identifier := NodeAt.outline_eq _
      rw [← part]
      exact ends
  case surplus =>
    obtain ⟨required, known, ends⟩ := declaration.2
    obtain rfl : ["label"] = required := Except.ok.inj known
    have part : (scopeLastNode 3 (by decide)).outline =
        ⟨.variableDeclaration, [("label", .leaf (.string "spot"))], [], none⟩ :=
      NodeAt.outline_eq _
    have added := ends "speed" (by decide) (.integer 1)
    rw [part] at added
    exact added

/-- A check does not end with an absent key at every node that it is taken out of. Without its label
an identifier refers to nothing, which is found before it is entered. -/
theorem not_forall_missingArg :
    ¬ ∀ (D : Type) (grammar : Grammar D) (device : D) (outline : Outline), grammar.Ruleless →
      outline.KeysDistinct → (check grammar device (ofOutline outline)).offence = none →
      ∀ (node : (ofOutline outline).NodeAt), ∀ key ∈ node.argKeys, ∃ diagnostic,
        (check grammar device (ofOutline (outline.withoutArgAt node.id key))).offence =
          some diagnostic ∧
        diagnostic.fault = .missingArg ∧ diagnostic.node = some node.id := by
  intro all
  obtain ⟨diagnostic, offence, fault, _⟩ := all Unit boundGrammar () scopeLast ruleless_boundGrammar
    (keysDistinct_of_perm (List.Perm.swap _ _ _)) passes_scopeLast (scopeLastNode 1 (by decide))
    "label" (by decide)
  have ends := offence_of_firstUnbound ruleless_boundGrammar passes_scopeLast
    (argsOnly_withoutArg "label") (by decide) firstUnbound_scopeLast
  cases offence.symm.trans ends
  cases fault

end SequenceCheck.Check
