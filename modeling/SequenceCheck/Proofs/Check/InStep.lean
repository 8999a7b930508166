import SequenceCheck.Proofs.Check.Alike
import SequenceCheck.Proofs.Tree.SameLayout

/-!
# Checks in step

If two trees look alike, with the same numbers and with arguments in the same order, then a check
asks the same of related nodes in the same order. If rules agree, it ends at related obligations,
and with the same diagnostic, unless this is about an identifier without a declaration.

Main statements: the obligations of related nodes are related one by one (`forall₂_obligations`),
one that fails does so at related nodes (`Obligation.Rel.fails`), and so checks of related nodes
both pass or end with the same diagnostic: without rules up to what is said of unbound identifiers
(`rel_offence_checkNode`), and with rules that agree if identifiers are unbound in the same way
(`offence_checkNode_eq`).
-/

set_option autoImplicit false

namespace SequenceCheck.Check

open SequenceCheck.Tree

variable {D : Type} {one other : Tree}

/-- Trees look alike, with the same numbers and with arguments in the same order. -/
structure InStep (node : one.NodeAt → other.NodeAt → Prop)
    (leaf : one.LeafAt → other.LeafAt → Prop) : Prop extends AskedAlike node leaf where
  id : ∀ {x y}, node x y → x.id = y.id
  args : ∀ {x y}, node x y → List.Forall₂ (Keyed.Rel (Arg.Rel node leaf)) x.args y.args
  owner : ∀ {l m}, leaf l m → node l.owner m.owner

/-- Trees of one layout are checked in step, if their values are of the same types and labels are
spelled in one way. -/
theorem inStep_of_sameLayout {revalue : String → Value → Value} {spell : Value → Value}
    (layout : SameLayout revalue one other)
    (respelled : Scope.Respelled (@SameNumber one other) SameLeafNumber spell)
    (types : ∀ key value, (revalue key value).type = value.type) :
    InStep (@SameNumber one other) SameLeafNumber where
  toAskedAlike := by
    apply askedAlike_of_respelled respelled
    · intro l m number
      exact (congrArg Leaf.key (layout.stored_leaf number)).symm
    · intro l m number
      have value : m.value = revalue l.key l.value :=
        congrArg Leaf.value (layout.stored_leaf number)
      rw [value, types]
  id number := number
  args number := layout.args number
  owner number := (congrArg Leaf.owner (layout.stored_leaf number)).symm

variable {node : one.NodeAt → other.NodeAt → Prop} {leaf : one.LeafAt → other.LeafAt → Prop}

/-- Related nodes have the same keys in the same order. -/
theorem InStep.argKeys (inStep : InStep node leaf) {x : one.NodeAt} {y : other.NodeAt}
    (related : node x y) : x.argKeys = y.argKeys :=
  Keyed.keys_of_forall₂ (inStep.args related)

/-- The obligations of related nodes are related one by one. -/
theorem forall₂_obligations (inStep : InStep node leaf) {x : one.NodeAt} {y : other.NodeAt}
    (related : node x y) :
    List.Forall₂ (Obligation.Rel node leaf) (obligations x) (obligations y) := by
  induction x using NodeAt.induct_children generalizing y with
  | step x ih =>
    rw [obligations_eq, obligations_eq]
    refine .cons (.body related) (.cons (.keys related) (List.rel_append ?_ ?_))
    · apply forall₂_flatMap (inStep.args related)
      rintro ⟨key, a⟩ mem ⟨_, b⟩ ⟨same⟩
      refine .cons (.pairing related same) (.cons (.argRule related same) ?_)
      cases same with
      | node below => exact ih _ (NodeAt.mem_children_iff.2 (.inl ⟨key, mem⟩)) below
      | leaf _ => exact .nil
      | malformed => exact .nil
    · refine .cons (.nodeRule related) (forall₂_flatMap (inStep.body related) ?_)
      intro child mem counterpart below
      exact ih child (NodeAt.mem_children_iff.2 (.inr mem)) below

variable {grammar : Grammar D} {device second : D} {x : one.NodeAt} {y : other.NodeAt}
  {diagnostic : Diagnostic}

/-! ## Obligations that fail at related nodes -/

/-- Where a body is not as it has to be, that of a related node is not either. -/
theorem fails_body (inStep : InStep node leaf) (related : node x y)
    (fails : Fails grammar device (.body x) diagnostic) :
    Fails grammar second (.body y) diagnostic := by
  have bodies := inStep.body related
  have kind := inStep.kind related
  cases fails with
  | unknownBody nonempty unknown =>
    rw [kind] at unknown
    rw [kind, inStep.id related]
    refine .unknownBody ?_ unknown
    intro empty
    rw [empty, List.forall₂_nil_right_iff] at bodies
    exact nonempty bodies
  | @strayChild _ child entry before after known split allowed stray =>
    rw [split] at bodies
    obtain ⟨earlier, counterpart, later, splitOther, same, here⟩ := exists_split_of_forall₂ bodies
    rw [kind] at known
    rw [inStep.kind here] at stray
    rw [kind, inStep.id here, inStep.kind here, same.length_eq]
    refine .strayChild known splitOther ?_ stray
    intro child mem
    obtain ⟨original, inBefore, below⟩ := exists_of_forall₂_mem same.flip mem
    rw [← inStep.kind below]
    exact allowed original inBefore

/-- Where the keys are not as they have to be, those of a related node are not either. -/
theorem fails_keys (inStep : InStep node leaf) (related : node x y)
    (fails : Fails grammar device (.keys x) diagnostic) :
    Fails grammar second (.keys y) diagnostic := by
  have keys := inStep.argKeys related
  cases fails with
  | unknownKeys unknown =>
    rw [inStep.kind related] at unknown
    rw [inStep.kind related, inStep.id related]
    exact .unknownKeys unknown
  | absentKey known split present absent =>
    rw [inStep.kind related] at known
    rw [keys] at present absent
    rw [inStep.kind related, inStep.id related, keys]
    exact .absentKey known split present absent
  | surplusKeys known present surplus =>
    rw [inStep.kind related] at known
    rw [keys] at present surplus
    rw [inStep.kind related, inStep.id related, keys]
    exact .surplusKeys known present surplus

/-- Identifiers of which a diagnostic says that they are unbound are so at related nodes too, with
the same label and number. -/
def UnboundAlike (node : one.NodeAt → other.NodeAt → Prop) (diagnostic : Diagnostic) : Prop :=
  ∀ x y unbound, node x y → Scope.resolve x = .error unbound → unbound.diagnostic = diagnostic →
    Scope.resolve y = .error unbound

/-- A diagnostic about something else says nothing of unbound identifiers. -/
theorem unboundAlike_of_fault (bound : diagnostic.fault ≠ .unboundVariable) :
    UnboundAlike node diagnostic := by
  rintro x y unbound _ _ rfl
  exact absurd rfl bound

/-- Where an argument may not stand, a related one may not either. -/
theorem fails_pairing (inStep : InStep node leaf) (related : node x y) {key : String}
    {a : one.ArgAt} {b : other.ArgAt} (same : Arg.Rel node leaf a b)
    (unboundAlike : UnboundAlike node diagnostic)
    (fails : Fails grammar device (.pairing x key a) diagnostic) :
    Fails grammar second (.pairing y key b) diagnostic := by
  cases same with
  | node below =>
    cases fails with
    | unknownNodeKey unknown =>
      rw [inStep.id related]
      exact .unknownNodeKey unknown
    | unbound known identifier answer =>
      rw [inStep.kind below] at identifier
      have said := diagnostic_of_resolve_eq_error answer
      rw [← said]
      exact fails_of_unbound known identifier (unboundAlike _ _ _ below answer said)
    | strayNode known resolved stray =>
      rw [inStep.kind below] at stray
      rw [inStep.kind below, inStep.kind related, inStep.id below]
      refine .strayNode known ?_ stray
      intro identifier
      rw [← inStep.kind below] at identifier
      obtain ⟨declaration, answer⟩ := resolved identifier
      exact inStep.resolved below answer
  | leaf held =>
    have owners := inStep.owner held
    cases fails with
    | unknownLeafKey unknown =>
      rw [inStep.key held] at unknown
      rw [inStep.key held, inStep.id owners]
      exact .unknownLeafKey unknown
    | strayLeaf known stray =>
      rw [inStep.key held] at known
      rw [inStep.type held] at stray
      rw [inStep.key held, inStep.type held, inStep.kind owners, inStep.id owners]
      exact .strayLeaf known stray
  | malformed =>
    cases fails with
    | malformed =>
      rw [inStep.id related]
      exact .malformed

/-- If rules agree, an obligation that fails does so at related nodes, with the same diagnostic
unless it is an identifier that is unbound in another way. -/
theorem Obligation.Rel.fails {obligation : Obligation one} {counterpart : Obligation other}
    (related : obligation.Rel node leaf counterpart) (inStep : InStep node leaf)
    (rules : RulesAgree grammar device second node leaf)
    (unboundAlike : UnboundAlike node diagnostic)
    (fails : Fails grammar device obligation diagnostic) :
    Fails grammar second counterpart diagnostic := by
  cases related with
  | body same => exact fails_body inStep same fails
  | keys same => exact fails_keys inStep same fails
  | pairing same args => exact fails_pairing inStep same args unboundAlike fails
  | argRule _ args =>
    cases fails with
    | argRule known attached objection =>
      rw [rules.arg known attached args] at objection
      exact .argRule known attached objection
  | nodeRule same =>
    cases fails with
    | unknownRule unknown =>
      rw [inStep.kind same] at unknown
      rw [inStep.kind same]
      exact .unknownRule unknown
    | nodeRule known attached objection =>
      rw [rules.node known attached same] at objection
      rw [inStep.kind same] at known
      exact .nodeRule known attached objection

/-- Without rules, only identifiers under a key are said to be unbound. -/
theorem exists_unbound_of_fault {tree : Tree} {obligation : Obligation tree}
    (bare : grammar.Ruleless) (fails : Fails grammar device obligation diagnostic)
    (fault : diagnostic.fault = .unboundVariable) :
    ∃ owner key child entry unbound, obligation = .pairing owner key (.node child) ∧
      grammar.args[key]? = some entry ∧ child.kind = .identifier ∧
      Scope.resolve child = .error unbound ∧ diagnostic = unbound.diagnostic := by
  cases fails with
  | unbound known identifier unresolved =>
    exact ⟨_, _, _, _, _, rfl, known, identifier, unresolved,
      (diagnostic_of_resolve_eq_error unresolved).symm⟩
  | argRule known attached _ => cases (bare.args _ _ known).symm.trans attached
  | nodeRule known attached _ => cases (bare.nodes _ _ known).symm.trans attached
  | unknownBody _ _ => cases fault
  | strayChild _ _ _ _ => cases fault
  | unknownKeys _ => cases fault
  | absentKey _ _ _ _ => cases fault
  | surplusKeys _ _ _ => cases fault
  | unknownNodeKey _ => cases fault
  | strayNode _ _ _ => cases fault
  | unknownLeafKey _ => cases fault
  | strayLeaf _ _ => cases fault
  | malformed => cases fault
  | unknownRule _ => cases fault

/-! ## What checks of related nodes answer -/

/-- One diagnostic is repeated by the other if the two are the same, or if they say of related
references that these are unbound. -/
inductive Repeats (node : one.NodeAt → other.NodeAt → Prop) : Diagnostic → Diagnostic → Prop where
  | same {diagnostic : Diagnostic} :
      diagnostic.fault ≠ .unboundVariable → Repeats node diagnostic diagnostic
  | unbound {x : one.NodeAt} {y : other.NodeAt} {unbound counterpart : Scope.Unbound} :
      node x y → Scope.resolve x = .error unbound → Scope.resolve y = .error counterpart →
      Repeats node unbound.diagnostic counterpart.diagnostic

/-- If checks answer alike about related obligations, they answer alike about related nodes. -/
theorem rel_offence_of_obligations {S : Diagnostic → Diagnostic → Prop}
    (inStep : InStep node leaf)
    (each : ∀ obligation counterpart, Obligation.Rel node leaf obligation counterpart →
      Option.Rel S (ask grammar device obligation).offence (ask grammar second counterpart).offence)
    (related : node x y) :
    Option.Rel S (checkNode grammar device x).offence (checkNode grammar second y).offence := by
  rw [checkNode_eq_askAll, checkNode_eq_askAll, askAll, askAll, offence_sequence, offence_sequence,
    List.findSome?_map, List.findSome?_map]
  exact findSome?_of_forall₂ (forall₂_obligations inStep related) each

/-- Without rules, checks of related nodes both pass or the one repeats what the other says. -/
theorem rel_offence_checkNode (inStep : InStep node leaf) (bare : grammar.Ruleless)
    (unresolved : ∀ x y unbound, node x y → Scope.resolve x = .error unbound →
      ∃ counterpart, Scope.resolve y = .error counterpart)
    (related : node x y) :
    Option.Rel (Repeats node) (checkNode grammar device x).offence
      (checkNode grammar second y).offence := by
  have rules : RulesAgree grammar device second node leaf := rulesAgree_of_ruleless bare
  apply rel_offence_of_obligations inStep _ related
  intro obligation counterpart same
  -- What ends the one check ends the other: what is met is met there, and what fails fails there.
  rcases meets_or_fails grammar device obligation with meets | ⟨diagnostic, fails⟩
  · have metOther : Meets grammar second counterpart := same.meets inStep.toAskedAlike rules meets
    rw [offence_ask_of_meets meets, offence_ask_of_meets metOther]
    exact .none
  · rw [offence_ask_of_fails fails]
    by_cases bound : diagnostic.fault = .unboundVariable
    · obtain ⟨owner, key, child, entry, unbound, rfl, known, identifier, answer, rfl⟩ :=
        exists_unbound_of_fault bare fails bound
      cases same with
      | pairing _ args =>
        cases args with
        | node below =>
          obtain ⟨counterpart, answerOther⟩ := unresolved _ _ _ below answer
          rw [inStep.kind below] at identifier
          rw [offence_ask_of_fails (fails_of_unbound known identifier answerOther)]
          exact .some (.unbound below answer answerOther)
    · have failsOther : Fails grammar second counterpart diagnostic :=
        same.fails inStep rules (unboundAlike_of_fault bound) fails
      rw [offence_ask_of_fails failsOther]
      exact .some (.same bound)

/-- If rules agree, and identifiers that are unbound are so at related nodes with the same label and
number, then checks of related nodes give the same answer. -/
theorem offence_checkNode_eq (inStep : InStep node leaf)
    (rules : RulesAgree grammar device second node leaf)
    (unboundAlike : ∀ diagnostic, UnboundAlike node diagnostic) (related : node x y) :
    (checkNode grammar device x).offence = (checkNode grammar second y).offence := by
  apply eq_of_rel
  apply rel_offence_of_obligations inStep _ related
  intro obligation counterpart same
  rcases meets_or_fails grammar device obligation with meets | ⟨diagnostic, fails⟩
  · have metOther : Meets grammar second counterpart := same.meets inStep.toAskedAlike rules meets
    rw [offence_ask_of_meets meets, offence_ask_of_meets metOther]
    exact .none
  · have failsOther : Fails grammar second counterpart diagnostic :=
      same.fails inStep rules (unboundAlike diagnostic) fails
    rw [offence_ask_of_fails fails, offence_ask_of_fails failsOther]
    exact .some rfl

end SequenceCheck.Check
