import SequenceCheck.Proofs.Check.Failures
import SequenceCheck.Proofs.Grammar.Alike
import SequenceCheck.Proofs.Scope.Respelled
import SequenceCheck.Proofs.Tree.Alike

/-!
# Obligations in trees that look alike

Rules apart, an obligation about a node asks for nothing that a related node of a tree that looks
alike would not have: kinds, keys, types of leaves, and that identifiers refer to something. Rules
may ask for anything; they agree on two trees if they answer alike where nodes and arguments are
related (`RulesAgree`).

Main statements: if rules agree, an obligation that is met is met at related nodes
(`Obligation.Rel.meets`), and so without rules a check passes for both trees or for neither
(`passes_of_rel`).
-/

set_option autoImplicit false

namespace SequenceCheck.Check

open SequenceCheck.Tree

variable {D : Type} {one other : Tree}

/-- A check passes for the tree of an outline if its nodes meet the obligations that they have of
their own. -/
theorem passes_iff_meets {grammar : Grammar D} {device : D} {outline : Outline} :
    (check grammar device (ofOutline outline)).offence = none ↔
      ∀ (node : (ofOutline outline).NodeAt) (obligation : Obligation (ofOutline outline)),
        obligation.Of node → Meets grammar device obligation := by
  rw [check, offence_checkNode_eq_none_iff]
  simp only [offence_ask_eq_none_iff]
  constructor
  · intro meets node obligation own
    exact meets obligation (mem_obligations_iff.2 ⟨node, mem_preorder_root node, own⟩)
  · intro meets obligation mem
    obtain ⟨node, _, own⟩ := mem_obligations_iff.1 mem
    exact meets node obligation own

/-- Two obligations ask the same about related nodes and arguments. -/
inductive Obligation.Rel (node : one.NodeAt → other.NodeAt → Prop)
    (leaf : one.LeafAt → other.LeafAt → Prop) : Obligation one → Obligation other → Prop where
  | body {x : one.NodeAt} {y : other.NodeAt} : node x y → Rel node leaf (.body x) (.body y)
  | keys {x : one.NodeAt} {y : other.NodeAt} : node x y → Rel node leaf (.keys x) (.keys y)
  | pairing {x : one.NodeAt} {y : other.NodeAt} {key : String} {a : one.ArgAt} {b : other.ArgAt} :
      node x y → Arg.Rel node leaf a b → Rel node leaf (.pairing x key a) (.pairing y key b)
  | argRule {x : one.NodeAt} {y : other.NodeAt} {key : String} {a : one.ArgAt} {b : other.ArgAt} :
      node x y → Arg.Rel node leaf a b → Rel node leaf (.argRule x key a) (.argRule y key b)
  | nodeRule {x : one.NodeAt} {y : other.NodeAt} :
      node x y → Rel node leaf (.nodeRule x) (.nodeRule y)

/-- Trees look alike in all that obligations ask about: leaves stand under the same keys and are of
the same types, and what is resolved in the one tree is resolved in the other. -/
structure AskedAlike (node : one.NodeAt → other.NodeAt → Prop)
    (leaf : one.LeafAt → other.LeafAt → Prop) : Prop extends Tree.Alike node leaf where
  key : ∀ {l m}, leaf l m → l.key = m.key
  type : ∀ {l m}, leaf l m → l.value.type = m.value.type
  resolved : ∀ {x y declaration}, node x y → Scope.resolve x = .ok declaration →
    ∃ counterpart, Scope.resolve y = .ok counterpart

variable {node : one.NodeAt → other.NodeAt → Prop} {leaf : one.LeafAt → other.LeafAt → Prop}
  {grammar : Grammar D} {device second : D}

/-- What obligations ask about leaves is their keys and types. Where labels are spelled otherwise,
what is resolved stays so. -/
theorem askedAlike_of_respelled {spell : Value → Value}
    (respelled : Scope.Respelled node leaf spell) (key : ∀ l m, leaf l m → l.key = m.key)
    (type : ∀ l m, leaf l m → l.value.type = m.value.type) : AskedAlike node leaf where
  toAlike := respelled.toAlike
  key related := key _ _ related
  type related := type _ _ related
  resolved related answer := by
    obtain ⟨counterpart, resolved, _⟩ := respelled.exists_resolve related answer
    exact ⟨counterpart, resolved⟩

/-- The rules of a grammar answer alike, each for its device, where they are asked about related
arguments or nodes. -/
structure RulesAgree (grammar : Grammar D) (device second : D)
    (node : one.NodeAt → other.NodeAt → Prop) (leaf : one.LeafAt → other.LeafAt → Prop) : Prop where
  arg : ∀ {key : String} {entry : ArgEntry D} {rule : ArgRule D} {a : one.ArgAt} {b : other.ArgAt},
    grammar.args[key]? = some entry → entry.rule = some rule → Arg.Rel node leaf a b →
      rule one a device = rule other b second
  node : ∀ {kind : Kind} {entry : NodeEntry D} {rule : NodeRule D} {x : one.NodeAt}
    {y : other.NodeAt}, grammar.nodes kind = some entry → entry.rule = some rule → node x y →
      rule one x device = rule other y second

/-- Where there are no rules they agree. -/
theorem rulesAgree_of_ruleless (bare : grammar.Ruleless) :
    RulesAgree grammar device second node leaf where
  arg known attached _ := by cases (bare.args _ _ known).symm.trans attached
  node known attached _ := by cases (bare.nodes _ _ known).symm.trans attached

/-- If rules agree, an obligation that is met is met at related nodes. -/
theorem Obligation.Rel.meets {obligation : Obligation one} {counterpart : Obligation other}
    (related : obligation.Rel node leaf counterpart) (alike : AskedAlike node leaf)
    (rules : RulesAgree grammar device second node leaf)
    (met : Meets grammar device obligation) :
    Meets grammar second counterpart := by
  cases related with
  | @body x y same =>
    intro child mem
    obtain ⟨original, inBody, below⟩ := exists_of_forall₂_mem (alike.flip.body same) mem
    rw [← alike.kind same, ← alike.kind below]
    exact met original inBody
  | @keys x y same =>
    obtain ⟨entry, known, keys⟩ := met
    refine ⟨entry, ?_, ?_⟩
    · rw [← alike.kind same]
      exact known
    · intro key
      rw [← alike.mem_argKeys_iff same]
      exact keys key
  | @pairing x y key a b same args =>
    cases args with
    | @node child held below =>
      obtain ⟨entry, known, allowed, resolved⟩ := met
      refine ⟨entry, known, ?_, ?_⟩
      · rw [← alike.kind below]
        exact allowed
      · intro identifier
        rw [← alike.kind below] at identifier
        obtain ⟨declaration, answer⟩ := resolved identifier
        exact alike.resolved below answer
    | leaf below =>
      obtain ⟨entry, known, allowed⟩ := met
      refine ⟨entry, ?_, ?_⟩
      · rw [← alike.key below]
        exact known
      · rw [← alike.type below]
        exact allowed
    | malformed => exact met
  | argRule same args =>
    intro entry rule known attached
    rw [← rules.arg known attached args]
    exact met entry rule known attached
  | @nodeRule x y same =>
    obtain ⟨entry, known, accepts⟩ := met
    refine ⟨entry, ?_, ?_⟩
    · rw [← alike.kind same]
      exact known
    · intro rule attached
      rw [← rules.node known attached same]
      exact accepts rule attached

/-- An obligation that a node has of its own asks the same as one of a related node, if no key comes
twice. -/
theorem exists_rel_of_own (alike : AskedAlike node leaf) {x : one.NodeAt} {y : other.NodeAt}
    (same : node x y) (distinct : y.argKeys.Nodup) {counterpart : Obligation other}
    (own : counterpart.Of y) :
    ∃ obligation : Obligation one, obligation.Of x ∧ obligation.Rel node leaf counterpart := by
  cases own with
  | body => exact ⟨_, .body, .body same⟩
  | keys => exact ⟨_, .keys, .keys same⟩
  | pairing mem =>
    obtain ⟨a, held, args⟩ := alike.exists_mem_args same distinct mem
    exact ⟨_, .pairing held, .pairing same args⟩
  | argRule mem =>
    obtain ⟨a, held, args⟩ := alike.exists_mem_args same distinct mem
    exact ⟨_, .argRule held, .argRule same args⟩
  | nodeRule => exact ⟨_, .nodeRule, .nodeRule same⟩

/-- Without rules, a check that passes for a tree passes for one that looks alike. -/
theorem passes_of_rel {first last : Outline}
    {node : (ofOutline first).NodeAt → (ofOutline last).NodeAt → Prop}
    {leaf : (ofOutline first).LeafAt → (ofOutline last).LeafAt → Prop}
    (alike : AskedAlike node leaf) (bare : grammar.Ruleless)
    (covered : ∀ y, ∃ x, node x y)
    (distinct : ∀ y : (ofOutline last).NodeAt, y.argKeys.Nodup)
    (passes : (check grammar device (ofOutline first)).offence = none) :
    (check grammar second (ofOutline last)).offence = none := by
  apply passes_iff_meets.2
  intro y counterpart own
  obtain ⟨x, same⟩ := covered y
  obtain ⟨obligation, itsOwn, related⟩ := exists_rel_of_own alike same (distinct y) own
  have met := passes_iff_meets.1 passes x obligation itsOwn
  exact related.meets alike (rulesAgree_of_ruleless bare) met

end SequenceCheck.Check
