import SequenceCheck.Proofs.Check.Consulted
import SequenceCheck.Proofs.Check.Offends
import SequenceCheck.Proofs.Check.Validity
import SequenceCheck.Proofs.Grammar.Admission

/-!
# Closed grammars

A grammar is closed if it defines every key that its nodes require (`KeysDefined`) and every kind
that may stand somewhere (`KindsDefined`). A check by such a grammar never comes to a key or a kind
without an entry: a key is looked up only after the keys of the node have been found to be the
required ones, and a node is entered only after its kind has been found to be allowed.

Main statement: a check by a grammar that defines the keys it uses never answers that a key is
unknown, and if the kinds are defined too it never answers that a kind is unknown
(`offence_of_closed`). Grammars that are loaded define the keys they use.
-/

set_option autoImplicit false

namespace SequenceCheck

open SequenceCheck.Tree

variable {D : Type}

namespace Grammar

/-- Every kind that may stand under a key or in a body has an entry. -/
structure KindsDefined (grammar : Grammar D) : Prop where
  args : ∀ (key : String) (entry : ArgEntry D), grammar.args[key]? = some entry →
    ∀ kind, entry.allowsKind kind = true → grammar.hasNode kind = true
  nodes : ∀ kind (entry : NodeEntry D), grammar.nodes kind = some entry →
    ∀ child, entry.allowsChild child = true → grammar.hasNode child = true

/-- No rule objects with a fault. -/
structure RulesAvoid (grammar : Grammar D) (fault : Fault) : Prop where
  args : ∀ (key : String) (entry : ArgEntry D) (rule : ArgRule D),
    grammar.args[key]? = some entry → entry.rule = some rule →
    ∀ (tree : Tree) (arg : tree.ArgAt) device diagnostic,
      rule tree arg device = .error diagnostic → diagnostic.fault ≠ fault
  nodes : ∀ kind (entry : NodeEntry D) (rule : NodeRule D),
    grammar.nodes kind = some entry → entry.rule = some rule →
    ∀ (tree : Tree) (node : tree.NodeAt) device diagnostic,
      rule tree node device = .error diagnostic → diagnostic.fault ≠ fault

end Grammar

namespace Check

variable {tree : Tree} {grammar : Grammar D} {device : D} {diagnostic : Diagnostic}

/-! ## What fails for want of an entry -/

/-- A key is unknown if the entry that is consulted is missing, or if a rule says so. -/
theorem missing_of_unknownArg (avoid : grammar.RulesAvoid .unknownArg)
    {obligation : Obligation tree} (fails : Fails grammar device obligation diagnostic)
    (fault : diagnostic.fault = .unknownArg) :
    ∃ key : String, obligation.key? = some key ∧ grammar.args[key]? = none := by
  cases fails with
  | unknownNodeKey unknown => exact ⟨_, rfl, unknown⟩
  | unknownLeafKey unknown => exact ⟨_, rfl, unknown⟩
  | argRule known attached objection =>
    exact absurd fault (avoid.args _ _ _ known attached _ _ _ _ objection)
  | nodeRule known attached objection =>
    exact absurd fault (avoid.nodes _ _ _ known attached _ _ _ _ objection)
  | unknownBody _ _ => cases fault
  | strayChild _ _ _ _ => cases fault
  | unknownKeys _ => cases fault
  | absentKey _ _ _ _ => cases fault
  | surplusKeys _ _ _ => cases fault
  | unbound _ _ _ => cases fault
  | strayNode _ _ _ => cases fault
  | strayLeaf _ _ => cases fault
  | malformed => cases fault
  | unknownRule _ => cases fault

/-- A kind is unknown if the entry that is consulted is missing, or if a rule says so. -/
theorem missing_of_unknownNode (avoid : grammar.RulesAvoid .unknownNode)
    {obligation : Obligation tree} (fails : Fails grammar device obligation diagnostic)
    (fault : diagnostic.fault = .unknownNode) :
    ∃ kind, obligation.kind? = some kind ∧ grammar.nodes kind = none := by
  cases fails with
  | unknownBody _ unknown => exact ⟨_, rfl, unknown⟩
  | unknownKeys unknown => exact ⟨_, rfl, unknown⟩
  | unknownRule unknown => exact ⟨_, rfl, unknown⟩
  | argRule known attached objection =>
    exact absurd fault (avoid.args _ _ _ known attached _ _ _ _ objection)
  | nodeRule known attached objection =>
    exact absurd fault (avoid.nodes _ _ _ known attached _ _ _ _ objection)
  | strayChild _ _ _ _ => cases fault
  | absentKey _ _ _ _ => cases fault
  | surplusKeys _ _ _ => cases fault
  | unknownNodeKey _ => cases fault
  | unbound _ _ _ => cases fault
  | strayNode _ _ _ => cases fault
  | unknownLeafKey _ => cases fault
  | strayLeaf _ _ => cases fault
  | malformed => cases fault

/-! ## What a check comes to -/

/-- The kind of a node is the one that is consulted about the node. -/
theorem kind_of_own {node : tree.NodeAt} {obligation : Obligation tree} (own : obligation.Of node)
    {kind : Kind} (consulted : obligation.kind? = some kind) : node.kind = kind := by
  cases own with
  | body => exact Option.some.inj consulted
  | keys => exact Option.some.inj consulted
  | pairing _ => cases consulted
  | argRule _ => cases consulted
  | nodeRule => exact Option.some.inj consulted

section OfOutline

variable {outline : Outline} {node : (ofOutline outline).NodeAt}

/-- The key that is consulted about a node is one of its argument keys. -/
theorem key_of_own {obligation : Obligation (ofOutline outline)} (own : obligation.Of node)
    {key : String} (consulted : obligation.key? = some key) : key ∈ node.argKeys := by
  have present : ∀ {held : String} {arg : (ofOutline outline).ArgAt}, (held, arg) ∈ node.args →
      held ∈ node.argKeys := fun mem => List.mem_map.2 ⟨_, mem, rfl⟩
  cases own with
  | body => cases consulted
  | keys => cases consulted
  | @pairing held arg mem =>
    cases arg with
    | node child =>
      rw [← Option.some.inj consulted]
      exact present mem
    | leaf leaf =>
      -- A leaf knows the key that it stands under.
      rw [← Option.some.inj consulted, (stored_of_mem_args mem).1]
      exact present mem
    | malformed raw => cases consulted
  | argRule mem =>
    rw [← Option.some.inj consulted]
    exact present mem
  | nodeRule => cases consulted

/-- With the keys of a node in order, an obligation of the node does not fail for want of a key that
the grammar defines. -/
theorem fault_ne_unknownArg_of_fails (defined : grammar.KeysDefined)
    (avoid : grammar.RulesAvoid .unknownArg) {obligation : Obligation (ofOutline outline)}
    (keys : Meets grammar device (.keys node)) (own : obligation.Of node)
    (fails : Fails grammar device obligation diagnostic) : diagnostic.fault ≠ .unknownArg := by
  intro fault
  obtain ⟨key, consulted, missing⟩ := missing_of_unknownArg avoid fails fault
  obtain ⟨entry, known, same⟩ := keys
  have required : key ∈ entry.keys := (same key).1 (key_of_own own consulted)
  obtain ⟨arg, found⟩ := Grammar.hasArg_iff.1 (defined node.kind entry known key required)
  cases missing.symm.trans found

/-- An obligation of a node whose kind is defined does not fail for want of the kind. -/
theorem fault_ne_unknownNode_of_fails (avoid : grammar.RulesAvoid .unknownNode)
    {obligation : Obligation tree} {node : tree.NodeAt} (known : grammar.hasNode node.kind = true)
    (own : obligation.Of node) (fails : Fails grammar device obligation diagnostic) :
    diagnostic.fault ≠ .unknownNode := by
  intro fault
  obtain ⟨kind, consulted, missing⟩ := missing_of_unknownNode avoid fails fault
  rw [kind_of_own own consulted, Grammar.hasNode, missing] at known
  cases known

/-- A check by a grammar that defines the keys it uses comes to no key without an entry. -/
theorem fault_ne_unknownArg (defined : grammar.KeysDefined)
    (avoid : grammar.RulesAvoid .unknownArg) (offends : Offends grammar device diagnostic node) :
    diagnostic.fault ≠ .unknownArg := by
  -- What a check asks before the keys of a node are found to be in order consults no key.
  induction offends with
  | body fails =>
    intro fault
    obtain ⟨key, consulted, _⟩ := missing_of_unknownArg avoid fails fault
    cases consulted
  | keys _ fails =>
    intro fault
    obtain ⟨key, consulted, _⟩ := missing_of_unknownArg avoid fails fault
    cases consulted
  | pairing _ keys mem fails =>
    exact fault_ne_unknownArg_of_fails defined avoid keys (.pairing mem) fails
  | argRule _ keys mem _ fails =>
    exact fault_ne_unknownArg_of_fails defined avoid keys (.argRule mem) fails
  | nodeRule _ keys fails =>
    exact fault_ne_unknownArg_of_fails defined avoid keys .nodeRule fails
  | argument _ _ _ _ _ ih => exact ih
  | child _ _ _ _ ih => exact ih

/-- A check by a closed grammar, from a node whose kind is defined, comes to no kind without an
entry. -/
theorem fault_ne_unknownNode (kinds : grammar.KindsDefined)
    (avoid : grammar.RulesAvoid .unknownNode) {node : tree.NodeAt}
    (offends : Offends grammar device diagnostic node) (known : grammar.hasNode node.kind = true) :
    diagnostic.fault ≠ .unknownNode := by
  -- Along the way down every node that is entered is of a defined kind: the root by assumption, and
  -- every other one because its owner allows it.
  induction offends with
  | body fails => exact fault_ne_unknownNode_of_fails avoid known .body fails
  | keys _ fails => exact fault_ne_unknownNode_of_fails avoid known .keys fails
  | pairing _ _ mem fails => exact fault_ne_unknownNode_of_fails avoid known (.pairing mem) fails
  | argRule _ _ mem _ fails => exact fault_ne_unknownNode_of_fails avoid known (.argRule mem) fails
  | nodeRule _ _ fails => exact fault_ne_unknownNode_of_fails avoid known .nodeRule fails
  | argument _ _ _ pairing _ ih =>
    -- The key that the node stands under allows its kind.
    obtain ⟨entry, found, allowed, _⟩ := pairing
    exact ih (kinds.args _ entry found _ allowed)
  | child body _ mem _ ih =>
    -- The body that the node stands in allows its kind.
    obtain ⟨entry, found, allowed⟩ := body _ mem
    exact ih (kinds.nodes _ entry found _ allowed)

end OfOutline

/-- Grammars that are loaded from a schema or from a text of any format define the keys that they
use, whatever rules are attached to them. A check by a grammar that does so answers for no tree that
a key is unknown, unless a rule does. If every kind that is allowed anywhere is defined, it does not
answer either that a kind is unknown, for any tree whose root is of a defined kind. -/
theorem offence_of_closed :
    (∀ schema (loaded : Grammar D) attachments, Grammar.ofSchema schema = .ok loaded →
      (loaded.attachAll attachments).KeysDefined) ∧
    (∀ [Schema.Format] text (loaded : Grammar D) attachments, Grammar.ofText text = .ok loaded →
      (loaded.attachAll attachments).KeysDefined) ∧
    ∀ grammar : Grammar D, grammar.KeysDefined → ∀ device outline diagnostic,
      (check grammar device (ofOutline outline)).offence = some diagnostic →
      (grammar.RulesAvoid .unknownArg → diagnostic.fault ≠ .unknownArg) ∧
      (grammar.RulesAvoid .unknownNode → grammar.KindsDefined →
        grammar.hasNode outline.kind = true → diagnostic.fault ≠ .unknownNode) := by
  have attached : ∀ schema (loaded : Grammar D) attachments,
      Grammar.ofSchema schema = .ok loaded → (loaded.attachAll attachments).KeysDefined := by
    intro schema loaded attachments ok
    exact (Grammar.alike_attachAll loaded attachments).keysDefined
      (Grammar.keysDefined_of_ofSchema ok)
  refine ⟨attached, ?_, ?_⟩
  · intro _ text loaded attachments ok
    rw [Grammar.ofText] at ok
    split at ok
    · rename_i schema _
      exact attached schema loaded attachments ok
    · cases ok
  · intro grammar defined device outline diagnostic offence
    have offends := offends_of_offence offence
    refine ⟨fun avoid => fault_ne_unknownArg defined avoid offends, ?_⟩
    intro avoid kinds root
    apply fault_ne_unknownNode kinds avoid offends
    rw [(holds_root outline).kind]
    exact root

/-! ## A closed grammar with a rule -/

/-- Sequences consist of pauses, and a pause has a length. -/
def pauseSchema : Schema where
  args := [⟨"milliseconds", [], [.integer]⟩]
  nodes := [⟨.sequence, [], [.wait]⟩, ⟨.wait, ["milliseconds"], []⟩]

/-- The grammar of this schema. -/
def pauseGrammar : Grammar Unit :=
  (Grammar.empty.defineArgs pauseSchema.args).defineNodes pauseSchema.nodes

/-- A rule that accepts no length. -/
def pauseRule : Grammar.Attachment Unit :=
  .argRule "milliseconds" fun _ _ _ => .error (.custom "too long")

/-- A sequence with a pause that has no length. -/
def pauseOutline : Outline :=
  ⟨.sequence, [], [.ofKind .wait], none⟩

/-- The pause in its tree. -/
def pauseNode : (ofOutline pauseOutline).NodeAt :=
  ⟨1, Nat.one_lt_two⟩

theorem ofSchema_pauseSchema : Grammar.ofSchema pauseSchema = .ok pauseGrammar := by
  refine Grammar.ofSchema_eq_ok_iff.2 ⟨by decide, ⟨by decide, ?_⟩, rfl⟩
  simp [pauseSchema, Schema.Declares]

theorem ruleless_pauseGrammar : pauseGrammar.Ruleless :=
  Grammar.ruleless_of_ofSchema ofSchema_pauseSchema

theorem rulesAvoid_pauseRule {fault : Fault} (other : fault ≠ .custom) :
    (pauseGrammar.attachAll [pauseRule]).RulesAvoid fault where
  args key entry rule known attached tree arg device diagnostic objection := by
    change (pauseGrammar.attachArgRule "milliseconds" _).args[key]? = _ at known
    rw [Grammar.args_attachArgRule] at known
    split at known
    · obtain ⟨earlier, _, rfl⟩ := Option.map_eq_some_iff.1 known
      cases attached
      cases objection
      exact other.symm
    · cases (ruleless_pauseGrammar.args key entry known).symm.trans attached
  nodes kind entry rule known attached := by
    cases (ruleless_pauseGrammar.nodes kind entry known).symm.trans attached

/-- The only kind that may stand anywhere is that of pauses, in a body. -/
theorem kindsDefined_pauseRule : (pauseGrammar.attachAll [pauseRule]).KindsDefined where
  args key entry known kind allowed := by
    change (pauseGrammar.attachArgRule "milliseconds" _).args[key]? = _ at known
    rw [Grammar.args_attachArgRule] at known
    have leavesOnly : ∀ earlier, pauseGrammar.args[key]? = some earlier →
        earlier.allowsKind kind = false := by
      intro earlier found
      change (Grammar.empty.defineArg "milliseconds" [] [.integer]).args[key]? = _ at found
      rw [Grammar.args_defineArg, Grammar.args_empty] at found
      split at found
      · cases found
        rfl
      · cases found
    split at known
    · obtain ⟨earlier, found, rfl⟩ := Option.map_eq_some_iff.1 known
      cases (leavesOnly earlier found).symm.trans allowed
    · cases (leavesOnly entry known).symm.trans allowed
  nodes kind entry known child allowed := by
    change ((Grammar.empty.defineNode .sequence [] [.wait]).defineNode .wait ["milliseconds"]
      []).nodes kind = _ at known
    rw [Grammar.nodes_defineNode, Grammar.nodes_defineNode] at known
    split at known
    · cases known
      cases allowed
    · split at known
      · cases known
        rw [List.mem_singleton.1 (List.contains_iff_mem.1 allowed)]
        rfl
      · cases known

/-- The length is missing. Neither is a key unknown, nor a kind. -/
theorem offence_of_closed_pauseRule :
    (check (pauseGrammar.attachAll [pauseRule]) () (ofOutline pauseOutline)).offence =
      some ((Diagnostic.missingArg .wait "milliseconds" []).located 1) ∧
    ((Diagnostic.missingArg .wait "milliseconds" []).located 1).fault ≠ .unknownArg ∧
    ((Diagnostic.missingArg .wait "milliseconds" []).located 1).fault ≠ .unknownNode := by
  have defined : (pauseGrammar.attachAll [pauseRule]).KeysDefined :=
    offence_of_closed.1 pauseSchema pauseGrammar [pauseRule] ofSchema_pauseSchema
  have offence :
      (check (pauseGrammar.attachAll [pauseRule]) () (ofOutline pauseOutline)).offence =
        some ((Diagnostic.missingArg .wait "milliseconds" []).located 1) := by
    have pause : obligations pauseNode =
        [.body pauseNode, .keys pauseNode, .nodeRule pauseNode] :=
      obligations_eq pauseNode
    have sequence : obligations (ofOutline pauseOutline).root =
        .body (ofOutline pauseOutline).root :: .keys (ofOutline pauseOutline).root ::
          .nodeRule (ofOutline pauseOutline).root :: (obligations pauseNode ++ []) :=
      obligations_eq (ofOutline pauseOutline).root
    rw [check, checkNode_eq_askAll, sequence, pause]
    rfl
  obtain ⟨keys, kinds⟩ := offence_of_closed.2.2 _ defined () pauseOutline _ offence
  exact ⟨offence, keys (rulesAvoid_pauseRule (by decide)),
    kinds (rulesAvoid_pauseRule (by decide)) kindsDefined_pauseRule rfl⟩

end Check

end SequenceCheck
