import SequenceCheck.Proofs.Check.Obligations
import SequenceCheck.Proofs.Check.Remarks
import SequenceCheck.Proofs.Scope.Resolution

/-!
# Meeting obligations and failing them

`Meets grammar device obligation` says that an obligation is met, and
`Fails grammar device obligation diagnostic` that it is not, and with which diagnostic: what is
wrong, in which words, and at which node. Both speak of the entries of the grammar, of keys and of
kinds, and not of the functions that look for failures, make diagnostics or locate them; the words
are those of remarks (`Remark.wording`), whose data are lists of keys and kinds and the place of a
child in a body.

Main statements: an obligation is met or fails (`meets_or_fails`), a check has nothing to say about
it exactly if it is met (`offence_ask_eq_none_iff`) and otherwise answers as it fails
(`offence_ask_eq_some_iff`), and a check of a tree answers as the first obligation fails that is not
met (`offence_check_eq_first_failure`).
-/

set_option autoImplicit false

namespace SequenceCheck.Check

open SequenceCheck.Tree

variable {D : Type} {tree : Tree}

/-- An obligation is met. -/
def Meets (grammar : Grammar D) (device : D) : Obligation tree → Prop
  | .body node =>
    ∀ child ∈ node.body, ∃ entry, grammar.nodes node.kind = some entry ∧
      entry.allowsChild child.kind = true
  | .keys node =>
    ∃ entry, grammar.nodes node.kind = some entry ∧ ∀ key, key ∈ node.argKeys ↔ key ∈ entry.keys
  | .pairing _ key (.node node) =>
    ∃ entry, grammar.args[key]? = some entry ∧ entry.allowsKind node.kind = true ∧
      (node.kind = .identifier → ∃ declaration, Scope.resolve node = .ok declaration)
  | .pairing _ _ (.leaf leaf) =>
    ∃ entry, grammar.args[leaf.key]? = some entry ∧ entry.allowsType leaf.value.type = true
  | .pairing _ _ (.malformed _) => False
  | .argRule _ key arg =>
    ∀ entry rule, grammar.args[key]? = some entry → entry.rule = some rule →
      rule tree arg device = .ok ()
  | .nodeRule node =>
    ∃ entry, grammar.nodes node.kind = some entry ∧
      ∀ rule, entry.rule = some rule → rule tree node device = .ok ()

/-- The text about a kind of node that the grammar does not define. -/
def unknownNodeText (kind : Kind) : String :=
  "Can't find validation rules for node '" ++ kind.name ++ "'"

/-- The text about an argument that the grammar does not define. -/
def unknownArgText (key : String) : String :=
  "Can't find validation rules for argument '" ++ key ++ "'"

/-- An obligation is not met, and the diagnostic says so: it consists of the fault, the message and
the node to blame. -/
inductive Fails (grammar : Grammar D) (device : D) : Obligation tree → Diagnostic → Prop where
  /-- The grammar does not say what may stand in a body that is not empty. -/
  | unknownBody {node : tree.NodeAt} :
      node.body ≠ [] → grammar.nodes node.kind = none →
      Fails grammar device (.body node) ⟨.unknownNode, unknownNodeText node.kind, some node.id⟩
  /-- The first child of a kind that may not stand in a body, with its index there. -/
  | strayChild {node child : tree.NodeAt} {entry : NodeEntry D} {before after : List tree.NodeAt} :
      grammar.nodes node.kind = some entry → node.body = before ++ child :: after →
      (∀ earlier ∈ before, entry.allowsChild earlier.kind = true) →
      entry.allowsChild child.kind = false →
      Fails grammar device (.body node)
        ⟨.badBody, Remark.wording (.badBody node.kind child.kind before.length entry.children),
          some child.id⟩
  /-- The grammar does not say which keys a node has. -/
  | unknownKeys {node : tree.NodeAt} :
      grammar.nodes node.kind = none →
      Fails grammar device (.keys node) ⟨.unknownNode, unknownNodeText node.kind, some node.id⟩
  /-- The first required key that a node does not have, with the keys that it has. -/
  | absentKey {node : tree.NodeAt} {entry : NodeEntry D} {key : String}
      {before after : List String} :
      grammar.nodes node.kind = some entry → entry.keys = before ++ key :: after →
      (∀ earlier ∈ before, earlier ∈ node.argKeys) → key ∉ node.argKeys →
      Fails grammar device (.keys node)
        ⟨.missingArg, Remark.wording (.missingArg node.kind key node.argKeys), some node.id⟩
  /-- A node has all the required keys and others, which are listed. -/
  | surplusKeys {node : tree.NodeAt} {entry : NodeEntry D} :
      grammar.nodes node.kind = some entry → (∀ key ∈ entry.keys, key ∈ node.argKeys) →
      (∃ key ∈ node.argKeys, key ∉ entry.keys) →
      Fails grammar device (.keys node)
        ⟨.extraArgs,
          Remark.wording
            (.extraArgs node.kind (node.argKeys.filter (· ∉ entry.keys)) entry.keys),
          some node.id⟩
  /-- The grammar does not say what may stand under the key of a node. -/
  | unknownNodeKey {owner node : tree.NodeAt} {key : String} :
      grammar.args[key]? = none →
      Fails grammar device (.pairing owner key (.node node))
        ⟨.unknownArg, unknownArgText key, some owner.id⟩
  /-- An identifier under a key refers to nothing. Its label is shown, if it has one. -/
  | unbound {owner node : tree.NodeAt} {key : String} {entry : ArgEntry D}
      {unbound : Scope.Unbound} :
      grammar.args[key]? = some entry → node.kind = .identifier →
      Scope.resolve node = .error unbound →
      Fails grammar device (.pairing owner key (.node node))
        ⟨.unboundVariable,
          Remark.wording (.unboundVariable ((node.leafValue? "label").elim "" Value.display)),
          some node.id⟩
  /-- A node is of a kind that may not stand under its key, and it is no identifier without a
  declaration. -/
  | strayNode {owner node : tree.NodeAt} {key : String} {entry : ArgEntry D} :
      grammar.args[key]? = some entry →
      (node.kind = .identifier → ∃ declaration, Scope.resolve node = .ok declaration) →
      entry.allowsKind node.kind = false →
      Fails grammar device (.pairing owner key (.node node))
        ⟨.badLeaf, Remark.wording (.strayNode node.kind owner.kind entry.kinds), some node.id⟩
  /-- The grammar does not say what may stand under the key of a leaf. -/
  | unknownLeafKey {owner : tree.NodeAt} {key : String} {leaf : tree.LeafAt} :
      grammar.args[leaf.key]? = none →
      Fails grammar device (.pairing owner key (.leaf leaf))
        ⟨.unknownArg, unknownArgText leaf.key, some leaf.owner.id⟩
  /-- A leaf is of a type that may not stand under its key. -/
  | strayLeaf {owner : tree.NodeAt} {key : String} {leaf : tree.LeafAt} {entry : ArgEntry D} :
      grammar.args[leaf.key]? = some entry → entry.allowsType leaf.value.type = false →
      Fails grammar device (.pairing owner key (.leaf leaf))
        ⟨.badLeaf,
          Remark.wording (.strayLeaf leaf.key leaf.owner.kind entry.types leaf.value.type),
          some leaf.owner.id⟩
  /-- An argument is neither a node nor a leaf. -/
  | malformed {owner : tree.NodeAt} {key : String} {raw : Json} :
      Fails grammar device (.pairing owner key (.malformed raw))
        ⟨.malformed, Remark.wording (.malformed key), some owner.id⟩
  /-- The rule of a key objects to an argument, in a diagnostic of its own. -/
  | argRule {owner : tree.NodeAt} {key : String} {arg : tree.ArgAt} {entry : ArgEntry D}
      {rule : ArgRule D} {diagnostic : Diagnostic} :
      grammar.args[key]? = some entry → entry.rule = some rule →
      rule tree arg device = .error diagnostic →
      Fails grammar device (.argRule owner key arg) diagnostic
  /-- There is no telling what the rule for a node is, and no node is named. The keys of the node,
  an earlier obligation, fail then too. -/
  | unknownRule {node : tree.NodeAt} :
      grammar.nodes node.kind = none →
      Fails grammar device (.nodeRule node) ⟨.unknownNode, unknownNodeText node.kind, none⟩
  /-- The rule of its kind objects to a node, in a diagnostic of its own. -/
  | nodeRule {node : tree.NodeAt} {entry : NodeEntry D} {rule : NodeRule D}
      {diagnostic : Diagnostic} :
      grammar.nodes node.kind = some entry → entry.rule = some rule →
      rule tree node device = .error diagnostic →
      Fails grammar device (.nodeRule node) diagnostic

variable {grammar : Grammar D} {device : D}

/-! ## One or the other -/

/-- All items of a list have a property, or there is a first one without it. -/
theorem forall_or_exists_first {α : Type} (p : α → Prop) (items : List α) :
    (∀ item ∈ items, p item) ∨
      ∃ before item after, items = before ++ item :: after ∧
        (∀ earlier ∈ before, p earlier) ∧ ¬ p item := by
  induction items with
  | nil =>
    left
    intro item mem
    exact absurd mem List.not_mem_nil
  | cons item rest ih =>
    by_cases here : p item
    · rcases ih with all | ⟨before, stray, after, rfl, earlier, none⟩
      · left
        exact List.forall_mem_cons.2 ⟨here, all⟩
      · right
        exact ⟨item :: before, stray, after, rfl, List.forall_mem_cons.2 ⟨here, earlier⟩, none⟩
    · right
      refine ⟨[], item, rest, rfl, ?_, here⟩
      intro earlier mem
      exact absurd mem List.not_mem_nil

theorem body_meets_or_fails (grammar : Grammar D) (device : D) (node : tree.NodeAt) :
    Meets grammar device (.body node) ∨
      ∃ diagnostic, Fails grammar device (.body node) diagnostic := by
  by_cases empty : node.body = []
  · left
    intro child mem
    rw [empty] at mem
    exact absurd mem List.not_mem_nil
  cases known : grammar.nodes node.kind with
  | none => exact .inr ⟨_, .unknownBody empty known⟩
  | some entry =>
    rcases forall_or_exists_first (fun child => entry.allowsChild child.kind = true) node.body with
      all | ⟨before, child, after, split, allowed, stray⟩
    · left
      intro child mem
      exact ⟨entry, known, all child mem⟩
    · exact .inr ⟨_, .strayChild known split allowed (Bool.eq_false_iff.2 stray)⟩

theorem keys_meets_or_fails (grammar : Grammar D) (device : D) (node : tree.NodeAt) :
    Meets grammar device (.keys node) ∨
      ∃ diagnostic, Fails grammar device (.keys node) diagnostic := by
  cases known : grammar.nodes node.kind with
  | none => exact .inr ⟨_, .unknownKeys known⟩
  | some entry =>
    -- An absent key is the failure even if there are other keys beside.
    rcases forall_or_exists_first (· ∈ node.argKeys) entry.keys with
      all | ⟨before, key, after, split, present, absent⟩
    · by_cases surplus : ∃ key ∈ node.argKeys, key ∉ entry.keys
      · exact .inr ⟨_, .surplusKeys known all surplus⟩
      · left
        refine ⟨entry, known, fun key => ⟨?_, all key⟩⟩
        intro mem
        apply Decidable.byContradiction
        intro absent
        exact surplus ⟨key, mem, absent⟩
    · exact .inr ⟨_, .absentKey known split present absent⟩

/-- A node is no identifier without a declaration, or it is one. -/
theorem resolved_or_unbound (node : tree.NodeAt) :
    (node.kind = .identifier → ∃ declaration, Scope.resolve node = .ok declaration) ∨
      node.kind = .identifier ∧ ∃ unbound, Scope.resolve node = .error unbound := by
  by_cases identifier : node.kind = .identifier
  · cases answer : Scope.resolve node with
    | ok declaration =>
      left
      intro _
      exact ⟨declaration, rfl⟩
    | error unbound => exact .inr ⟨identifier, unbound, rfl⟩
  · left
    intro same
    exact absurd same identifier

theorem pairing_meets_or_fails (grammar : Grammar D) (device : D) (owner : tree.NodeAt)
    (key : String) (arg : tree.ArgAt) :
    Meets grammar device (.pairing owner key arg) ∨
      ∃ diagnostic, Fails grammar device (.pairing owner key arg) diagnostic := by
  cases arg with
  | node node =>
    cases known : grammar.args[key]? with
    | none => exact .inr ⟨_, .unknownNodeKey known⟩
    | some entry =>
      -- Whether an identifier refers to anything comes before what its key allows.
      rcases resolved_or_unbound node with resolved | ⟨identifier, unbound, answer⟩
      · cases allowed : entry.allowsKind node.kind with
        | true => exact .inl ⟨entry, known, allowed, resolved⟩
        | false => exact .inr ⟨_, .strayNode known resolved allowed⟩
      · exact .inr ⟨_, .unbound known identifier answer⟩
  | leaf leaf =>
    cases known : grammar.args[leaf.key]? with
    | none => exact .inr ⟨_, .unknownLeafKey known⟩
    | some entry =>
      cases allowed : entry.allowsType leaf.value.type with
      | true => exact .inl ⟨entry, known, allowed⟩
      | false => exact .inr ⟨_, .strayLeaf known allowed⟩
  | malformed raw => exact .inr ⟨_, .malformed⟩

/-- An obligation is met or fails. -/
theorem meets_or_fails (grammar : Grammar D) (device : D) (obligation : Obligation tree) :
    Meets grammar device obligation ∨ ∃ diagnostic, Fails grammar device obligation diagnostic := by
  cases obligation with
  | body node => exact body_meets_or_fails grammar device node
  | keys node => exact keys_meets_or_fails grammar device node
  | pairing owner key arg => exact pairing_meets_or_fails grammar device owner key arg
  | argRule owner key arg =>
    by_cases objects : ∃ entry rule diagnostic, grammar.args[key]? = some entry ∧
        entry.rule = some rule ∧ rule tree arg device = .error diagnostic
    · obtain ⟨entry, rule, diagnostic, known, attached, objection⟩ := objects
      exact .inr ⟨diagnostic, .argRule known attached objection⟩
    · left
      intro entry rule known attached
      cases answer : rule tree arg device with
      | ok => rfl
      | error diagnostic => exact absurd ⟨entry, rule, diagnostic, known, attached, answer⟩ objects
  | nodeRule node =>
    cases known : grammar.nodes node.kind with
    | none => exact .inr ⟨_, .unknownRule known⟩
    | some entry =>
      by_cases objects : ∃ rule diagnostic, entry.rule = some rule ∧
          rule tree node device = .error diagnostic
      · obtain ⟨rule, diagnostic, attached, objection⟩ := objects
        exact .inr ⟨diagnostic, .nodeRule known attached objection⟩
      · left
        refine ⟨entry, known, ?_⟩
        intro rule attached
        cases answer : rule tree node device with
        | ok => rfl
        | error diagnostic => exact absurd ⟨rule, diagnostic, attached, answer⟩ objects

/-! ## How diagnostics are made -/

theorem located_unknownNode (kind : Kind) (node : Nat) :
    (Diagnostic.unknownNode kind).located node = ⟨.unknownNode, unknownNodeText kind, some node⟩ :=
  rfl

theorem located_unknownArg (key : String) (node : Nat) :
    (Diagnostic.unknownArg key).located node = ⟨.unknownArg, unknownArgText key, some node⟩ :=
  rfl

/-- A step answers with a remark that is located at a node. -/
theorem error_located (remark : Remark) (node : Nat) :
    (Except.error (remark.diagnostic.located node) : Except Diagnostic Unit) =
      .error ⟨remark.fault, remark.wording, some node⟩ :=
  congrArg Except.error (located_diagnostic remark node)

/-- A reference that refers to nothing is remarked on at its node, by its label as it is shown. -/
theorem diagnostic_of_resolve_eq_error {node : tree.NodeAt} {unbound : Scope.Unbound}
    (answer : Scope.resolve node = .error unbound) :
    unbound.diagnostic =
      ⟨.unboundVariable,
        Remark.wording (.unboundVariable ((node.leafValue? "label").elim "" Value.display)),
        some node.id⟩ := by
  rcases Scope.resolve_eq_error_iff.1 answer with ⟨absent, rfl⟩ | ⟨label, labelled, _, rfl⟩
  · have unlabelled : node.leafValue? "label" = none := by
      apply Option.eq_none_iff_forall_ne_some.2
      intro label found
      exact absent label (Scope.leafValue?_eq_some_iff.1 found)
    rw [unlabelled]
    exact located_diagnostic (.unboundVariable "") node.id
  · rw [Scope.leafValue?_eq_some_iff.2 labelled]
    exact located_diagnostic (.unboundVariable label.display) node.id

/-- An identifier that refers to nothing fails with what is said of the reference. -/
theorem fails_of_unbound {owner node : tree.NodeAt} {key : String} {entry : ArgEntry D}
    {unbound : Scope.Unbound} (known : grammar.args[key]? = some entry)
    (identifier : node.kind = .identifier) (answer : Scope.resolve node = .error unbound) :
    Fails grammar device (.pairing owner key (.node node)) unbound.diagnostic := by
  rw [diagnostic_of_resolve_eq_error answer]
  exact .unbound known identifier answer

/-! ## What the steps of a check answer -/

section Body

variable {node : tree.NodeAt}

theorem checkBody_of_meets (meets : Meets grammar device (.body node)) :
    checkBody grammar node = .ok () := by
  by_cases empty : node.body = []
  · rw [checkBody, if_pos (List.isEmpty_iff.2 empty)]
  · -- The entry that allows the first child allows them all.
    obtain ⟨first, mem⟩ := List.exists_mem_of_ne_nil _ empty
    obtain ⟨entry, known, _⟩ := meets first mem
    apply checkBody_of_allowed known
    intro child inBody
    obtain ⟨other, same, allowed⟩ := meets child inBody
    obtain rfl : entry = other := Option.some.inj (known.symm.trans same)
    exact allowed

theorem checkBody_of_fails {diagnostic : Diagnostic}
    (fails : Fails grammar device (.body node) diagnostic) :
    checkBody grammar node = .error diagnostic := by
  cases fails with
  | unknownBody nonempty unknown =>
    rw [checkBody, if_neg (mt List.isEmpty_iff.1 nonempty), Grammar.nodeEntry_of_none unknown,
      mapError_error_bind, located_unknownNode]
  | @strayChild _ child entry before after known split allowed stray =>
    exact (checkBody_of_stray known split allowed stray).trans
      (error_located (.badBody node.kind child.kind before.length entry.children) child.id)

end Body

section Keys

variable {node : tree.NodeAt}

theorem hasArg_eq_true_iff {key : String} : node.hasArg key = true ↔ key ∈ node.argKeys :=
  List.contains_iff_mem

/-- With all required keys there, only other keys can be wrong. -/
theorem checkKeys_of_present {entry : NodeEntry D} (known : grammar.nodes node.kind = some entry)
    (present : ∀ key ∈ entry.keys, key ∈ node.argKeys) :
    checkKeys grammar node =
      if (node.argKeys.filter (· ∉ entry.keys)).isEmpty then .ok ()
      else .error ((Diagnostic.extraArgs node.kind (node.argKeys.filter (· ∉ entry.keys))
        entry.keys).located node.id) := by
  have none : (entry.keys.find? fun key => !node.hasArg key) = none := by
    apply List.find?_eq_none.2
    intro key mem
    simp [hasArg_eq_true_iff.2 (present key mem)]
  have surplus : (node.argKeys.filter fun key => !entry.keys.contains key) =
      node.argKeys.filter (· ∉ entry.keys) := by simp
  rw [checkKeys, Grammar.requiredKeys, Grammar.nodeEntry_of_some known, Except.map,
    mapError_ok_bind, none, ← surplus]

theorem checkKeys_of_meets (meets : Meets grammar device (.keys node)) :
    checkKeys grammar node = .ok () := by
  obtain ⟨entry, known, same⟩ := meets
  have none : node.argKeys.filter (· ∉ entry.keys) = [] := by
    apply List.filter_eq_nil_iff.2
    intro key mem
    simpa using (same key).1 mem
  rw [checkKeys_of_present known fun key mem => (same key).2 mem, none]
  rfl

theorem checkKeys_of_fails {diagnostic : Diagnostic}
    (fails : Fails grammar device (.keys node) diagnostic) :
    checkKeys grammar node = .error diagnostic := by
  cases fails with
  | unknownKeys unknown =>
    rw [checkKeys, Grammar.requiredKeys, Grammar.nodeEntry_of_none unknown, Except.map,
      mapError_error_bind, located_unknownNode]
  | @absentKey node entry key before after known split present absent =>
    have first : (entry.keys.find? fun key => !node.hasArg key) = some key := by
      refine List.find?_eq_some_iff_append.2 ⟨?_, before, after, split, ?_⟩
      · simp [Bool.eq_false_iff.2 (mt hasArg_eq_true_iff.1 absent)]
      · intro earlier mem
        simp [hasArg_eq_true_iff.2 (present earlier mem)]
    rw [checkKeys, Grammar.requiredKeys, Grammar.nodeEntry_of_some known, Except.map,
      mapError_ok_bind, first]
    exact error_located (.missingArg node.kind key node.argKeys) node.id
  | @surplusKeys node entry known present surplus =>
    obtain ⟨key, mem, absent⟩ := surplus
    have inSurplus : key ∈ node.argKeys.filter (· ∉ entry.keys) :=
      List.mem_filter.2 ⟨mem, decide_eq_true absent⟩
    have nonempty : ¬ (node.argKeys.filter (· ∉ entry.keys)).isEmpty = true := by
      intro empty
      exact List.ne_nil_of_mem inSurplus (List.isEmpty_iff.1 empty)
    rw [checkKeys_of_present known present, if_neg nonempty]
    exact error_located
      (.extraArgs node.kind (node.argKeys.filter (· ∉ entry.keys)) entry.keys) node.id

end Keys

section Pairing

variable {owner : tree.NodeAt} {key : String}

/-- With a known key and no identifier left unresolved, only the kind of a node can be wrong. -/
theorem checkNodeArg_of_resolved {node : tree.NodeAt} {entry : ArgEntry D}
    (known : grammar.args[key]? = some entry)
    (resolved : node.kind = .identifier → ∃ declaration, Scope.resolve node = .ok declaration) :
    checkNodeArg grammar owner key node =
      if entry.allowsKind node.kind then .ok ()
      else .error ((Diagnostic.badLeaf node.kind.name owner.kind
        (Text.quotedList (entry.kinds.map Kind.name)) node.kind.name).located node.id) := by
  rw [checkNodeArg, Grammar.argEntry_of_some known, mapError_ok_bind]
  by_cases identifier : node.kind = .identifier
  · obtain ⟨declaration, answer⟩ := resolved identifier
    rw [if_pos identifier, answer]
    rfl
  · rw [if_neg identifier]

theorem checkPairing_of_meets {arg : tree.ArgAt}
    (meets : Meets grammar device (.pairing owner key arg)) :
    checkPairing grammar owner key arg = .ok () := by
  cases arg with
  | node node =>
    obtain ⟨entry, known, allowed, resolved⟩ := meets
    rw [checkPairing, checkNodeArg_of_resolved known resolved, if_pos allowed]
  | leaf leaf =>
    obtain ⟨entry, known, allowed⟩ := meets
    rw [checkPairing, checkLeaf, Grammar.argEntry_of_some known, mapError_ok_bind, if_pos allowed]
  | malformed raw => exact meets.elim

theorem checkPairing_of_fails {arg : tree.ArgAt} {diagnostic : Diagnostic}
    (fails : Fails grammar device (.pairing owner key arg) diagnostic) :
    checkPairing grammar owner key arg = .error diagnostic := by
  cases fails with
  | unknownNodeKey unknown =>
    rw [checkPairing, checkNodeArg, Grammar.argEntry_of_none unknown, mapError_error_bind,
      located_unknownArg]
  | unbound known identifier answer =>
    rw [checkPairing, checkNodeArg, Grammar.argEntry_of_some known, mapError_ok_bind,
      if_pos identifier, answer, ← diagnostic_of_resolve_eq_error answer]
    rfl
  | @strayNode _ node _ entry known resolved stray =>
    rw [checkPairing, checkNodeArg_of_resolved known resolved, if_neg (Bool.eq_false_iff.1 stray)]
    exact error_located (.strayNode node.kind owner.kind entry.kinds) node.id
  | unknownLeafKey unknown =>
    rw [checkPairing, checkLeaf, Grammar.argEntry_of_none unknown, mapError_error_bind,
      located_unknownArg]
  | @strayLeaf _ _ leaf entry known stray =>
    rw [checkPairing, checkLeaf, Grammar.argEntry_of_some known, mapError_ok_bind,
      if_neg (Bool.eq_false_iff.1 stray)]
    exact error_located (.strayLeaf leaf.key leaf.owner.kind entry.types leaf.value.type)
      leaf.owner.id
  | malformed => exact error_located (.malformed key) owner.id

end Pairing

/-! ## What a check says about an obligation -/

/-- A check has nothing to say about an obligation that is met. -/
theorem offence_ask_of_meets {obligation : Obligation tree}
    (meets : Meets grammar device obligation) : (ask grammar device obligation).offence = none := by
  cases obligation with
  | body node => rw [ask, checkBody_of_meets meets]; rfl
  | keys node => rw [ask, checkKeys_of_meets meets]; rfl
  | pairing owner key arg => rw [ask, checkPairing_of_meets meets]; rfl
  | argRule owner key arg =>
    cases found : grammar.argRule? key with
    | none =>
      simp only [ask, askArgRule, found]
      rfl
    | some rule =>
      obtain ⟨entry, known, attached⟩ := Grammar.argRule?_eq_some_iff.1 found
      simp only [ask, askArgRule, found, meets entry rule known attached]
      rfl
  | nodeRule node =>
    obtain ⟨entry, known, accepts⟩ := meets
    rw [ask, askNodeRule, Grammar.nodeEntry_of_some known]
    cases attached : entry.rule with
    | none =>
      simp only [attached]
      rfl
    | some rule =>
      simp only [attached, accepts rule attached]
      rfl

/-- A check answers as an obligation fails. -/
theorem offence_ask_of_fails {obligation : Obligation tree} {diagnostic : Diagnostic}
    (fails : Fails grammar device obligation diagnostic) :
    (ask grammar device obligation).offence = some diagnostic := by
  cases obligation with
  | body node => rw [ask, checkBody_of_fails fails]; rfl
  | keys node => rw [ask, checkKeys_of_fails fails]; rfl
  | pairing owner key arg => rw [ask, checkPairing_of_fails fails]; rfl
  | argRule owner key arg =>
    cases fails with
    | argRule known attached objection =>
      have found := Grammar.argRule?_eq_some_iff.2 ⟨_, known, attached⟩
      simp only [ask, askArgRule, found, objection]
      rfl
  | nodeRule node =>
    cases fails with
    | unknownRule unknown =>
      rw [ask, askNodeRule, Grammar.nodeEntry_of_none unknown]
      rfl
    | nodeRule known attached objection =>
      rw [ask, askNodeRule, Grammar.nodeEntry_of_some known]
      simp only [attached, objection]
      rfl

/-- A check has nothing to say about exactly those obligations that are met. -/
theorem offence_ask_eq_none_iff {obligation : Obligation tree} :
    (ask grammar device obligation).offence = none ↔ Meets grammar device obligation := by
  constructor
  · intro silent
    rcases meets_or_fails grammar device obligation with meets | ⟨diagnostic, fails⟩
    · exact meets
    · cases silent.symm.trans (offence_ask_of_fails fails)
  · exact offence_ask_of_meets

/-- A check answers as an obligation fails, and only so. -/
theorem offence_ask_eq_some_iff {obligation : Obligation tree} {diagnostic : Diagnostic} :
    (ask grammar device obligation).offence = some diagnostic ↔
      Fails grammar device obligation diagnostic := by
  constructor
  · intro answer
    rcases meets_or_fails grammar device obligation with meets | ⟨other, fails⟩
    · cases answer.symm.trans (offence_ask_of_meets meets)
    · -- An obligation fails in one way only, since a check gives one answer.
      have same : diagnostic = other :=
        Option.some.inj (answer.symm.trans (offence_ask_of_fails fails))
      rw [same]
      exact fails
  · exact offence_ask_of_fails

/-- A check of a tree passes if all obligations below the root are met; otherwise it answers as the
first one fails that is not met. -/
theorem offence_check_eq_first_failure (grammar : Grammar D) (device : D) (tree : Tree) :
    ((check grammar device tree).offence = none ↔
      ∀ obligation ∈ obligations tree.root, Meets grammar device obligation) ∧
    ∀ diagnostic, (check grammar device tree).offence = some diagnostic ↔
      ∃ before obligation after, obligations tree.root = before ++ obligation :: after ∧
        (∀ earlier ∈ before, Meets grammar device earlier) ∧
        Fails grammar device obligation diagnostic := by
  constructor
  · rw [check, offence_checkNode_eq_none_iff]
    simp only [offence_ask_eq_none_iff]
  · intro diagnostic
    rw [check, offence_checkNode_eq_some_iff]
    simp only [offence_ask_eq_none_iff, offence_ask_eq_some_iff, and_comm]

end SequenceCheck.Check
