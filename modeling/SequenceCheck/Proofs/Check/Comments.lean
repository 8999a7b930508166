import SequenceCheck.Proofs.Check.Closed
import SequenceCheck.Proofs.Check.InStep
import SequenceCheck.Proofs.Tree.Comments

/-!
# Checks and comments

A tree carries comments and nothing consults them. A rule may see the whole tree, comments included;
it ignores comments (`ArgRule.IgnoresComments`, `NodeRule.IgnoresComments`) if it answers alike
about arguments or nodes of the same number in trees that are the same but for comments.

Main statement: outlines that differ in comments only have trees with the same nodes and leaves
under the same numbers, in which references are resolved to the same numbers, and if rules ignore
comments a check answers the same for both (`check_ignores_comments`).
-/

set_option autoImplicit false

namespace SequenceCheck

open SequenceCheck.Tree

variable {D : Type}

/-- A rule for arguments answers without regard to comments. -/
def ArgRule.IgnoresComments (rule : ArgRule D) : Prop :=
  ∀ one other : Tree, one.SameButComments other → ∀ (a : one.ArgAt) (b : other.ArgAt),
    Arg.Rel SameNumber SameLeafNumber a b → ∀ device, rule one a device = rule other b device

/-- A rule for nodes answers without regard to comments. -/
def NodeRule.IgnoresComments (rule : NodeRule D) : Prop :=
  ∀ one other : Tree, one.SameButComments other → ∀ (x : one.NodeAt) (y : other.NodeAt),
    SameNumber x y → ∀ device, rule one x device = rule other y device

/-- The rules of a grammar answer without regard to comments. -/
structure Grammar.IgnoresComments (grammar : Grammar D) : Prop where
  args : ∀ (key : String) (entry : ArgEntry D) (rule : ArgRule D),
    grammar.args[key]? = some entry → entry.rule = some rule → rule.IgnoresComments
  nodes : ∀ (kind : Kind) (entry : NodeEntry D) (rule : NodeRule D),
    grammar.nodes kind = some entry → entry.rule = some rule → rule.IgnoresComments

namespace Grammar.IgnoresComments

variable {grammar : Grammar D}

/-- Where there are no rules, none looks at comments. -/
theorem of_ruleless (bare : grammar.Ruleless) : grammar.IgnoresComments where
  args key entry rule known attached := by
    cases (bare.args key entry known).symm.trans attached
  nodes kind entry rule known attached := by
    cases (bare.nodes kind entry known).symm.trans attached

/-- A rule that ignores comments may be attached to a key. -/
theorem attachArgRule (ignores : grammar.IgnoresComments) (name : String) {rule : ArgRule D}
    (rule_ignores : rule.IgnoresComments) : (grammar.attachArgRule name rule).IgnoresComments where
  args key entry other known attached := by
    rw [args_attachArgRule] at known
    split at known
    · obtain ⟨earlier, _, rfl⟩ := Option.map_eq_some_iff.1 known
      obtain rfl := Option.some.inj attached
      exact rule_ignores
    · exact ignores.args key entry other known attached
  nodes := ignores.nodes

/-- A rule that ignores comments may be attached to a kind of node. -/
theorem attachNodeRule (ignores : grammar.IgnoresComments) (kind : Kind) {rule : NodeRule D}
    (rule_ignores : rule.IgnoresComments) :
    (grammar.attachNodeRule kind rule).IgnoresComments where
  args := ignores.args
  nodes held entry other known attached := by
    rw [nodes_attachNodeRule] at known
    split at known
    · obtain ⟨earlier, _, rfl⟩ := Option.map_eq_some_iff.1 known
      obtain rfl := Option.some.inj attached
      exact rule_ignores
    · exact ignores.nodes held entry other known attached

end Grammar.IgnoresComments

namespace Check

variable {grammar : Grammar D} {device : D} {a b : Outline}

/-- Rules that ignore comments agree on trees that are the same but for comments. -/
theorem rulesAgree_of_ignoresComments {one other : Tree} (ignores : grammar.IgnoresComments)
    (same : one.SameButComments other) :
    RulesAgree grammar device device (@SameNumber one other) SameLeafNumber where
  arg known attached related :=
    ignores.args _ _ _ known attached one other same _ _ related device
  node known attached number :=
    ignores.nodes _ _ _ known attached one other same _ _ number device

section SameButComments

/-- In trees that are the same but for comments, labels are spelled in one way. -/
theorem respelled_of_sameButComments (same : (ofOutline a).SameButComments (ofOutline b)) :
    Scope.Respelled (@SameNumber (ofOutline a) (ofOutline b)) SameLeafNumber id where
  toAlike := same.sameLayout.alike
  label number := same.sameLayout.leafValue? number "label"
  same_spell _ _ := rfl

/-- A check asks the same questions of trees that are the same but for comments. -/
theorem inStep_of_sameButComments (same : (ofOutline a).SameButComments (ofOutline b)) :
    InStep (@SameNumber (ofOutline a) (ofOutline b)) SameLeafNumber :=
  inStep_of_sameLayout same.sameLayout (respelled_of_sameButComments same) fun _ _ => rfl

/-- References of one number are resolved to one number, or are unbound with one label. -/
theorem map_id_resolve (same : (ofOutline a).SameButComments (ofOutline b))
    {x : (ofOutline a).NodeAt} {y : (ofOutline b).NodeAt} (number : SameNumber x y) :
    (Scope.resolve x).map NodeAt.id = (Scope.resolve y).map NodeAt.id := by
  have respelled := respelled_of_sameButComments same
  cases resolved : Scope.resolve x with
  | ok declaration =>
    obtain ⟨counterpart, answer, declared⟩ := respelled.exists_resolve number resolved
    rw [answer]
    exact congrArg Except.ok declared
  | error unbound =>
    obtain ⟨counterpart, answer⟩ := respelled.exists_unbound number resolved
    -- What is said of an unbound reference is its label and its number.
    obtain rfl := Scope.unbound_eq_of_resolve resolved
    obtain rfl := Scope.unbound_eq_of_resolve answer
    have label : y.leafValue? "label" = (x.leafValue? "label").map id := respelled.label number
    rw [Option.map_id, id_eq] at label
    rw [answer, label, number]
    rfl

/-- A reference that is unbound is so in the other tree, with the same label and number. -/
theorem resolve_eq_error_of_sameButComments (same : (ofOutline a).SameButComments (ofOutline b))
    {x : (ofOutline a).NodeAt} {y : (ofOutline b).NodeAt} {unbound : Scope.Unbound}
    (number : SameNumber x y) (unresolved : Scope.resolve x = .error unbound) :
    Scope.resolve y = .error unbound := by
  have answers := map_id_resolve same number
  rw [unresolved] at answers
  cases answer : Scope.resolve y with
  | ok declaration =>
    rw [answer] at answers
    cases answers
  | error other =>
    rw [answer] at answers
    rw [Except.error.inj answers]

end SameButComments

/-- Outlines that differ in comments only have trees with the same nodes and leaves under the same
numbers, each node with its own comment. References are resolved to the same numbers, and if rules
ignore comments a check gives the same answer. -/
theorem check_ignores_comments (ignores : grammar.IgnoresComments) (device : D)
    (same : a.uncommented = b.uncommented) :
    (ofOutline a).SameButComments (ofOutline b) ∧
    (ofOutline a).allNodes.map NodeAt.comment = a.comments ∧
    (ofOutline b).allNodes.map NodeAt.comment = b.comments ∧
    (∀ (x : (ofOutline a).NodeAt) (y : (ofOutline b).NodeAt), x.id = y.id →
      (Scope.resolve x).map NodeAt.id = (Scope.resolve y).map NodeAt.id) ∧
    (check grammar device (ofOutline a)).offence =
      (check grammar device (ofOutline b)).offence := by
  have trees := sameButComments_of_uncommented_eq same
  refine ⟨trees, map_comment_allNodes a, map_comment_allNodes b, ?resolved, ?checked⟩
  case resolved =>
    intro x y number
    exact map_id_resolve trees number
  case checked =>
    apply offence_checkNode_eq (inStep_of_sameButComments trees)
      (rulesAgree_of_ignoresComments ignores trees)
    · intro diagnostic x y unbound number unresolved _
      exact resolve_eq_error_of_sameButComments trees number unresolved
    · rfl

/-! ## A pause with comments and without -/

/-- A rule that accepts only pauses of some length. -/
def lengthRule : ArgRule Unit := fun _ arg _ =>
  if arg.leaf?.map LeafAt.value = some (.integer 0) then .error (.custom "no length") else .ok ()

/-- A rule that accepts only pauses in sequences. -/
def placeRule : NodeRule Unit := fun _ node _ =>
  if node.parent.map NodeAt.kind = some .sequence then .ok () else .error (.custom "out of place")

theorem lengthRule_ignoresComments : lengthRule.IgnoresComments := by
  intro one other same a b related device
  have value : a.leaf?.map LeafAt.value = b.leaf?.map LeafAt.value := by
    cases related with
    | node _ => rfl
    | malformed => rfl
    | leaf number =>
      exact congrArg (fun stored => some stored.value) (same.sameLayout.stored_leaf number).symm
  rw [lengthRule, lengthRule, value]

theorem placeRule_ignoresComments : placeRule.IgnoresComments := by
  intro one other same x y number device
  have kind : x.parent.map NodeAt.kind = y.parent.map NodeAt.kind := by
    apply map_eq_map_of_rel (same.sameLayout.alike.parent number)
    intro parent _ counterpart above
    exact same.sameLayout.alike.kind above
  rw [placeRule, placeRule, kind]

/-- A grammar of sequences with a scope and with pauses. -/
def stillGrammar : Grammar Unit :=
  (Grammar.empty.defineArgs
    [⟨"locals", [.scopeDeclaration], []⟩, ⟨"milliseconds", [], [.integer]⟩]).defineNodes
    [⟨.sequence, ["locals"], [.wait]⟩, ⟨.scopeDeclaration, [], []⟩, ⟨.wait, ["milliseconds"], []⟩]

theorem ruleless_stillGrammar : stillGrammar.Ruleless := by
  repeat apply Grammar.Ruleless.defineNode
  repeat apply Grammar.Ruleless.defineArg
  exact Grammar.ruleless_empty

/-- A sequence with an empty scope and a pause of no length, and with given comments. -/
def stillOutline (root scope pause : Option String) : Outline :=
  ⟨.sequence, [("locals", .node ⟨.scopeDeclaration, [], [], scope⟩)],
    [⟨.wait, [("milliseconds", .leaf (.integer 0))], [], pause⟩], root⟩

/-- The grammar with both rules. -/
def ruledGrammar : Grammar Unit :=
  (stillGrammar.attachArgRule "milliseconds" lengthRule).attachNodeRule .wait placeRule

theorem ignoresComments_ruledGrammar : ruledGrammar.IgnoresComments :=
  ((Grammar.IgnoresComments.of_ruleless ruleless_stillGrammar).attachArgRule "milliseconds"
    lengthRule_ignoresComments).attachNodeRule .wait placeRule_ignoresComments

/-- The nodes of the tree without comments: the sequence, the scope and the pause. -/
def stillNode (id : Nat) (inRange : id < 3) : (ofOutline (stillOutline none none none)).NodeAt :=
  ⟨id, inRange⟩

theorem offence_stillOutline :
    (check ruledGrammar () (ofOutline (stillOutline none none none))).offence =
      some (.custom "no length") := by
  have scope : obligations (stillNode 1 (by decide)) = [.body _, .keys _, .nodeRule _] :=
    obligations_eq _
  have pause : obligations (stillNode 2 (by decide)) =
      [.body _, .keys _, .pairing _ "milliseconds" (.leaf ⟨0, Nat.one_pos⟩),
        .argRule _ "milliseconds" (.leaf ⟨0, Nat.one_pos⟩), .nodeRule _] :=
    obligations_eq _
  have sequence : obligations (stillNode 0 (by decide)) =
      .body _ :: .keys _ :: .pairing _ "locals" (.node (stillNode 1 (by decide))) ::
        .argRule _ "locals" (.node (stillNode 1 (by decide))) ::
          ((obligations (stillNode 1 (by decide)) ++ []) ++
            .nodeRule (stillNode 0 (by decide)) ::
              (obligations (stillNode 2 (by decide)) ++ [])) :=
    obligations_eq _
  change (checkNode ruledGrammar () (stillNode 0 (by decide))).offence = _
  rw [checkNode_eq_askAll, sequence, scope, pause]
  rfl

/-- The rule for lengths objects to the pause, with whatever comments. -/
theorem check_ignores_comments_stillOutline :
    ruledGrammar.IgnoresComments ∧
    (stillOutline (some "main") (some "none yet") (some "at once")).uncommented =
      (stillOutline none none none).uncommented ∧
    (check ruledGrammar ()
        (ofOutline (stillOutline (some "main") (some "none yet") (some "at once")))).offence =
      some (.custom "no length") := by
  have same : (stillOutline (some "main") (some "none yet") (some "at once")).uncommented =
      (stillOutline none none none).uncommented := rfl
  obtain ⟨_, _, _, _, answer⟩ := check_ignores_comments ignoresComments_ruledGrammar () same
  exact ⟨ignoresComments_ruledGrammar, same, answer.trans offence_stillOutline⟩

end Check

end SequenceCheck
