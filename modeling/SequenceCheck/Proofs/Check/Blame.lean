import SequenceCheck.Proofs.Check.Course
import SequenceCheck.Proofs.Check.Precedence
import SequenceCheck.Proofs.Check.Validity
import SequenceCheck.Proofs.Scope.Resolution

/-!
# What an offence certifies

A check that does not pass answers with a diagnostic. Either a rule that was called has answered
with this very diagnostic (`Objects`), or the diagnostic names a node, and the node violates the
grammar in the way that the fault says (`Blames`).

Main statement: there is no third case for the tree of an outline (`objects_or_blames_of_offence`).
In particular a diagnostic that names no node comes from a rule: the one that would be given for a
node without an entry when its rule is looked for never ends a check, since the keys of the node
fail before.
-/

set_option autoImplicit false

namespace SequenceCheck.Check

open SequenceCheck.Tree

variable {D : Type} {tree : Tree}

/-- The rule of a call has answered with a diagnostic. -/
inductive Objects (grammar : Grammar D) (device : D) (diagnostic : Diagnostic) :
    Event tree → Prop where
  | argRule {owner : tree.NodeAt} {key : String} {arg : tree.ArgAt} {rule : ArgRule D} :
      (key, arg) ∈ owner.args → grammar.argRule? key = some rule →
      rule tree arg device = .error diagnostic →
      Objects grammar device diagnostic (.argRule owner key arg)
  | nodeRule {node : tree.NodeAt} {rule : NodeRule D} :
      grammar.nodeRule? node.kind = some rule → rule tree node device = .error diagnostic →
      Objects grammar device diagnostic (.nodeRule node)

/-- A node stands under a key of its parent. -/
def StandsUnder (node parent : tree.NodeAt) (key : String) : Prop :=
  node.parent = some parent ∧ (key, Arg.node node) ∈ parent.args

/-- A node violates the grammar in the way that a fault says. -/
def Violates (grammar : Grammar D) (node : tree.NodeAt) : Fault → Prop
  -- A required key is absent.
  | .missingArg => ∃ entry, grammar.nodes node.kind = some entry ∧
      ∃ key ∈ entry.keys, key ∉ node.argKeys
  -- All required keys are there, and another one.
  | .extraArgs => ∃ entry, grammar.nodes node.kind = some entry ∧
      (∀ key ∈ entry.keys, key ∈ node.argKeys) ∧ ∃ key ∈ node.argKeys, key ∉ entry.keys
  -- A leaf of the node is of a type that its key does not allow, or the node itself is of a kind
  -- that the key it stands under does not allow.
  | .badLeaf =>
      (∃ key leaf entry, (key, Arg.leaf leaf) ∈ node.args ∧ grammar.args[key]? = some entry ∧
        entry.allowsType leaf.value.type = false) ∨
      ∃ parent key entry, StandsUnder node parent key ∧ grammar.args[key]? = some entry ∧
        entry.allowsKind node.kind = false
  | .malformed => ∃ key raw, (key, Arg.malformed raw) ∈ node.args
  -- The node stands in a body that does not allow its kind.
  | .badBody => ∃ parent entry, node.parent = some parent ∧ node ∈ parent.body ∧
      grammar.nodes parent.kind = some entry ∧ entry.allowsChild node.kind = false
  -- The node is an identifier under a key, and refers to nothing.
  | .unboundVariable => node.kind = .identifier ∧ (∃ parent key, StandsUnder node parent key) ∧
      ∃ unbound, Scope.resolve node = .error unbound
  | .unknownNode => grammar.nodes node.kind = none
  | .unknownArg => ∃ key arg, (key, arg) ∈ node.args ∧ grammar.args[key]? = none
  -- Only rules object in their own words.
  | .custom => False

/-- A diagnostic names a node that violates the grammar as the diagnostic says. -/
def Blames (grammar : Grammar D) (diagnostic : Diagnostic) (node : tree.NodeAt) : Prop :=
  diagnostic.node = some node.id ∧ Violates grammar node diagnostic.fault

section OfOutline

variable {grammar : Grammar D} {device : D} {outline : Outline}

/-- A node among the arguments of another stands under the key there. -/
theorem standsUnder_of_mem_args {parent node : (ofOutline outline).NodeAt} {key : String}
    (mem : (key, Arg.node node) ∈ parent.args) : StandsUnder node parent key :=
  ⟨parent_of_mem_children (NodeAt.mem_children_iff.2 (.inl ⟨key, mem⟩)), mem⟩

section

variable {node : (ofOutline outline).NodeAt} {diagnostic : Diagnostic}

/-- A body that fails is to be blamed on the node, if it has no entry, or on a child. -/
theorem exists_blames_of_body (fails : Fails grammar device (.body node) diagnostic) :
    ∃ blamed : (ofOutline outline).NodeAt, Blames grammar diagnostic blamed := by
  cases fails with
  | unknownBody _ unknown => exact ⟨node, rfl, unknown⟩
  | @strayChild _ child entry before after known split _ stray =>
    have inBody : child ∈ node.body := by
      rw [split]
      exact List.mem_append_cons_self
    have parent := parent_of_mem_children (NodeAt.mem_children_iff.2 (.inr inBody))
    exact ⟨child, rfl, node, entry, parent, inBody, known, stray⟩

/-- Keys that fail are to be blamed on the node. -/
theorem blames_of_keys (fails : Fails grammar device (.keys node) diagnostic) :
    Blames grammar diagnostic node := by
  cases fails with
  | unknownKeys unknown => exact ⟨rfl, unknown⟩
  | @absentKey _ entry key before after known split _ absent =>
    have required : key ∈ entry.keys := by
      rw [split]
      exact List.mem_append_cons_self
    exact ⟨rfl, entry, known, key, required, absent⟩
  | surplusKeys known present surplus => exact ⟨rfl, _, known, present, surplus⟩

/-- A pairing that fails is to be blamed on the owner of the argument, or on the argument if it is a
node. -/
theorem exists_blames_of_pairing {key : String} {arg : (ofOutline outline).ArgAt}
    (held : (key, arg) ∈ node.args)
    (fails : Fails grammar device (.pairing node key arg) diagnostic) :
    ∃ blamed : (ofOutline outline).NodeAt, Blames grammar diagnostic blamed := by
  cases fails with
  | unknownNodeKey unknown => exact ⟨node, rfl, key, _, held, unknown⟩
  | @unbound _ value _ entry unbound _ identifier answer =>
    exact ⟨value, rfl, identifier, ⟨node, key, standsUnder_of_mem_args held⟩, unbound, answer⟩
  | @strayNode _ value _ entry known _ stray =>
    exact ⟨value, rfl, .inr ⟨node, key, entry, standsUnder_of_mem_args held, known, stray⟩⟩
  | @unknownLeafKey _ _ leaf unknown =>
    -- The diagnostic goes by the key and the owner that the leaf knows.
    obtain ⟨rfl, rfl⟩ := stored_of_mem_args held
    exact ⟨leaf.owner, rfl, leaf.key, _, held, unknown⟩
  | @strayLeaf _ _ leaf entry known stray =>
    obtain ⟨rfl, rfl⟩ := stored_of_mem_args held
    exact ⟨leaf.owner, rfl, .inl ⟨leaf.key, leaf, entry, held, known, stray⟩⟩
  | @malformed _ _ raw => exact ⟨node, rfl, key, raw, held⟩

end

/-- An offence is what a rule that was called has answered, or the body, the keys or an argument of
some node fails with it. -/
theorem objects_or_fails_of_offence {diagnostic : Diagnostic}
    (offence : (check grammar device (ofOutline outline)).offence = some diagnostic) :
    (∃ call ∈ (check grammar device (ofOutline outline)).events,
      Objects grammar device diagnostic call) ∨
    ∃ node : (ofOutline outline).NodeAt,
      Fails grammar device (.body node) diagnostic ∨ Fails grammar device (.keys node) diagnostic ∨
        ∃ key arg, (key, arg) ∈ node.args ∧
          Fails grammar device (.pairing node key arg) diagnostic := by
  rcases checkNode_cases grammar device (ofOutline outline).root with
    ⟨_, report⟩ | ⟨before, failing, after, other, split, met, fails, report⟩
  · rw [check, report] at offence
    cases offence
  rw [check, report] at offence
  obtain rfl : other = diagnostic := Option.some.inj offence
  have called : ∀ event, failing.event? grammar = some event →
      event ∈ (check grammar device (ofOutline outline)).events := by
    intro event here
    rw [check, report]
    exact List.mem_filterMap.2 ⟨failing, List.mem_append_right _ List.mem_cons_self, here⟩
  obtain ⟨node, own⟩ := exists_of_split split
  cases own with
  | body => exact .inr ⟨node, .inl fails⟩
  | keys => exact .inr ⟨node, .inr (.inl fails)⟩
  | pairing held => exact .inr ⟨node, .inr (.inr ⟨_, _, held, fails⟩)⟩
  | @argRule key arg held =>
    cases fails with
    | @argRule _ _ _ entry rule _ known attached objection =>
      have registered : grammar.argRule? key = some rule :=
        Grammar.argRule?_eq_some_iff.2 ⟨entry, known, attached⟩
      exact .inl ⟨_, called _ (event?_argRule registered), .argRule held registered objection⟩
  | nodeRule =>
    cases fails with
    | unknownRule unknown =>
      -- The check has come past the keys of the node, so the node has an entry.
      have keys : .keys node ∈ before :=
        mem_before_of_presupposed split (List.mem_cons_of_mem _ List.mem_cons_self)
      obtain ⟨entry, known, _⟩ := met _ keys
      cases unknown.symm.trans known
    | @nodeRule _ entry rule _ known attached objection =>
      have registered : grammar.nodeRule? node.kind = some rule :=
        Option.bind_eq_some_iff.2 ⟨entry, known, attached⟩
      exact .inl ⟨_, called _ (event?_nodeRule registered), .nodeRule registered objection⟩

/-- An offence is what a rule that was called has answered, or it names a node that violates the
grammar as it says. -/
theorem objects_or_blames_of_offence (grammar : Grammar D) (device : D) (outline : Outline)
    {diagnostic : Diagnostic}
    (offence : (check grammar device (ofOutline outline)).offence = some diagnostic) :
    (∃ call ∈ (check grammar device (ofOutline outline)).events,
      Objects grammar device diagnostic call) ∨
    ∃ node : (ofOutline outline).NodeAt, Blames grammar diagnostic node := by
  rcases objects_or_fails_of_offence offence with
    objection | ⟨node, body | keys | ⟨key, arg, held, fails⟩⟩
  · exact .inl objection
  · exact .inr (exists_blames_of_body body)
  · exact .inr ⟨node, blames_of_keys keys⟩
  · exact .inr (exists_blames_of_pairing held fails)

end OfOutline

/-! ## A check that does not pass -/

/-- A grammar in which a variable may be given any node. -/
def variableGrammar : Grammar Unit where
  args := (∅ : Std.TreeMap String (ArgEntry Unit)).insert "data_value"
    { name := "data_value", allowsKind := fun _ => true, allowsType := fun _ => false,
      rule := none }
  nodes := fun kind => some
    { kind, keys := if kind = .variableDeclaration then ["data_value"] else [],
      allowsChild := fun _ => true, rule := none }

/-- A sequence that waits, and then gives a variable the value of an identifier without a label. -/
def unlabelledOutline : Outline where
  kind := .sequence
  args := []
  body :=
    [.ofKind .wait, ⟨.variableDeclaration, [("data_value", .node (.ofKind .identifier))], [], none⟩]
  comment := none

/-- The nodes of its tree: the sequence, the wait, the variable and the identifier. -/
def unlabelledNode (id : Fin 4) : (ofOutline unlabelledOutline).NodeAt :=
  ⟨id.val, id.isLt⟩

/-- The identifier is to blame, and not the variable that it is given to. -/
theorem blames_of_offence_unlabelledOutline :
    (check variableGrammar () (ofOutline unlabelledOutline)).offence =
        some ((Diagnostic.unboundVariable "").located 3) ∧
      ((∃ call ∈ (check variableGrammar () (ofOutline unlabelledOutline)).events,
          Objects variableGrammar () ((Diagnostic.unboundVariable "").located 3) call) ∨
        ∃ node : (ofOutline unlabelledOutline).NodeAt,
          Blames variableGrammar ((Diagnostic.unboundVariable "").located 3) node) := by
  have sequence : obligations (unlabelledNode 0) =
      .body (unlabelledNode 0) :: .keys (unlabelledNode 0) :: .nodeRule (unlabelledNode 0) ::
        (obligations (unlabelledNode 1) ++ (obligations (unlabelledNode 2) ++ [])) :=
    obligations_eq (unlabelledNode 0)
  have wait : obligations (unlabelledNode 1) =
      [.body (unlabelledNode 1), .keys (unlabelledNode 1), .nodeRule (unlabelledNode 1)] :=
    obligations_eq (unlabelledNode 1)
  have assigned : obligations (unlabelledNode 2) =
      .body (unlabelledNode 2) :: .keys (unlabelledNode 2) ::
        .pairing (unlabelledNode 2) "data_value" (.node (unlabelledNode 3)) ::
        .argRule (unlabelledNode 2) "data_value" (.node (unlabelledNode 3)) ::
        obligations (unlabelledNode 3) ++ [] ++ [.nodeRule (unlabelledNode 2)] :=
    obligations_eq (unlabelledNode 2)
  have offence : (check variableGrammar () (ofOutline unlabelledOutline)).offence =
      some ((Diagnostic.unboundVariable "").located 3) := by
    rw [check, checkNode_eq_askAll]
    change (askAll variableGrammar () (obligations (unlabelledNode 0))).offence = _
    -- The check ends before it comes to the obligations of the identifier.
    rw [sequence, wait, assigned]
    rfl
  exact ⟨offence, objects_or_blames_of_offence variableGrammar () unlabelledOutline offence⟩

end SequenceCheck.Check
