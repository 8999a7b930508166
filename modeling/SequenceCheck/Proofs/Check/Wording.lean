import SequenceCheck.Proofs.Check.Blame
import SequenceCheck.Proofs.Check.Remarks
import SequenceCheck.Proofs.Grammar.Loading

/-!
# What the messages of a check say

An offence that a check finds by itself is a remark about a node, and the data of the remark are
those of the node and of the grammar (`Applies`).

Main statements: the message of such an offence is the text of the remark exactly if the remark is
not garbled, and the same is true of a leaf that is checked alone (`message_of_offence`). So not
every message is the text that its data call for: a surplus key that is spelled like a hole is
replaced by what fills the hole (`not_forall_message_of_offence`).
-/

set_option autoImplicit false

namespace SequenceCheck.Check

open SequenceCheck.Tree

variable {D : Type} {tree : Tree}

/-- A remark is true of a node: its data are those of the node and of the grammar. -/
inductive Applies (grammar : Grammar D) : Remark → tree.NodeAt → Prop where
  /-- The first required key that the node does not have. -/
  | missingArg {node : tree.NodeAt} {entry : NodeEntry D} {key : String}
      {before after : List String} :
      grammar.nodes node.kind = some entry → entry.keys = before ++ key :: after →
      (∀ earlier ∈ before, earlier ∈ node.argKeys) → key ∉ node.argKeys →
      Applies grammar (.missingArg node.kind key node.argKeys) node
  /-- The keys of the node that are not required, if it has all that are. -/
  | extraArgs {node : tree.NodeAt} {entry : NodeEntry D} :
      grammar.nodes node.kind = some entry → (∀ key ∈ entry.keys, key ∈ node.argKeys) →
      (∃ key ∈ node.argKeys, key ∉ entry.keys) →
      Applies grammar (.extraArgs node.kind (node.argKeys.filter (· ∉ entry.keys)) entry.keys) node
  /-- A leaf of the node. -/
  | strayLeaf {node : tree.NodeAt} {key : String} {leaf : tree.LeafAt} {entry : ArgEntry D} :
      (key, Arg.leaf leaf) ∈ node.args → grammar.args[key]? = some entry →
      entry.allowsType leaf.value.type = false →
      Applies grammar (.strayLeaf key node.kind entry.types leaf.value.type) node
  /-- The node itself, under a key of its parent. -/
  | strayNode {node parent : tree.NodeAt} {key : String} {entry : ArgEntry D} :
      StandsUnder node parent key → grammar.args[key]? = some entry →
      entry.allowsKind node.kind = false →
      Applies grammar (.strayNode node.kind parent.kind entry.kinds) node
  /-- An argument of the node. -/
  | malformed {node : tree.NodeAt} {key : String} {raw : Json} :
      (key, Arg.malformed raw) ∈ node.args → Applies grammar (.malformed key) node
  /-- The node itself, the first one in the body of its parent that is not allowed there. -/
  | badBody {node parent : tree.NodeAt} {entry : NodeEntry D} {before after : List tree.NodeAt} :
      grammar.nodes parent.kind = some entry → parent.body = before ++ node :: after →
      (∀ earlier ∈ before, entry.allowsChild earlier.kind = true) →
      entry.allowsChild node.kind = false →
      Applies grammar (.badBody parent.kind node.kind before.length entry.children) node
  /-- The node itself, an identifier under a key, by its label as it is shown. -/
  | unboundVariable {node parent : tree.NodeAt} {key : String} {unbound : Scope.Unbound} :
      node.kind = .identifier → StandsUnder node parent key →
      Scope.resolve node = .error unbound →
      Applies grammar (.unboundVariable ((node.leafValue? "label").elim "" Value.display)) node

/-- A diagnostic is about a node what a remark is, and it has the text of the remark unless this is
garbled. -/
def Words (diagnostic : Diagnostic) (remark : Remark) (node : tree.NodeAt) : Prop :=
  diagnostic.fault = remark.fault ∧ diagnostic.node = some node.id ∧
    (diagnostic.message = remark.text ↔ ¬ remark.Garbled)

/-- A diagnostic in the words of a remark. -/
theorem words_wording (remark : Remark) (node : tree.NodeAt) :
    Words ⟨remark.fault, remark.wording, some node.id⟩ remark node :=
  ⟨rfl, rfl, wording_eq_text_iff remark⟩

/-- A diagnostic says that the grammar has no entry, or it is a remark that is true of a node. -/
def Worded (grammar : Grammar D) (tree : Tree) (diagnostic : Diagnostic) : Prop :=
  diagnostic.fault = .unknownNode ∨ diagnostic.fault = .unknownArg ∨
    ∃ (remark : Remark) (node : tree.NodeAt), Applies grammar remark node ∧
      Words diagnostic remark node

theorem worded_of_applies {grammar : Grammar D} {remark : Remark} {node : tree.NodeAt}
    (applies : Applies grammar remark node) :
    Worded grammar tree ⟨remark.fault, remark.wording, some node.id⟩ :=
  .inr (.inr ⟨remark, node, applies, words_wording remark node⟩)

/-- Without rules nothing objects. -/
theorem not_objects_of_ruleless {grammar : Grammar D} {device : D} {diagnostic : Diagnostic}
    {call : Event tree} (bare : grammar.Ruleless) : ¬ Objects grammar device diagnostic call := by
  intro objects
  cases objects with
  | argRule held registered objection =>
    obtain ⟨entry, known, attached⟩ := Grammar.argRule?_eq_some_iff.1 registered
    cases (bare.args _ entry known).symm.trans attached
  | nodeRule registered objection =>
    obtain ⟨entry, known, attached⟩ := Option.bind_eq_some_iff.1 registered
    cases (bare.nodes _ entry known).symm.trans attached

section OfOutline

variable {grammar : Grammar D} {device : D} {outline : Outline}
  {node : (ofOutline outline).NodeAt} {diagnostic : Diagnostic}

theorem worded_of_body (fails : Fails grammar device (.body node) diagnostic) :
    Worded grammar (ofOutline outline) diagnostic := by
  cases fails with
  | unknownBody _ _ => exact .inl rfl
  | strayChild known split allowed stray =>
    exact worded_of_applies (.badBody known split allowed stray)

theorem worded_of_keys (fails : Fails grammar device (.keys node) diagnostic) :
    Worded grammar (ofOutline outline) diagnostic := by
  cases fails with
  | unknownKeys _ => exact .inl rfl
  | absentKey known split present absent =>
    exact worded_of_applies (.missingArg known split present absent)
  | surplusKeys known present surplus =>
    exact worded_of_applies (.extraArgs known present surplus)

theorem worded_of_pairing {key : String} {arg : (ofOutline outline).ArgAt}
    (held : (key, arg) ∈ node.args)
    (fails : Fails grammar device (.pairing node key arg) diagnostic) :
    Worded grammar (ofOutline outline) diagnostic := by
  cases fails with
  | unknownNodeKey _ => exact .inr (.inl rfl)
  | unbound _ identifier answer =>
    exact worded_of_applies (.unboundVariable identifier (standsUnder_of_mem_args held) answer)
  | strayNode known _ stray =>
    exact worded_of_applies (.strayNode (standsUnder_of_mem_args held) known stray)
  | unknownLeafKey _ => exact .inr (.inl rfl)
  | strayLeaf known stray =>
    -- The diagnostic goes by the key and the owner that the leaf knows.
    obtain ⟨rfl, rfl⟩ := stored_of_mem_args held
    exact worded_of_applies (.strayLeaf held known stray)
  | malformed => exact worded_of_applies (.malformed held)

/-- A leaf that fails alone has no entry for its key, or it is remarked on. -/
theorem words_of_checkLeaf {leaf : (ofOutline outline).LeafAt}
    (fails : checkLeaf grammar leaf = .error diagnostic) :
    diagnostic.fault = .unknownArg ∨ ∃ entry, grammar.args[leaf.key]? = some entry ∧
      entry.allowsType leaf.value.type = false ∧
      Words diagnostic (.strayLeaf leaf.key leaf.owner.kind entry.types leaf.value.type)
        leaf.owner := by
  cases known : grammar.args[leaf.key]? with
  | none =>
    rw [checkLeaf, Grammar.argEntry_of_none known, mapError_error_bind] at fails
    cases fails
    exact .inl rfl
  | some entry =>
    rw [checkLeaf, Grammar.argEntry_of_some known, mapError_ok_bind] at fails
    cases allowed : entry.allowsType leaf.value.type with
    | true =>
      rw [if_pos allowed] at fails
      cases fails
    | false =>
      have words := error_located
        (.strayLeaf leaf.key leaf.owner.kind entry.types leaf.value.type) leaf.owner.id
      rw [if_neg (Bool.eq_false_iff.1 allowed)] at fails
      cases words.symm.trans fails
      exact .inr ⟨entry, rfl, allowed, words_wording _ leaf.owner⟩

/-- An offence that a check finds by itself is a remark that is true of a node, unless it is about a
missing entry of the grammar. Its message is the text of the remark, with all its data as they are,
exactly if no key has a marker in it that is filled after the key. So it is for a leaf that is
checked alone. -/
theorem message_of_offence (grammar : Grammar D) (device : D) (outline : Outline) :
    (∀ diagnostic, (check grammar device (ofOutline outline)).offence = some diagnostic →
      (∃ call ∈ (check grammar device (ofOutline outline)).events,
        Objects grammar device diagnostic call) ∨
      Worded grammar (ofOutline outline) diagnostic) ∧
    ∀ (leaf : (ofOutline outline).LeafAt) (diagnostic : Diagnostic),
      checkLeaf grammar leaf = .error diagnostic →
      diagnostic.fault = .unknownArg ∨ ∃ entry, grammar.args[leaf.key]? = some entry ∧
        entry.allowsType leaf.value.type = false ∧
        Words diagnostic (.strayLeaf leaf.key leaf.owner.kind entry.types leaf.value.type)
          leaf.owner := by
  refine ⟨?_, fun leaf diagnostic fails => words_of_checkLeaf fails⟩
  intro diagnostic offence
  rcases objects_or_fails_of_offence offence with
    objection | ⟨node, body | keys | ⟨key, arg, held, fails⟩⟩
  · exact .inl objection
  · exact .inr (worded_of_body body)
  · exact .inr (worded_of_keys keys)
  · exact .inr (worded_of_pairing held fails)

end OfOutline

/-! ## A key that is spelled like a hole -/

/-- A pause has a length. -/
def lengthGrammar : Grammar Unit :=
  (Grammar.empty.defineArg "milliseconds" [] [.integer]).defineNode .wait ["milliseconds"] []

/-- A pause whose length is a text, with a key beside it that is spelled like a hole. -/
def bracedOutline : Outline where
  kind := .wait
  args := [("milliseconds", .leaf (.string "long")), ("\x7ballowed\x7d", .leaf (.integer 1))]
  body := []
  comment := none

/-- The pause. -/
def bracedNode : (ofOutline bracedOutline).NodeAt :=
  (ofOutline bracedOutline).root

/-- Its leaves. -/
def bracedLeaf : Fin 2 → (ofOutline bracedOutline).LeafAt
  | ⟨id, isLt⟩ => ⟨id, isLt⟩

/-- What there is to say about its keys, before the check comes to the length. -/
def bracedRemark : Remark :=
  .extraArgs .wait ["\x7ballowed\x7d"] ["milliseconds"]

theorem offence_bracedOutline :
    (check lengthGrammar () (ofOutline bracedOutline)).offence =
      some (bracedRemark.diagnostic.located 0) := by
  have pause : obligations bracedNode =
      [.body bracedNode, .keys bracedNode,
        .pairing bracedNode "milliseconds" (.leaf (bracedLeaf 0)),
        .argRule bracedNode "milliseconds" (.leaf (bracedLeaf 0)),
        .pairing bracedNode "\x7ballowed\x7d" (.leaf (bracedLeaf 1)),
        .argRule bracedNode "\x7ballowed\x7d" (.leaf (bracedLeaf 1)), .nodeRule bracedNode] :=
    obligations_eq bracedNode
  rw [check, checkNode_eq_askAll]
  change (askAll lengthGrammar () (obligations bracedNode)).offence = _
  rw [pause]
  rfl

/-- The check answers about the keys, and the length fails alone. -/
theorem message_of_offence_bracedOutline :
    (check lengthGrammar () (ofOutline bracedOutline)).offence =
        some (bracedRemark.diagnostic.located 0) ∧
      ((∃ call ∈ (check lengthGrammar () (ofOutline bracedOutline)).events,
          Objects lengthGrammar () (bracedRemark.diagnostic.located 0) call) ∨
        Worded lengthGrammar (ofOutline bracedOutline) (bracedRemark.diagnostic.located 0)) ∧
      checkLeaf lengthGrammar (bracedLeaf 0) =
        .error ((Diagnostic.badLeaf "milliseconds" .wait "[Integer]" "String").located 0) ∧
      (Fault.badLeaf = .unknownArg ∨ ∃ entry, lengthGrammar.args["milliseconds"]? = some entry ∧
        entry.allowsType .string = false ∧
        Words ((Diagnostic.badLeaf "milliseconds" .wait "[Integer]" "String").located 0)
          (.strayLeaf "milliseconds" .wait entry.types .string) bracedNode) := by
  have worded := message_of_offence lengthGrammar () bracedOutline
  have fails : checkLeaf lengthGrammar (bracedLeaf 0) =
      .error ((Diagnostic.badLeaf "milliseconds" .wait "[Integer]" "String").located 0) := rfl
  exact ⟨offence_bracedOutline, worded.1 _ offence_bracedOutline, fails, worded.2 _ _ fails⟩

/-- A surplus key is the marker itself. -/
theorem garbled_bracedRemark : bracedRemark.Garbled :=
  ⟨_, List.mem_singleton_self _, List.infix_refl _⟩

/-- Nothing else is there to say about surplus keys in this tree. -/
theorem eq_bracedRemark {remark : Remark} {node : (ofOutline bracedOutline).NodeAt}
    (applies : Applies lengthGrammar remark node) (fault : remark.fault = .extraArgs) :
    remark = bracedRemark := by
  cases applies with
  | extraArgs known _ _ =>
    -- There is one node only.
    obtain rfl : node = bracedNode := NodeAt.ext (Nat.lt_one_iff.1 node.isLt)
    cases known
    rfl
  | missingArg _ _ _ _ => cases fault
  | strayLeaf _ _ _ => cases fault
  | strayNode _ _ _ => cases fault
  | malformed _ => cases fault
  | badBody _ _ _ _ => cases fault
  | unboundVariable _ _ _ => cases fault

/-- Not every offence that a check finds by itself has the text that its data call for: the surplus
key is replaced by what is filled in after it. -/
theorem not_forall_message_of_offence :
    ¬ ∀ (D : Type) (grammar : Grammar D) (device : D) (outline : Outline) (diagnostic : Diagnostic),
      (check grammar device (ofOutline outline)).offence = some diagnostic →
      (∃ call ∈ (check grammar device (ofOutline outline)).events,
        Objects grammar device diagnostic call) ∨
      diagnostic.fault = .unknownNode ∨ diagnostic.fault = .unknownArg ∨
        ∃ (remark : Remark) (node : (ofOutline outline).NodeAt), Applies grammar remark node ∧
          diagnostic.fault = remark.fault ∧ diagnostic.node = some node.id ∧
          diagnostic.message = remark.text := by
  intro all
  have bare : lengthGrammar.Ruleless :=
    (Grammar.ruleless_empty.defineArg "milliseconds" [] [.integer]).defineNode .wait
      ["milliseconds"] []
  rcases all Unit lengthGrammar () bracedOutline _ offence_bracedOutline with
    ⟨call, _, objects⟩ | unknown | unknown | ⟨remark, node, applies, fault, _, message⟩
  · exact not_objects_of_ruleless bare objects
  · cases unknown
  · cases unknown
  · rw [eq_bracedRemark applies fault.symm] at message
    exact (message_eq_text_iff bracedRemark).1 message garbled_bracedRemark

end SequenceCheck.Check
