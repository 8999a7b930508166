import SequenceCheck.Proofs.Check.Failures
import SequenceCheck.Proofs.Tree.Content

/-!
# Validity of trees

A node is locally valid if the grammar has an entry for its kind and what the entries ask for is so
at the node: the children of its body, its keys, its arguments and the answers of the rules. Local
validity looks at one node and at what is right below it, and knows of no order.

Main statement: a check of the tree of an outline passes exactly if every node of the tree is
locally valid (`check_passes_iff_locallyValid`). Nothing escapes it, at whatever depth and through
whichever mix of arguments and bodies, and nothing that is valid is rejected.
-/

set_option autoImplicit false

namespace SequenceCheck.Check

open SequenceCheck.Tree

variable {D : Type} {tree : Tree}

/-- An argument may stand under a key: it is a node of a kind that the key allows, and refers to
something if it is an identifier, or it is a leaf of a type that the key allows. -/
def ArgAllowed (grammar : Grammar D) (key : String) : tree.ArgAt → Prop
  | .node node =>
    ∃ entry, grammar.args[key]? = some entry ∧ entry.allowsKind node.kind = true ∧
      (node.kind = .identifier → ∃ declaration, Scope.resolve node = .ok declaration)
  | .leaf leaf =>
    ∃ entry, grammar.args[key]? = some entry ∧ entry.allowsType leaf.value.type = true
  | .malformed _ => False

/-- A node is as the entry for its kind and the entries for its keys ask for. -/
structure Conforms (grammar : Grammar D) (device : D) (entry : NodeEntry D) (node : tree.NodeAt) :
    Prop where
  /-- The children of the body are of allowed kinds. -/
  body : ∀ child ∈ node.body, entry.allowsChild child.kind = true
  /-- The keys are the required ones. -/
  keys : ∀ key, key ∈ node.argKeys ↔ key ∈ entry.keys
  /-- The arguments may stand under their keys. -/
  args : ∀ key arg, (key, arg) ∈ node.args → ArgAllowed grammar key arg
  /-- The rules of the keys accept the arguments. -/
  argRules : ∀ key arg, (key, arg) ∈ node.args → ∀ entry rule, grammar.args[key]? = some entry →
    entry.rule = some rule → rule tree arg device = .ok ()
  /-- The rule of the kind accepts the node. -/
  nodeRule : ∀ rule, entry.rule = some rule → rule tree node device = .ok ()

/-- The grammar has an entry for the kind of a node, and the node is as the entries ask for. -/
def LocallyValid (grammar : Grammar D) (device : D) (node : tree.NodeAt) : Prop :=
  ∃ entry, grammar.nodes node.kind = some entry ∧ Conforms grammar device entry node

variable {grammar : Grammar D} {device : D} {outline : Outline}

/-- The pairing of an argument is met if the argument may stand under its key. A leaf is looked up
under the key that it knows, which is the one it stands under. -/
theorem meets_pairing_iff {node : (ofOutline outline).NodeAt} {key : String}
    {arg : (ofOutline outline).ArgAt} (mem : (key, arg) ∈ node.args) :
    Meets grammar device (.pairing node key arg) ↔ ArgAllowed grammar key arg := by
  cases arg with
  | node child => exact Iff.rfl
  | leaf leaf =>
    obtain ⟨same, _⟩ := stored_of_mem_args mem
    rw [Meets, ArgAllowed, same]
  | malformed raw => exact Iff.rfl

/-- A node is locally valid if it meets the obligations that it has of its own. -/
theorem locallyValid_iff_meets {node : (ofOutline outline).NodeAt} :
    LocallyValid grammar device node ↔
      ∀ obligation : Obligation (ofOutline outline), obligation.Of node →
        Meets grammar device obligation := by
  constructor
  · rintro ⟨entry, known, conforms⟩ obligation own
    cases own with
    | body => exact fun child mem => ⟨entry, known, conforms.body child mem⟩
    | keys => exact ⟨entry, known, conforms.keys⟩
    | pairing mem => exact (meets_pairing_iff mem).2 (conforms.args _ _ mem)
    | argRule mem => exact conforms.argRules _ _ mem
    | nodeRule => exact ⟨entry, known, conforms.nodeRule⟩
  · intro meets
    -- The obligation of the keys gives the entry; the others speak of the same one.
    obtain ⟨entry, known, keys⟩ := meets _ .keys
    refine ⟨entry, known, ?_, keys, ?_, fun key arg mem => meets _ (.argRule mem), ?_⟩
    · intro child mem
      obtain ⟨other, same, allowed⟩ := meets _ .body child mem
      obtain rfl : entry = other := Option.some.inj (known.symm.trans same)
      exact allowed
    · intro key arg mem
      exact (meets_pairing_iff mem).1 (meets _ (.pairing mem))
    · obtain ⟨other, same, accepts⟩ := meets _ .nodeRule
      obtain rfl : entry = other := Option.some.inj (known.symm.trans same)
      exact accepts

/-- A check of the tree of an outline passes exactly if every node of the tree is locally valid. -/
theorem check_passes_iff_locallyValid (grammar : Grammar D) (device : D) (outline : Outline) :
    (check grammar device (ofOutline outline)).offence = none ↔
      ∀ node ∈ (ofOutline outline).allNodes, LocallyValid grammar device node := by
  rw [check, offence_checkNode_eq_none_iff]
  simp only [offence_ask_eq_none_iff, locallyValid_iff_meets]
  constructor
  · intro meets node _ obligation own
    exact meets obligation (mem_obligations_iff.2 ⟨node, mem_preorder_root node, own⟩)
  · intro valid obligation mem
    obtain ⟨node, _, own⟩ := mem_obligations_iff.1 mem
    exact valid node (mem_allNodes node) obligation own

end SequenceCheck.Check
