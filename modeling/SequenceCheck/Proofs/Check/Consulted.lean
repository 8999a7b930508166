import SequenceCheck.Proofs.Check.Obligations

/-!
# What a check consults

About each obligation a check consults one entry of the grammar at most: that for the kind of the
node or that for the key of the argument.

Main statements: what a check does about an obligation depends on this entry alone (`ask_congr`),
and so a check of a node does not tell grammars apart that have the same entries for the kinds and
keys at and below the node (`checkNode_congr`).
-/

set_option autoImplicit false

namespace SequenceCheck.Check

open SequenceCheck.Tree

variable {D : Type} {tree : Tree}

/-- The kind whose entry is consulted about an obligation. -/
def Obligation.kind? : Obligation tree → Option Kind
  | .body node => some node.kind
  | .keys node => some node.kind
  | .pairing _ _ _ => none
  | .argRule _ _ _ => none
  | .nodeRule node => some node.kind

/-- The key whose entry is consulted about an obligation. A leaf is looked up under the key that it
knows. -/
def Obligation.key? : Obligation tree → Option String
  | .body _ => none
  | .keys _ => none
  | .pairing _ key (.node _) => some key
  | .pairing _ _ (.leaf leaf) => some leaf.key
  | .pairing _ _ (.malformed _) => none
  | .argRule _ key _ => some key
  | .nodeRule _ => none

variable {grammar other : Grammar D} {device : D}

/-- What a check does about an obligation depends on the entry that it consults. -/
theorem ask_congr {obligation : Obligation tree}
    (kinds : ∀ kind, obligation.kind? = some kind → grammar.nodes kind = other.nodes kind)
    (keys : ∀ key, obligation.key? = some key → grammar.args[key]? = other.args[key]?) :
    ask grammar device obligation = ask other device obligation := by
  have node : ∀ kind, obligation.kind? = some kind →
      grammar.nodeEntry kind = other.nodeEntry kind := by
    intro kind consulted
    rw [Grammar.nodeEntry, Grammar.nodeEntry, kinds kind consulted]
  have arg : ∀ key, obligation.key? = some key → grammar.argEntry key = other.argEntry key := by
    intro key consulted
    rw [Grammar.argEntry, Grammar.argEntry, keys key consulted]
  -- The grammars are asked for the same entry, and give the same answer or the same fault.
  cases obligation with
  | body held => rw [ask, ask, checkBody, checkBody, node _ rfl]
  | keys held => rw [ask, ask, checkKeys, checkKeys, Grammar.requiredKeys, Grammar.requiredKeys,
      node _ rfl]
  | pairing owner key held =>
    rw [ask, ask]
    cases held with
    | node child => rw [checkPairing, checkPairing, checkNodeArg, checkNodeArg, arg _ rfl]
    | leaf leaf => rw [checkPairing, checkPairing, checkLeaf, checkLeaf, arg _ rfl]
    | malformed raw => rfl
  | argRule owner key held =>
    rw [ask, ask, askArgRule, askArgRule, Grammar.argRule?, Grammar.argRule?, keys _ rfl]
  | nodeRule held => rw [ask, ask, askNodeRule, askNodeRule, node _ rfl]

/-- A check of a node depends on the entries for the kinds and keys at and below the node. -/
theorem checkNode_congr {node : tree.NodeAt}
    (kinds : ∀ obligation ∈ obligations node, ∀ kind, obligation.kind? = some kind →
      grammar.nodes kind = other.nodes kind)
    (keys : ∀ obligation ∈ obligations node, ∀ key, obligation.key? = some key →
      grammar.args[key]? = other.args[key]?) :
    checkNode grammar device node = checkNode other device node := by
  rw [checkNode_eq_askAll, checkNode_eq_askAll, askAll, askAll]
  congr 1
  apply List.map_congr_left
  intro obligation mem
  exact ask_congr (kinds obligation mem) (keys obligation mem)

end SequenceCheck.Check
