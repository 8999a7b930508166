import SequenceCheck.Proofs.Check.Alike
import SequenceCheck.Proofs.Check.Closed
import SequenceCheck.Proofs.Check.Validity

/-!
# Grammars that allow more

A grammar is relaxed by another (`Grammar.RelaxedBy`) if each of its entries has one in the other
with the same required keys and the same rule, which allows at least the same kinds and types. The
other grammar may have entries of its own.

Main statements: what is allowed and what is locally valid stays so (`LocallyValid.relaxed`), and so
a tree that passes a check passes it in a relaxed grammar (`passes_relaxed`).
-/

set_option autoImplicit false

namespace SequenceCheck

variable {D : Type}

/-- An entry for a key allows at least the kinds and types that another does, by the same rule. -/
structure ArgEntry.WidenedBy (entry wider : ArgEntry D) : Prop where
  kinds : ∀ kind, entry.allowsKind kind = true → wider.allowsKind kind = true
  types : ∀ type, entry.allowsType type = true → wider.allowsType type = true
  rule : wider.rule = entry.rule

/-- An entry for a kind allows at least the children that another does, for the same keys and by the
same rule. -/
structure NodeEntry.WidenedBy (entry wider : NodeEntry D) : Prop where
  keys : ∀ key, key ∈ wider.keys ↔ key ∈ entry.keys
  children : ∀ kind, entry.allowsChild kind = true → wider.allowsChild kind = true
  rule : wider.rule = entry.rule

theorem ArgEntry.WidenedBy.refl (entry : ArgEntry D) : entry.WidenedBy entry :=
  ⟨fun _ allowed => allowed, fun _ allowed => allowed, rfl⟩

theorem ArgEntry.WidenedBy.trans {entry wider widest : ArgEntry D}
    (first : entry.WidenedBy wider) (second : wider.WidenedBy widest) :
    entry.WidenedBy widest where
  kinds kind allowed := second.kinds kind (first.kinds kind allowed)
  types type allowed := second.types type (first.types type allowed)
  rule := second.rule.trans first.rule

theorem NodeEntry.WidenedBy.refl (entry : NodeEntry D) : entry.WidenedBy entry :=
  ⟨fun _ => Iff.rfl, fun _ allowed => allowed, rfl⟩

theorem NodeEntry.WidenedBy.trans {entry wider widest : NodeEntry D}
    (first : entry.WidenedBy wider) (second : wider.WidenedBy widest) :
    entry.WidenedBy widest where
  keys key := (second.keys key).trans (first.keys key)
  children kind allowed := second.children kind (first.children kind allowed)
  rule := second.rule.trans first.rule

namespace Grammar

/-- Whatever a grammar has an entry for has an entry in the other that allows at least the same. -/
structure RelaxedBy (strict loose : Grammar D) : Prop where
  args : ∀ (key : String) (entry : ArgEntry D), strict.args[key]? = some entry →
    ∃ wider, loose.args[key]? = some wider ∧ entry.WidenedBy wider
  nodes : ∀ (kind : Kind) (entry : NodeEntry D), strict.nodes kind = some entry →
    ∃ wider, loose.nodes kind = some wider ∧ entry.WidenedBy wider

theorem RelaxedBy.trans {strict middle loose : Grammar D} (first : strict.RelaxedBy middle)
    (second : middle.RelaxedBy loose) : strict.RelaxedBy loose where
  args key entry known := by
    obtain ⟨wider, found, widened⟩ := first.args key entry known
    obtain ⟨widest, foundLoose, again⟩ := second.args key wider found
    exact ⟨widest, foundLoose, widened.trans again⟩
  nodes kind entry known := by
    obtain ⟨wider, found, widened⟩ := first.nodes kind entry known
    obtain ⟨widest, foundLoose, again⟩ := second.nodes kind wider found
    exact ⟨widest, foundLoose, widened.trans again⟩

/-- Another definition of a key relaxes a grammar if it allows at least what there was. -/
theorem relaxedBy_defineArg {grammar : Grammar D} {name : String} {kinds : List Kind}
    {types : List LeafType}
    (wider : ∀ entry, grammar.args[name]? = some entry →
      entry.WidenedBy ⟨name, kinds.contains, types.contains, none⟩) :
    grammar.RelaxedBy (grammar.defineArg name kinds types) where
  args key entry known := by
    rw [args_defineArg]
    split
    · rename_i same
      subst same
      exact ⟨_, rfl, wider entry known⟩
    · exact ⟨entry, known, .refl entry⟩
  nodes kind entry known := ⟨entry, known, .refl entry⟩

/-- Another definition of a kind relaxes a grammar if it allows at least what there was. -/
theorem relaxedBy_defineNode {grammar : Grammar D} {kind : Kind} {keys : List String}
    {children : List Kind}
    (wider : ∀ entry, grammar.nodes kind = some entry →
      entry.WidenedBy ⟨kind, keys.eraseDups, children.contains, none⟩) :
    grammar.RelaxedBy (grammar.defineNode kind keys children) where
  args key entry known := ⟨entry, known, .refl entry⟩
  nodes other entry known := by
    rw [nodes_defineNode]
    split
    · rename_i same
      subst same
      exact ⟨_, rfl, wider entry known⟩
    · exact ⟨entry, known, .refl entry⟩

end Grammar

namespace Check

open SequenceCheck.Tree

variable {strict loose : Grammar D} {device : D}

/-- An argument that may stand under a key may stand there in a relaxed grammar. -/
theorem ArgAllowed.relaxed {tree : Tree} {key : String} {arg : tree.ArgAt}
    (relaxed : strict.RelaxedBy loose) (allowed : ArgAllowed strict key arg) :
    ArgAllowed loose key arg := by
  cases arg with
  | node child =>
    obtain ⟨entry, known, kind, resolved⟩ := allowed
    obtain ⟨wider, found, widened⟩ := relaxed.args key entry known
    exact ⟨wider, found, widened.kinds _ kind, resolved⟩
  | leaf leaf =>
    obtain ⟨entry, known, type⟩ := allowed
    obtain ⟨wider, found, widened⟩ := relaxed.args key entry known
    exact ⟨wider, found, widened.types _ type⟩
  | malformed raw => exact allowed

/-- A key under which something may stand has an entry. -/
theorem ArgAllowed.exists_entry {tree : Tree} {key : String} {arg : tree.ArgAt}
    {grammar : Grammar D} (allowed : ArgAllowed grammar key arg) :
    ∃ entry, grammar.args[key]? = some entry := by
  cases arg with
  | node child =>
    obtain ⟨entry, known, _⟩ := allowed
    exact ⟨entry, known⟩
  | leaf leaf =>
    obtain ⟨entry, known, _⟩ := allowed
    exact ⟨entry, known⟩
  | malformed raw => exact allowed.elim

/-- A node that is locally valid is so in a relaxed grammar. -/
theorem LocallyValid.relaxed {tree : Tree} {node : tree.NodeAt}
    (relaxed : strict.RelaxedBy loose) (valid : LocallyValid strict device node) :
    LocallyValid loose device node := by
  obtain ⟨entry, known, conforms⟩ := valid
  obtain ⟨wider, found, widened⟩ := relaxed.nodes _ entry known
  refine ⟨wider, found, ?_⟩
  constructor
  case body =>
    intro child mem
    exact widened.children _ (conforms.body child mem)
  case keys =>
    intro key
    rw [widened.keys]
    exact conforms.keys key
  case args =>
    intro key arg mem
    exact (conforms.args key arg mem).relaxed relaxed
  case argRules =>
    -- The rule is one of the strict grammar, because the key has an entry there.
    intro key arg mem other rule knownLoose attached
    obtain ⟨entry, knownStrict⟩ := (conforms.args key arg mem).exists_entry
    obtain ⟨wider, foundLoose, widened⟩ := relaxed.args key entry knownStrict
    obtain rfl : other = wider := Option.some.inj (knownLoose.symm.trans foundLoose)
    rw [widened.rule] at attached
    exact conforms.argRules key arg mem entry rule knownStrict attached
  case nodeRule =>
    intro rule attached
    rw [widened.rule] at attached
    exact conforms.nodeRule rule attached

/-- A tree that passes a check passes it, for the same device, in every grammar that allows more. -/
theorem passes_relaxed (relaxed : strict.RelaxedBy loose) (device : D) (outline : Outline)
    (passes : (check strict device (ofOutline outline)).offence = none) :
    (check loose device (ofOutline outline)).offence = none := by
  apply passes_iff_meets.2
  intro node
  apply locallyValid_iff_meets.1
  apply LocallyValid.relaxed relaxed
  apply locallyValid_iff_meets.2
  exact passes_iff_meets.1 passes node

/-! ## Pauses of any length -/

/-- A pause of some length. -/
def timedPause : Outline :=
  ⟨.wait, [("milliseconds", .leaf (.integer 100))], [], none⟩

/-- The grammar of pauses, where the length may also be a fraction and sequences may be nested. -/
def fractionGrammar : Grammar Unit :=
  (pauseGrammar.defineArg "milliseconds" [] [.integer, .float]).defineNode .sequence []
    [.sequence, .wait]

theorem relaxedBy_fractionGrammar : pauseGrammar.RelaxedBy fractionGrammar := by
  have lengths :
      pauseGrammar.RelaxedBy (pauseGrammar.defineArg "milliseconds" [] [.integer, .float]) := by
    apply Grammar.relaxedBy_defineArg
    intro entry known
    have held : pauseGrammar.args["milliseconds"]? =
        some (ArgSchema.entry ⟨"milliseconds", [], [.integer]⟩) := rfl
    obtain rfl := Option.some.inj (known.symm.trans held)
    refine ⟨fun kind allowed => allowed, ?_, rfl⟩
    intro type allowed
    obtain rfl : type = .integer := List.mem_singleton.1 (List.contains_iff_mem.1 allowed)
    rfl
  apply lengths.trans
  apply Grammar.relaxedBy_defineNode
  intro entry known
  have held : pauseGrammar.nodes .sequence = some (NodeSchema.entry ⟨.sequence, [], [.wait]⟩) := rfl
  obtain rfl := Option.some.inj (known.symm.trans held)
  refine ⟨fun key => Iff.rfl, ?_, rfl⟩
  intro kind allowed
  obtain rfl : kind = .wait := List.mem_singleton.1 (List.contains_iff_mem.1 allowed)
  rfl

/-- A sequence of one such pause. -/
def timedSequence : Outline :=
  ⟨.sequence, [], [timedPause], none⟩

/-- The pause in its tree. -/
def timedNode : (ofOutline timedSequence).NodeAt :=
  ⟨1, Nat.one_lt_two⟩

/-- Both the body of sequences and the length of pauses are looked at where more is allowed. -/
theorem passes_relaxed_timedSequence :
    (check pauseGrammar () (ofOutline timedSequence)).offence = none ∧
      (check fractionGrammar () (ofOutline timedSequence)).offence = none := by
  have pause : obligations timedNode =
      [.body timedNode, .keys timedNode, .pairing timedNode "milliseconds" (.leaf ⟨0, Nat.one_pos⟩),
        .argRule timedNode "milliseconds" (.leaf ⟨0, Nat.one_pos⟩), .nodeRule timedNode] :=
    obligations_eq timedNode
  have sequence : obligations (ofOutline timedSequence).root =
      .body (ofOutline timedSequence).root :: .keys (ofOutline timedSequence).root ::
        .nodeRule (ofOutline timedSequence).root :: (obligations timedNode ++ []) :=
    obligations_eq (ofOutline timedSequence).root
  have passes : (check pauseGrammar () (ofOutline timedSequence)).offence = none := by
    rw [check, checkNode_eq_askAll, sequence, pause]
    rfl
  exact ⟨passes, passes_relaxed relaxedBy_fractionGrammar () timedSequence passes⟩

end Check

end SequenceCheck
