import SequenceCheck.Proofs.Check.Closed
import SequenceCheck.Proofs.Check.Consulted

/-!
# What a grammar says about other sequences

A check consults a grammar only about the kinds and argument keys of the tree. Two grammars agree on
a tree (`Grammar.AgreeOn`) if they have the same entries for these, and a step in the building of a
grammar is apart from a tree (`Operation.Apart`) if it is about a kind or key that the tree has not.

Main statements: steps that are apart from a tree leave grammars in agreement on it
(`agreeOn_foldl_apply`), and a check does not tell grammars apart that agree on the tree
(`check_local`).
-/

set_option autoImplicit false

namespace SequenceCheck

open SequenceCheck.Tree

variable {D : Type}

namespace Grammar

/-- Two grammars have the same entries for the kinds and argument keys of a tree, or both none. -/
structure AgreeOn (grammar other : Grammar D) (tree : Tree) : Prop where
  kinds : ∀ node : tree.NodeAt, grammar.nodes node.kind = other.nodes node.kind
  keys : ∀ (node : tree.NodeAt), ∀ key ∈ node.argKeys, grammar.args[key]? = other.args[key]?

/-- A step is about a kind or key that a tree has not. -/
structure Operation.Apart (operation : Operation D) (tree : Tree) : Prop where
  kind : ∀ node : tree.NodeAt, operation.kind? ≠ some node.kind
  key : ∀ (node : tree.NodeAt), ∀ key ∈ node.argKeys, operation.key? ≠ some key

variable {grammar : Grammar D} {operation : Operation D}

theorem AgreeOn.refl (grammar : Grammar D) (tree : Tree) : grammar.AgreeOn grammar tree :=
  ⟨fun _ => rfl, fun _ _ _ => rfl⟩

theorem AgreeOn.trans {other third : Grammar D} {tree : Tree} (first : grammar.AgreeOn other tree)
    (second : other.AgreeOn third tree) : grammar.AgreeOn third tree where
  kinds node := (first.kinds node).trans (second.kinds node)
  keys node key mem := (first.keys node key mem).trans (second.keys node key mem)

/-- A step that is apart from a tree leaves what the grammar says about the tree. -/
theorem agreeOn_apply {tree : Tree} (apart : operation.Apart tree) :
    grammar.AgreeOn (grammar.apply operation) tree where
  kinds node := (nodes_apply_of_ne (apart.kind node)).symm
  keys node key mem := (args_apply_of_ne (apart.key node key mem)).symm

/-- Steps that are apart from a tree leave what the grammar says about the tree. -/
theorem agreeOn_foldl_apply {tree : Tree} {operations : List (Operation D)}
    (apart : ∀ operation ∈ operations, operation.Apart tree) :
    grammar.AgreeOn (operations.foldl apply grammar) tree := by
  induction operations generalizing grammar with
  | nil => exact .refl grammar tree
  | cons operation rest ih =>
    obtain ⟨first, others⟩ := List.forall_mem_cons.1 apart
    exact (agreeOn_apply first).trans (ih others)

end Grammar

namespace Check

variable {outline : Outline}

/-- Grammars that agree on a tree are not told apart by a check of the tree. -/
theorem check_congr {grammar other : Grammar D} (agree : grammar.AgreeOn other (ofOutline outline))
    (device : D) :
    check grammar device (ofOutline outline) = check other device (ofOutline outline) := by
  apply checkNode_congr
  · intro obligation mem kind consulted
    obtain ⟨node, _, own⟩ := mem_obligations_iff.1 mem
    rw [← kind_of_own own consulted]
    exact agree.kinds node
  · intro obligation mem key consulted
    obtain ⟨node, _, own⟩ := mem_obligations_iff.1 mem
    exact agree.keys node key (key_of_own own consulted)

/-- A check of a tree is the same, with the same answer and the same rules asked in the same order,
in all grammars that agree on the tree. What is defined or attached for other kinds and keys makes
no difference. -/
theorem check_local (outline : Outline) :
    (∀ grammar other : Grammar D, grammar.AgreeOn other (ofOutline outline) → ∀ device : D,
      check grammar device (ofOutline outline) = check other device (ofOutline outline)) ∧
    ∀ (grammar : Grammar D) (operations : List (Grammar.Operation D)),
      (∀ operation ∈ operations, operation.Apart (ofOutline outline)) → ∀ device : D,
        check (operations.foldl Grammar.apply grammar) device (ofOutline outline) =
          check grammar device (ofOutline outline) := by
  constructor
  · intro grammar other agree device
    exact check_congr agree device
  · intro grammar operations apart device
    exact (check_congr (Grammar.agreeOn_foldl_apply apart) device).symm

/-! ## Identifiers in the grammar of pauses -/

/-- Steps that define labels and identifiers, with a rule that accepts no identifier. -/
def identifierOperations : List (Grammar.Operation Unit) :=
  [.defineArg "label" [] [.string], .defineNode .identifier ["label"] [],
    .attach (.nodeRule .identifier fun _ _ _ => .error (.custom "no identifiers"))]

/-- A sequence with a pause has no identifiers and no keys. -/
theorem apart_identifierOperations :
    ∀ operation ∈ identifierOperations, operation.Apart (ofOutline pauseOutline) := by
  have kinds : ∀ node ∈ (ofOutline pauseOutline).allNodes, node.kind ≠ .identifier := by decide
  have keys : ∀ node ∈ (ofOutline pauseOutline).allNodes, node.argKeys = [] := by decide
  have apart : ∀ operation : Grammar.Operation Unit,
      (∀ kind, operation.kind? = some kind → kind = .identifier) →
        operation.Apart (ofOutline pauseOutline) := by
    intro operation identifiers
    constructor
    case kind =>
      intro node same
      exact kinds node (mem_allNodes node) (identifiers _ same)
    case key =>
      intro node key mem
      rw [keys node (mem_allNodes node)] at mem
      cases mem
  intro operation mem
  apply apart
  intro kind same
  rcases List.mem_cons.1 mem with rfl | rest
  · cases same
  · rcases List.mem_pair.1 rest with rfl | rfl
    · exact (Option.some.inj same).symm
    · exact (Option.some.inj same).symm

theorem check_local_pauseOutline :
    check (pauseGrammar.defineArg "label" [] [.string]) () (ofOutline pauseOutline) =
        check pauseGrammar () (ofOutline pauseOutline) ∧
      check (identifierOperations.foldl Grammar.apply pauseGrammar) () (ofOutline pauseOutline) =
        check pauseGrammar () (ofOutline pauseOutline) := by
  have labels : Grammar.Operation.Apart (.defineArg "label" [] [.string] : Grammar.Operation Unit)
      (ofOutline pauseOutline) := apart_identifierOperations _ List.mem_cons_self
  have agree : pauseGrammar.AgreeOn (pauseGrammar.defineArg "label" [] [.string])
      (ofOutline pauseOutline) := Grammar.agreeOn_apply labels
  exact ⟨((check_local pauseOutline).1 _ _ agree ()).symm,
    (check_local pauseOutline).2 pauseGrammar _ apart_identifierOperations ()⟩

end Check

end SequenceCheck
