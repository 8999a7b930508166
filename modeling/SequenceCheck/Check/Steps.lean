import SequenceCheck.Grammar.Basic
import SequenceCheck.Scope
import SequenceCheck.Report

/-!
# The steps of a check

What a check of a tree asks at a single node or argument, one function to a question: whether the
kinds of the body are allowed, whether the argument keys are the required ones, whether an argument
may stand under its key, and what the rules of the grammar say. Each answers with the first offence
of its own, located at the node that is to blame.

An identifier that is an argument must resolve, but what it resolves to is not compared with what
the key allows.
-/

set_option autoImplicit false

namespace SequenceCheck.Check

variable {D : Type} {tree : Tree}

/-- A step goes on from an answer of the grammar. -/
theorem mapError_ok_bind {ε ε' α β : Type} (f : ε → ε') (a : α) (next : α → Except ε' β) :
    ((Except.ok a : Except ε α).mapError f >>= next) = next a :=
  rfl

/-- A step ends where the grammar has no answer. -/
theorem mapError_error_bind {ε ε' α β : Type} (f : ε → ε') (e : ε) (next : α → Except ε' β) :
    ((Except.error e : Except ε α).mapError f >>= next) = .error (f e) :=
  rfl

/-- Whether a leaf is of a type that the entry of its key allows. -/
def checkLeaf (grammar : Grammar D) (leaf : tree.LeafAt) : Except Diagnostic Unit := do
  let entry ← (grammar.argEntry leaf.key).mapError (Diagnostic.located leaf.owner.id)
  if entry.allowsType leaf.value.type then .ok ()
  else
    .error <| Diagnostic.located leaf.owner.id <|
      .badLeaf leaf.key leaf.owner.kind (Text.bareList (entry.types.map LeafType.title))
        leaf.value.type.title

/-- Whether a node may stand under a key of another: an identifier must resolve, and the entry of
the key must allow the kind. -/
def checkNodeArg (grammar : Grammar D) (owner : tree.NodeAt) (key : String) (node : tree.NodeAt) :
    Except Diagnostic Unit := do
  let entry ← (grammar.argEntry key).mapError (Diagnostic.located owner.id)
  if node.kind = .identifier then
    let _ ← (Scope.resolve node).mapError Scope.Unbound.diagnostic
  if entry.allowsKind node.kind then .ok ()
  else
    .error <| Diagnostic.located node.id <|
      .badLeaf node.kind.name owner.kind (Text.quotedList (entry.kinds.map Kind.name))
        node.kind.name

/-- Whether an argument may stand under its key. -/
def checkPairing (grammar : Grammar D) (owner : tree.NodeAt) (key : String) :
    tree.ArgAt → Except Diagnostic Unit
  | .node node => checkNodeArg grammar owner key node
  | .leaf leaf => checkLeaf grammar leaf
  | .malformed _ => .error ((Diagnostic.malformed key).located owner.id)

/-- Whether the children of a node are of kinds that may stand in its body. -/
def checkBody (grammar : Grammar D) (node : tree.NodeAt) : Except Diagnostic Unit :=
  if node.body.isEmpty then .ok ()
  else do
    let entry ← (grammar.nodeEntry node.kind).mapError (Diagnostic.located node.id)
    match node.body.zipIdx.find? fun (child, _) => !entry.allowsChild child.kind with
    | none => .ok ()
    | some (child, index) =>
      .error <| Diagnostic.located child.id <|
        .badBody node.kind child.kind index (Text.quotedList (entry.children.map Kind.name))

/-- A body whose children are all allowed passes. -/
theorem checkBody_of_allowed {grammar : Grammar D} {node : tree.NodeAt} {entry : NodeEntry D}
    (known : grammar.nodes node.kind = some entry)
    (allowed : ∀ child ∈ node.body, entry.allowsChild child.kind = true) :
    checkBody grammar node = .ok () := by
  have none : (node.body.zipIdx.find? fun (child, _) => !entry.allowsChild child.kind) = none := by
    refine List.find?_eq_none.2 fun numbered inList => ?_
    simp [allowed numbered.1 (List.fst_mem_of_mem_zipIdx inList)]
  unfold checkBody
  split
  · rfl
  · rw [Grammar.nodeEntry_of_some known, mapError_ok_bind, none]

/-- The first child that is not allowed is to blame, and the number of children before it is
given. -/
theorem checkBody_of_stray {grammar : Grammar D} {node child : tree.NodeAt} {entry : NodeEntry D}
    {before after : List tree.NodeAt} (known : grammar.nodes node.kind = some entry)
    (split : node.body = before ++ child :: after)
    (allowed : ∀ earlier ∈ before, entry.allowsChild earlier.kind = true)
    (stray : entry.allowsChild child.kind = false) :
    checkBody grammar node =
      .error ((Diagnostic.badBody node.kind child.kind before.length
        (Text.quotedList (entry.children.map Kind.name))).located child.id) := by
  have nonempty : ¬ node.body.isEmpty = true := by simp [split]
  have first : (node.body.zipIdx.find? fun (child, _) => !entry.allowsChild child.kind) =
      some (child, before.length) := by
    refine List.find?_eq_some_iff_append.2 ⟨by simp [stray], before.zipIdx,
      after.zipIdx (before.length + 1), ?_, fun numbered inList => ?_⟩
    · rw [split, List.zipIdx_append, List.zipIdx_cons, Nat.zero_add]
    · simp [allowed numbered.1 (List.fst_mem_of_mem_zipIdx inList)]
  rw [checkBody, if_neg nonempty, Grammar.nodeEntry_of_some known, mapError_ok_bind, first]

/-- Whether the argument keys of a node are exactly the required ones: first that none of these is
absent, then that there are no others. -/
def checkKeys (grammar : Grammar D) (node : tree.NodeAt) : Except Diagnostic Unit := do
  let required ← (grammar.requiredKeys node.kind).mapError (Diagnostic.located node.id)
  match required.find? fun key => !node.hasArg key with
  | some key =>
    .error ((Diagnostic.missingArg node.kind key node.argKeys).located node.id)
  | none =>
    let extras := node.argKeys.filter fun key => !required.contains key
    if extras.isEmpty then .ok ()
    else .error ((Diagnostic.extraArgs node.kind extras required).located node.id)

/-- Ask the rule of a key about an argument, if there is a rule. -/
def askArgRule (grammar : Grammar D) (device : D) (owner : tree.NodeAt) (key : String)
    (arg : tree.ArgAt) : Report tree :=
  match grammar.argRule? key with
  | some rule => Report.event (.argRule owner key arg) >> Report.ofStep (rule tree arg device)
  | none => .clear

/-- Ask the rule of a kind about a node, if there is a rule. -/
def askNodeRule (grammar : Grammar D) (device : D) (node : tree.NodeAt) : Report tree :=
  match grammar.nodeEntry node.kind with
  | .error diagnostic => Report.ofStep (.error diagnostic)
  | .ok entry =>
    match entry.rule with
    | some rule => Report.event (.nodeRule node) >> Report.ofStep (rule tree node device)
    | none => .clear

end SequenceCheck.Check
