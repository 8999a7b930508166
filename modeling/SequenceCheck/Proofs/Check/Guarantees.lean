import SequenceCheck.Proofs.Check.Course
import SequenceCheck.Proofs.Check.Precedence
import SequenceCheck.Proofs.Check.Validity

/-!
# What rules may rely on

A rule sees an argument or a node in the middle of a check. `Guaranteed grammar device before event`
says what is then certain, given the events `before` it: for the rule of an argument, that its owner
has the shape that the grammar asks for and that the argument may stand under its key; for the rule
of a node, that this is so for all its arguments, that their rules have been called and have
accepted them, and that everything below the arguments has been examined and is valid.

Main statement: every event of a check of the tree of an outline is guaranteed by the events before
it, whether the check passes or not (`guaranteed_of_event`).
-/

set_option autoImplicit false

namespace SequenceCheck.Check

open SequenceCheck.Tree

variable {D : Type} {tree : Tree}

/-- The grammar knows the kind of a node, allows the children of its body and requires exactly the
keys that it has. -/
def Shaped (grammar : Grammar D) (node : tree.NodeAt) : Prop :=
  ∃ entry, grammar.nodes node.kind = some entry ∧
    (∀ child ∈ node.body, entry.allowsChild child.kind = true) ∧
    ∀ key, key ∈ node.argKeys ↔ key ∈ entry.keys

/-- What is certain when the rule of a key is called. -/
structure ArgGuarantee (grammar : Grammar D) (owner : tree.NodeAt) (key : String)
    (arg : tree.ArgAt) : Prop where
  /-- The argument stands under the key. -/
  held : (key, arg) ∈ owner.args
  /-- Its owner has the shape that the grammar asks for. -/
  shaped : Shaped grammar owner
  /-- It may stand under the key. -/
  allowed : ArgAllowed grammar key arg

/-- A node is valid, and the events show that it has been examined: it has been entered, and all
rules that apply to it and to its arguments have been called. -/
structure Examined (grammar : Grammar D) (device : D) (before : List (Event tree))
    (node : tree.NodeAt) : Prop where
  valid : LocallyValid grammar device node
  entered : .entered node ∈ before
  called : ∀ call ∈ ruleCalls grammar node, call ∈ before

/-- What is certain when the rule for a node is called, after some events. -/
structure NodeGuarantee (grammar : Grammar D) (device : D) (before : List (Event tree))
    (node : tree.NodeAt) : Prop where
  /-- The node has the shape that the grammar asks for. -/
  shaped : Shaped grammar node
  /-- Its arguments may stand under their keys. -/
  allowed : ∀ key arg, (key, arg) ∈ node.args → ArgAllowed grammar key arg
  /-- The rules of the keys have been called, and have accepted the arguments. -/
  accepted : ∀ key arg, (key, arg) ∈ node.args → ∀ rule, grammar.argRule? key = some rule →
    .argRule node key arg ∈ before ∧ rule tree arg device = .ok ()
  /-- Everything at and below an argument has been examined. -/
  below : ∀ key child, (key, Arg.node child) ∈ node.args → ∀ inner ∈ child.preorder,
    Examined grammar device before inner

/-- What the events before an event make certain about it. -/
def Guaranteed (grammar : Grammar D) (device : D) (before : List (Event tree)) : Event tree → Prop
  | .entered _ => True
  | .argRule owner key arg => ArgGuarantee grammar owner key arg
  | .nodeRule node => NodeGuarantee grammar device before node

/-! ## From events to obligations -/

section

variable {grammar : Grammar D} {device : D}

/-- What is kept of a list is kept from a member of it, and what is kept earlier from earlier
members. -/
theorem exists_split_of_filterMap {α β : Type} {f : α → Option β} {items : List α}
    {before after : List β} {kept : β} (h : items.filterMap f = before ++ kept :: after) :
    ∃ earlier item later, items = earlier ++ item :: later ∧ earlier.filterMap f = before ∧
      f item = some kept := by
  obtain ⟨first, second, rfl, rfl, rest⟩ := List.filterMap_eq_append_iff.1 h
  obtain ⟨skipped, item, later, rfl, none, here, _⟩ := List.filterMap_eq_cons_iff.1 rest
  refine ⟨first ++ skipped, item, later, (List.append_assoc _ _ _).symm, ?_, here⟩
  rw [List.filterMap_append, List.filterMap_eq_nil_iff.2 none, List.append_nil]

/-- A check comes to a first part of the obligations, and all of these but the last are met. -/
theorem exists_done (grammar : Grammar D) (device : D) (node : tree.NodeAt) :
    ∃ done rest, obligations node = done ++ rest ∧
      (∀ passed ∈ done.dropLast, Meets grammar device passed) ∧
      (checkNode grammar device node).events =
        done.filterMap (Obligation.event? grammar) := by
  rcases checkNode_cases grammar device node with
    ⟨met, report⟩ | ⟨before, failing, after, diagnostic, split, met, _, report⟩
  · refine ⟨obligations node, [], (List.append_nil _).symm, ?_, by rw [report, course]⟩
    intro passed mem
    exact met passed (List.dropLast_subset _ mem)
  · refine ⟨before ++ [failing], after, ?_, ?_, by rw [report]⟩
    · rw [split, List.append_assoc, List.singleton_append]
    · rw [List.dropLast_concat]
      exact met

/-- An event happens at an obligation. The earlier obligations are met, and what happened at them
are the events before. -/
theorem exists_obligation_of_event {node : tree.NodeAt} {before after : List (Event tree)}
    {event : Event tree}
    (happens : (checkNode grammar device node).events = before ++ event :: after) :
    ∃ earlier obligation later, obligations node = earlier ++ obligation :: later ∧
      (∀ passed ∈ earlier, Meets grammar device passed) ∧
      earlier.filterMap (Obligation.event? grammar) = before ∧
      obligation.event? grammar = some event := by
  obtain ⟨done, rest, split, met, events⟩ := exists_done grammar device node
  rw [events] at happens
  obtain ⟨earlier, obligation, later, rfl, same, here⟩ := exists_split_of_filterMap happens
  refine ⟨earlier, obligation, later ++ rest, ?_, ?_, same, here⟩
  · rw [split, List.append_assoc, List.cons_append]
  · intro passed mem
    apply met
    rw [List.dropLast_append_of_ne_nil (List.cons_ne_nil _ _)]
    exact List.mem_append_left _ mem

/-- The obligation that a check comes to with an event. -/
def obligationOf : Event tree → Obligation tree
  | .entered node => .body node
  | .argRule owner key arg => .argRule owner key arg
  | .nodeRule node => .nodeRule node

/-- An event happens at one obligation only. -/
theorem eq_obligationOf {obligation : Obligation tree} {event : Event tree}
    (here : obligation.event? grammar = some event) : obligation = obligationOf event := by
  cases obligation with
  | body node =>
    cases here
    rfl
  | keys node => cases here
  | pairing owner key arg => cases here
  | argRule owner key arg =>
    obtain ⟨rule, _, rfl⟩ := Option.map_eq_some_iff.1 here
    rfl
  | nodeRule node =>
    obtain ⟨rule, _, rfl⟩ := Option.map_eq_some_iff.1 here
    rfl

/-- Each rule that applies to a node or to an argument of it is called at an obligation of the
node. -/
theorem exists_own_of_mem_ruleCalls {node : tree.NodeAt} {call : Event tree}
    (mem : call ∈ ruleCalls grammar node) :
    ∃ obligation : Obligation tree, obligation.Of node ∧ obligation.event? grammar = some call := by
  rcases List.mem_append.1 mem with argCalls | nodeCalls
  · obtain ⟨⟨key, arg⟩, inArgs, here⟩ := List.mem_filterMap.1 argCalls
    exact ⟨_, .argRule inArgs, here⟩
  · exact ⟨_, .nodeRule, Option.mem_toList.1 nodeCalls⟩

end

/-! ## The tree of an outline -/

section OfOutline

variable {grammar : Grammar D} {device : D} {outline : Outline}

/-- A node whose body and keys are as they have to be is shaped. -/
theorem shaped_of_meets {node : tree.NodeAt} (body : Meets grammar device (.body node))
    (keys : Meets grammar device (.keys node)) : Shaped grammar node := by
  obtain ⟨entry, known, same⟩ := keys
  refine ⟨entry, known, ?_, same⟩
  intro child mem
  obtain ⟨other, sameEntry, allowed⟩ := body child mem
  obtain rfl : entry = other := Option.some.inj (known.symm.trans sameEntry)
  exact allowed

/-- A node has been examined once all its own obligations have been met. -/
theorem examined_of_meets {node : (ofOutline outline).NodeAt}
    {earlier : List (Obligation (ofOutline outline))}
    (met : ∀ passed ∈ earlier, Meets grammar device passed)
    (own : ∀ obligation : Obligation (ofOutline outline), obligation.Of node →
      obligation ∈ earlier) :
    Examined grammar device (earlier.filterMap (Obligation.event? grammar)) node := by
  constructor
  case valid =>
    apply locallyValid_iff_meets.2
    intro obligation mine
    exact met obligation (own obligation mine)
  case entered => exact List.mem_filterMap.2 ⟨_, own _ .body, rfl⟩
  case called =>
    intro call mem
    obtain ⟨obligation, mine, here⟩ := exists_own_of_mem_ruleCalls mem
    exact List.mem_filterMap.2 ⟨obligation, own obligation mine, here⟩

/-- The rule of an argument is called once what it presupposes is met. -/
theorem argGuarantee {owner : (ofOutline outline).NodeAt} {key : String}
    {arg : (ofOutline outline).ArgAt} {earlier later : List (Obligation (ofOutline outline))}
    (split : obligations (ofOutline outline).root = earlier ++ .argRule owner key arg :: later)
    (met : ∀ passed ∈ earlier, Meets grammar device passed) :
    ArgGuarantee grammar owner key arg := by
  have before : ∀ needed ∈ presupposed (.argRule owner key arg), Meets grammar device needed := by
    intro needed mem
    exact met needed (mem_before_of_presupposed split mem)
  simp only [presupposed, List.forall_mem_cons] at before
  obtain ⟨body, keys, pairing, _⟩ := before
  obtain ⟨inner, own⟩ := exists_of_split split
  cases own with
  | argRule held => exact ⟨held, shaped_of_meets body keys, (meets_pairing_iff held).1 pairing⟩

/-- The rule for a node is called once what it presupposes is met: all about its arguments, and
about everything below them. -/
theorem nodeGuarantee {node : (ofOutline outline).NodeAt}
    {earlier later : List (Obligation (ofOutline outline))}
    (split : obligations (ofOutline outline).root = earlier ++ .nodeRule node :: later)
    (met : ∀ passed ∈ earlier, Meets grammar device passed) :
    NodeGuarantee grammar device (earlier.filterMap (Obligation.event? grammar)) node := by
  have before : ∀ needed ∈ presupposed (.nodeRule node), needed ∈ earlier := by
    intro needed mem
    exact mem_before_of_presupposed split mem
  simp only [presupposed, List.forall_mem_cons, List.mem_flatMap] at before
  obtain ⟨body, keys, args⟩ := before
  have pairing : ∀ key arg, (key, arg) ∈ node.args → .pairing node key arg ∈ earlier := by
    intro key arg mem
    exact args _ ⟨_, mem, List.mem_cons_self⟩
  have argRule : ∀ key arg, (key, arg) ∈ node.args → .argRule node key arg ∈ earlier := by
    intro key arg mem
    exact args _ ⟨_, mem, List.mem_cons_of_mem _ List.mem_cons_self⟩
  constructor
  case shaped => exact shaped_of_meets (met _ body) (met _ keys)
  case allowed =>
    intro key arg mem
    exact (meets_pairing_iff mem).1 (met _ (pairing key arg mem))
  case accepted =>
    intro key arg mem rule registered
    obtain ⟨entry, known, attached⟩ := Grammar.argRule?_eq_some_iff.1 registered
    refine ⟨?_, met _ (argRule key arg mem) entry rule known attached⟩
    exact List.mem_filterMap.2 ⟨_, argRule key arg mem, event?_argRule registered⟩
  case below =>
    intro key child mem inner inChild
    apply examined_of_meets met
    intro obligation own
    have listed : obligation ∈ obligations child := mem_obligations_iff.2 ⟨inner, inChild, own⟩
    exact args _ ⟨_, mem, List.mem_cons_of_mem _ (List.mem_cons_of_mem _ listed)⟩

/-- Every event of a check is guaranteed by the events before it. -/
theorem guaranteed_of_event (grammar : Grammar D) (device : D) (outline : Outline)
    {before after : List (Event (ofOutline outline))} {event : Event (ofOutline outline)}
    (happens : (check grammar device (ofOutline outline)).events = before ++ event :: after) :
    Guaranteed grammar device before event := by
  obtain ⟨earlier, obligation, later, split, met, rfl, here⟩ :=
    exists_obligation_of_event happens
  obtain rfl := eq_obligationOf here
  cases event with
  | entered node => exact trivial
  | argRule owner key arg => exact argGuarantee split met
  | nodeRule node => exact nodeGuarantee split met

end OfOutline

/-! ## A check with rules of both sorts -/

/-- A grammar in which a sequence has locals, with a rule for the locals and one for the
sequence. -/
def localsGrammar : Grammar Unit where
  args := (∅ : Std.TreeMap String (ArgEntry Unit)).insert "locals"
    { name := "locals", allowsKind := fun kind => kind = .scopeDeclaration,
      allowsType := fun _ => false, rule := some fun _ _ _ => .ok () }
  nodes := fun kind => some
    { kind, keys := if kind = .sequence then ["locals"] else [], allowsChild := fun _ => true,
      rule := if kind = .sequence then some fun _ _ _ => .ok () else none }

/-- A sequence with locals that have something in their body. -/
def localsOutline : Outline where
  kind := .sequence
  args := [("locals", .node ⟨.scopeDeclaration, [], [.ofKind .nothing], none⟩)]
  body := []
  comment := none

/-- The nodes of its tree: the sequence, the locals and what is in their body. -/
def localsNode (id : Fin 3) : (ofOutline localsOutline).NodeAt :=
  ⟨id.val, id.isLt⟩

/-- What happens in a check of it before the rule for the sequence is called. -/
def localsEvents : List (Event (ofOutline localsOutline)) :=
  [.entered (localsNode 0), .argRule (localsNode 0) "locals" (.node (localsNode 1)),
    .entered (localsNode 1), .entered (localsNode 2)]

/-- The check asks about three nodes, the sequence around the others. -/
theorem obligations_localsOutline :
    obligations (ofOutline localsOutline).root =
      [.body (localsNode 0), .keys (localsNode 0),
        .pairing (localsNode 0) "locals" (.node (localsNode 1)),
        .argRule (localsNode 0) "locals" (.node (localsNode 1)),
        .body (localsNode 1), .keys (localsNode 1), .nodeRule (localsNode 1),
        .body (localsNode 2), .keys (localsNode 2), .nodeRule (localsNode 2),
        .nodeRule (localsNode 0)] := by
  have inner : obligations (localsNode 2) =
      [.body (localsNode 2), .keys (localsNode 2), .nodeRule (localsNode 2)] :=
    obligations_eq (localsNode 2)
  have locals : obligations (localsNode 1) =
      .body (localsNode 1) :: .keys (localsNode 1) :: .nodeRule (localsNode 1) ::
        obligations (localsNode 2) ++ [] :=
    obligations_eq (localsNode 1)
  have sequence : obligations (localsNode 0) =
      .body (localsNode 0) :: .keys (localsNode 0) ::
        .pairing (localsNode 0) "locals" (.node (localsNode 1)) ::
        .argRule (localsNode 0) "locals" (.node (localsNode 1)) ::
        obligations (localsNode 1) ++ [] ++ [.nodeRule (localsNode 0)] :=
    obligations_eq (localsNode 0)
  change obligations (localsNode 0) = _
  rw [sequence, locals, inner]
  rfl

theorem guaranteed_of_event_localsOutline :
    (check localsGrammar () (ofOutline localsOutline)).events =
        localsEvents ++ .nodeRule (localsNode 0) :: [] ∧
      Guaranteed localsGrammar () localsEvents (.nodeRule (localsNode 0)) := by
  have happens : (check localsGrammar () (ofOutline localsOutline)).events =
      localsEvents ++ .nodeRule (localsNode 0) :: [] := by
    rw [check, checkNode_eq_askAll, obligations_localsOutline]
    rfl
  exact ⟨happens, guaranteed_of_event localsGrammar () localsOutline happens⟩

end SequenceCheck.Check
