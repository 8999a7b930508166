import SequenceCheck.Proofs.Check.Failures
import SequenceCheck.Proofs.Tree.Numbering

/-!
# The course of a check

`course grammar node` lists what happens in a check from a node that nothing puts an end to: the
node is entered; then, for each argument in declared order, the rule of its key is called if there
is one, and everything below the argument follows; then the rule for the node is called if there is
one; then everything below each child of the body follows (`course_eq`).

Main statement: a check of the tree of an outline takes this course, either to its end, and then it
enters every node and calls every rule that applies exactly once, or up to the obligation that fails
and no further (`check_takes_course`). Nodes are entered in the order of their numbers, and none is
left out on the way.
-/

set_option autoImplicit false

namespace SequenceCheck

open SequenceCheck.Tree

section Events

variable {tree : Tree}

/-- The node that is entered, if an event enters one. -/
def Event.enteredNode? : Event tree → Option tree.NodeAt
  | .entered node => some node
  | .argRule _ _ _ => none
  | .nodeRule _ => none

/-- The numbers of the nodes that are entered, in order. -/
def enteredIds (events : List (Event tree)) : List Nat :=
  (events.filterMap Event.enteredNode?).map NodeAt.id

end Events

/-- The rule attached to a kind of node. -/
def Grammar.nodeRule? {D : Type} (grammar : Grammar D) (kind : Kind) : Option (NodeRule D) :=
  (grammar.nodes kind).bind NodeEntry.rule

namespace Check

variable {D : Type} {tree : Tree}

/-! ## What happens if nothing fails -/

/-- The call of the rule for an argument of a node, if its key has a rule. -/
def argCall (grammar : Grammar D) (owner : tree.NodeAt) (entry : String × tree.ArgAt) :
    Option (Event tree) :=
  (grammar.argRule? entry.1).map fun _ => .argRule owner entry.1 entry.2

/-- The call of the rule for a node, if its kind has a rule. -/
def nodeCall (grammar : Grammar D) (node : tree.NodeAt) : Option (Event tree) :=
  (grammar.nodeRule? node.kind).map fun _ => .nodeRule node

/-- The calls of the rules that apply to the arguments of a node and to the node, one for each. -/
def ruleCalls (grammar : Grammar D) (node : tree.NodeAt) : List (Event tree) :=
  node.args.filterMap (argCall grammar node) ++ (nodeCall grammar node).toList

/-- What happens when a check comes to an obligation, whether it is met or fails. -/
def Obligation.event? (grammar : Grammar D) : Obligation tree → Option (Event tree)
  | .body node => some (.entered node)
  | .keys _ => none
  | .pairing _ _ _ => none
  | .argRule owner key arg => argCall grammar owner (key, arg)
  | .nodeRule node => nodeCall grammar node

/-- With a rule for its key, an argument has the rule called. -/
theorem event?_argRule {grammar : Grammar D} {owner : tree.NodeAt} {key : String}
    {arg : tree.ArgAt} {rule : ArgRule D} (registered : grammar.argRule? key = some rule) :
    (Obligation.argRule owner key arg).event? grammar = some (.argRule owner key arg) := by
  rw [Obligation.event?, argCall, registered]
  rfl

/-- With a rule for its kind, a node has the rule called. -/
theorem event?_nodeRule {grammar : Grammar D} {node : tree.NodeAt} {rule : NodeRule D}
    (registered : grammar.nodeRule? node.kind = some rule) :
    (Obligation.nodeRule node).event? grammar = some (.nodeRule node) := by
  rw [Obligation.event?, nodeCall, registered]
  rfl

/-- What happens in a check from a node that nothing puts an end to. -/
def course (grammar : Grammar D) (node : tree.NodeAt) : List (Event tree) :=
  (obligations node).filterMap (Obligation.event? grammar)

/-- What happens in it below an argument. -/
def courseBelow (grammar : Grammar D) (arg : tree.ArgAt) : List (Event tree) :=
  arg.node?.toList.flatMap (course grammar)

section

variable (grammar : Grammar D)

/-- The rule for an argument is called before anything below the argument is entered. -/
theorem filterMap_argObligations (owner : tree.NodeAt) (entry : String × tree.ArgAt) :
    (argObligations owner entry).filterMap (Obligation.event? grammar) =
      (argCall grammar owner entry).toList ++ courseBelow grammar entry.2 := by
  rcases entry with ⟨key, arg⟩
  have below : (obligationsBelow arg).filterMap (Obligation.event? grammar) =
      courseBelow grammar arg := by
    cases arg with
    | node child => exact (List.append_nil _).symm
    | leaf leaf => rfl
    | malformed raw => rfl
  rw [argObligations, ← below]
  simp only [List.filterMap_eq_flatMap_toList, List.flatMap_cons]
  rfl

/-- The order of a course: a node is entered, the rule for each argument is called before what is
below the argument, then the rule for the node is called, and then comes the body. -/
theorem course_eq (node : tree.NodeAt) :
    course grammar node =
      .entered node ::
        node.args.flatMap (fun entry =>
          (argCall grammar node entry).toList ++ courseBelow grammar entry.2) ++
        (nodeCall grammar node).toList ++ node.body.flatMap (course grammar) := by
  have args : node.args.flatMap (fun entry =>
        (argCall grammar node entry).toList ++ courseBelow grammar entry.2) =
      (node.args.flatMap (argObligations node)).filterMap (Obligation.event? grammar) := by
    rw [List.filterMap_flatMap]
    simp only [filterMap_argObligations]
  have body : node.body.flatMap (course grammar) =
      (node.body.flatMap obligations).filterMap (Obligation.event? grammar) := by
    rw [List.filterMap_flatMap]
    rfl
  rw [course, obligations_eq, args, body]
  simp only [List.filterMap_eq_flatMap_toList, List.flatMap_cons, List.flatMap_append,
    List.cons_append, List.append_assoc]
  rfl

/-- The call of the rule for an argument enters nothing. -/
theorem entered_argCall (owner : tree.NodeAt) (entry : String × tree.ArgAt) :
    (argCall grammar owner entry).toList.filterMap Event.enteredNode? = [] := by
  rw [argCall]
  cases grammar.argRule? entry.1 <;> rfl

/-- The call of the rule for a node enters nothing. -/
theorem entered_nodeCall (node : tree.NodeAt) :
    (nodeCall grammar node).toList.filterMap Event.enteredNode? = [] := by
  rw [nodeCall]
  cases grammar.nodeRule? node.kind <;> rfl

/-- A course enters a node and everything below it in preorder. -/
theorem entered_course (node : tree.NodeAt) :
    (course grammar node).filterMap Event.enteredNode? = node.preorder := by
  induction node using NodeAt.induct_children with
  | step node ih =>
    -- Below the arguments and then in the body, the children are entered in their order.
    have below : ((node.args.flatMap fun entry => courseBelow grammar entry.2) ++
        node.body.flatMap (course grammar)).filterMap Event.enteredNode? =
          node.children.flatMap NodeAt.preorder := by
      simp only [courseBelow]
      rw [← NodeAt.flatMap_children, List.filterMap_flatMap, List.flatMap_def, List.flatMap_def,
        List.map_congr_left ih]
    rw [List.filterMap_append, List.filterMap_flatMap] at below
    have first : Event.enteredNode? (.entered node) = some node := rfl
    rw [course_eq, NodeAt.preorder_eq, ← below, List.cons_append, List.cons_append,
      List.filterMap_cons_some first]
    simp only [List.filterMap_append, List.filterMap_flatMap, entered_argCall, entered_nodeCall,
      List.nil_append, List.append_nil]

/-! ## What happens at each node -/

/-- The obligations that a node has of its own. -/
def ownObligations (node : tree.NodeAt) : List (Obligation tree) :=
  .body node :: .keys node ::
    (node.args.flatMap fun entry =>
      [.pairing node entry.1 entry.2, .argRule node entry.1 entry.2]) ++ [.nodeRule node]

/-- The obligations of a node and of everything below it are, up to order, those that each node has
of its own. -/
theorem perm_obligations (node : tree.NodeAt) :
    (obligations node).Perm (node.preorder.flatMap ownObligations) := by
  apply NodeAt.perm_flatMap_preorder ownObligations obligations
  intro node
  have arg : argObligations node = fun entry =>
      [.pairing node entry.1 entry.2, .argRule node entry.1 entry.2] ++
        entry.2.node?.toList.flatMap obligations := by
    funext entry
    rcases entry with ⟨key, arg⟩
    cases arg with
    | node child => simp [argObligations, obligationsBelow, Arg.node?]
    | leaf leaf => rfl
    | malformed raw => rfl
  rw [obligations_eq, arg, ownObligations]
  simp only [List.cons_append, List.append_assoc, List.nil_append]
  -- The rule for the node stands between the arguments and the body, and is taken out of the way.
  refine .cons _ (.cons _ ?_)
  refine List.perm_middle.trans (.trans (.cons _ ?_) List.perm_middle.symm)
  exact NodeAt.perm_flatMap_args (fun entry =>
    [.pairing node entry.1 entry.2, .argRule node entry.1 entry.2]) obligations node

/-- A node is entered, and the rules that apply to its arguments and to it are called. -/
theorem filterMap_ownObligations (node : tree.NodeAt) :
    (ownObligations node).filterMap (Obligation.event? grammar) =
      .entered node :: ruleCalls grammar node := by
  simp only [ownObligations, ruleCalls, List.filterMap_eq_flatMap_toList, List.flatMap_cons,
    List.flatMap_append, List.flatMap_assoc, List.flatMap_nil, List.append_nil, List.cons_append]
  rfl

/-- A course enters each node once and calls once each rule that applies to it or to an argument of
it. -/
theorem perm_course (node : tree.NodeAt) :
    (course grammar node).Perm
      (node.preorder.flatMap fun inner => .entered inner :: ruleCalls grammar inner) := by
  have own := (perm_obligations node).filterMap (Obligation.event? grammar)
  rw [List.filterMap_flatMap] at own
  simp only [filterMap_ownObligations] at own
  exact own

end

/-! ## What a check does about obligations in turn -/

section

variable {grammar : Grammar D} {device : D}

theorem events_ofStep (step : Except Diagnostic Unit) :
    (Report.ofStep step : Report tree).events = [] := by
  cases step <;> rfl

/-- What happens at an obligation is the same whether it is met or fails. -/
theorem events_ask (obligation : Obligation tree) :
    (ask grammar device obligation).events = (obligation.event? grammar).toList := by
  -- An event and a step without events come to a report of the one event.
  have called : ∀ (event : Event tree) (step : Except Diagnostic Unit),
      (Report.event event >> Report.ofStep step).events = [event] := by
    intro event step
    rw [Report.andThen_of_clear _ rfl, events_ofStep]
    rfl
  cases obligation with
  | body node => exact called _ _
  | keys node => exact events_ofStep _
  | pairing owner key arg => exact events_ofStep _
  | argRule owner key arg =>
    rw [ask, askArgRule, Obligation.event?, argCall]
    cases grammar.argRule? key with
    | none => rfl
    | some rule => exact called _ _
  | nodeRule node =>
    rw [ask, askNodeRule, Obligation.event?, nodeCall, Grammar.nodeRule?]
    cases known : grammar.nodes node.kind with
    | none =>
      rw [Grammar.nodeEntry_of_none known]
      rfl
    | some entry =>
      rw [Grammar.nodeEntry_of_some known, Option.bind_some]
      cases attached : entry.rule with
      | none =>
        simp only [attached]
        rfl
      | some rule =>
        simp only [attached]
        exact called _ _

/-- An obligation that is met lets a check go on. -/
theorem ask_of_meets {obligation : Obligation tree} (meets : Meets grammar device obligation) :
    ask grammar device obligation = ⟨(obligation.event? grammar).toList, none⟩ := by
  rw [← events_ask, ← offence_ask_of_meets meets]

/-- An obligation that fails puts an end to a check. -/
theorem ask_of_fails {obligation : Obligation tree} {diagnostic : Diagnostic}
    (fails : Fails grammar device obligation diagnostic) :
    ask grammar device obligation = ⟨(obligation.event? grammar).toList, some diagnostic⟩ := by
  rw [← events_ask, ← offence_ask_of_fails fails]

/-- Obligations that are all met let a check go through. -/
theorem askAll_of_meets {obligations : List (Obligation tree)}
    (met : ∀ obligation ∈ obligations, Meets grammar device obligation) :
    askAll grammar device obligations =
      ⟨obligations.filterMap (Obligation.event? grammar), none⟩ := by
  induction obligations with
  | nil => rfl
  | cons first rest ih =>
    obtain ⟨here, later⟩ := List.forall_mem_cons.1 met
    rw [askAll_cons, ask_of_meets here, ih later, Report.andThen_of_clear _ rfl]
    simp only [List.filterMap_eq_flatMap_toList, List.flatMap_cons]

/-- A check does nothing after an obligation that fails. -/
theorem askAll_of_fails {before : List (Obligation tree)} {failing : Obligation tree}
    {diagnostic : Diagnostic} (after : List (Obligation tree))
    (met : ∀ earlier ∈ before, Meets grammar device earlier)
    (fails : Fails grammar device failing diagnostic) :
    askAll grammar device (before ++ failing :: after) =
      ⟨(before ++ [failing]).filterMap (Obligation.event? grammar), some diagnostic⟩ := by
  rw [askAll_append, askAll_of_meets met, askAll_cons, ask_of_fails fails,
    Report.andThen_of_clear _ rfl, Report.andThen_of_offence _ rfl]
  simp only [List.filterMap_eq_flatMap_toList, List.flatMap_append, List.flatMap_singleton]

/-- The body of a node is its first obligation, so a check never ends before it. -/
theorem body_mem_of_split {node : tree.NodeAt} {before after : List (Obligation tree)}
    {failing : Obligation tree} (split : obligations node = before ++ failing :: after) :
    .body node ∈ before ++ [failing] := by
  rw [obligations_eq] at split
  cases before with
  | nil =>
    obtain ⟨same, _⟩ := List.cons.inj split
    rw [same]
    exact List.mem_singleton_self _
  | cons first rest =>
    obtain ⟨same, _⟩ := List.cons.inj split
    rw [same]
    exact List.mem_cons_self

/-- A check goes through, or it ends at the first obligation that is not met. -/
theorem checkNode_cases (grammar : Grammar D) (device : D) (node : tree.NodeAt) :
    ((∀ obligation ∈ obligations node, Meets grammar device obligation) ∧
      checkNode grammar device node = ⟨course grammar node, none⟩) ∨
    ∃ before failing after diagnostic, obligations node = before ++ failing :: after ∧
      (∀ earlier ∈ before, Meets grammar device earlier) ∧
      Fails grammar device failing diagnostic ∧
      checkNode grammar device node =
        ⟨(before ++ [failing]).filterMap (Obligation.event? grammar), some diagnostic⟩ := by
  rw [checkNode_eq_askAll]
  rcases forall_or_exists_first (Meets grammar device) (obligations node) with
    met | ⟨before, failing, after, split, met, unmet⟩
  · exact .inl ⟨met, askAll_of_meets met⟩
  · obtain ⟨diagnostic, fails⟩ :=
      (meets_or_fails grammar device failing).resolve_left unmet
    refine .inr ⟨before, failing, after, diagnostic, split, met, fails, ?_⟩
    rw [split]
    exact askAll_of_fails after met fails

end

/-! ## The tree of an outline -/

/-- Nodes are entered in the order of their numbers, if nothing puts an end to the check. -/
theorem enteredIds_course (grammar : Grammar D) (outline : Outline) :
    enteredIds (course grammar (ofOutline outline).root) =
      List.range (ofOutline outline).nodeCount := by
  rw [enteredIds, entered_course, map_id_preorder_root]

/-- A first part of the course enters the root and goes on without leaving out a node. -/
theorem enteredIds_of_isPrefix {grammar : Grammar D} {outline : Outline}
    {events : List (Event (ofOutline outline))}
    (first : .entered (ofOutline outline).root ∈ events)
    (part : events <+: course grammar (ofOutline outline).root) :
    ∃ last < (ofOutline outline).nodeCount, enteredIds events = List.range (last + 1) := by
  have numbers := (part.filterMap Event.enteredNode?).map NodeAt.id
  rw [← enteredIds, ← enteredIds, enteredIds_course, List.prefix_iff_eq_take,
    List.take_range] at numbers
  have entered : (ofOutline outline).root.id ∈ enteredIds events :=
    List.mem_map_of_mem (List.mem_filterMap.2 ⟨_, first, rfl⟩)
  rw [numbers, List.mem_range] at entered
  refine ⟨min (enteredIds events).length (ofOutline outline).nodeCount - 1, ?_, ?_⟩
  · omega
  · rwa [Nat.sub_add_cancel (by omega)]

/-- A report of a check that has gone through the whole course from the root. -/
structure Completes (grammar : Grammar D) {outline : Outline}
    (report : Report (ofOutline outline)) : Prop where
  offence : report.offence = none
  events : report.events = course grammar (ofOutline outline).root
  /-- The nodes have been entered in the order of their numbers. -/
  entered : enteredIds report.events = List.range (ofOutline outline).nodeCount
  /-- Each node has been entered once, and each rule that applies to it or to an argument of it has
  been called once. -/
  once : report.events.Perm
    ((ofOutline outline).allNodes.flatMap fun node => .entered node :: ruleCalls grammar node)

/-- A report of a check that an obligation has put an end to. -/
structure StopsAt (grammar : Grammar D) (device : D) {outline : Outline}
    (before : List (Obligation (ofOutline outline))) (failing : Obligation (ofOutline outline))
    (after : List (Obligation (ofOutline outline))) (diagnostic : Diagnostic)
    (report : Report (ofOutline outline)) : Prop where
  split : obligations (ofOutline outline).root = before ++ failing :: after
  met : ∀ earlier ∈ before, Meets grammar device earlier
  fails : Fails grammar device failing diagnostic
  offence : report.offence = some diagnostic
  /-- What has happened is what comes before, and then the call of a rule if that is what fails. -/
  events : report.events = (before ++ [failing]).filterMap (Obligation.event? grammar)
  /-- The nodes that have been entered are the first ones, in the order of their numbers. -/
  entered : ∃ last < (ofOutline outline).nodeCount,
    enteredIds report.events = List.range (last + 1)

/-- A check of the tree of an outline takes the course from the root, which at each node enters the
node, calls the rule for each argument before it goes below the argument, then calls the rule for
the node, and then goes through the body. The check completes it or stops at the first obligation
that is not met. -/
theorem check_takes_course (grammar : Grammar D) (device : D) (outline : Outline) :
    (∀ node : (ofOutline outline).NodeAt,
      course grammar node =
        .entered node ::
          node.args.flatMap (fun entry =>
            (argCall grammar node entry).toList ++
              entry.2.node?.toList.flatMap (course grammar)) ++
          (nodeCall grammar node).toList ++ node.body.flatMap (course grammar)) ∧
    (Completes grammar (check grammar device (ofOutline outline)) ∨
      ∃ before failing after diagnostic,
        StopsAt grammar device before failing after diagnostic
          (check grammar device (ofOutline outline))) := by
  refine ⟨fun node => course_eq grammar node, ?_⟩
  rcases checkNode_cases grammar device (ofOutline outline).root with
    ⟨met, report⟩ | ⟨before, failing, after, diagnostic, split, met, fails, report⟩
  · left
    rw [check, report]
    constructor
    case offence => rfl
    case events => rfl
    case entered => exact enteredIds_course grammar outline
    case once =>
      rw [← preorder_root_eq_allNodes]
      exact perm_course grammar _
  · right
    refine ⟨before, failing, after, diagnostic, ?_⟩
    rw [check, report]
    constructor
    case split => exact split
    case met => exact met
    case fails => exact fails
    case offence => rfl
    case events => rfl
    case entered =>
      -- The events are those of a first part of the obligations, and the root is among these.
      have part : (before ++ [failing]).filterMap (Obligation.event? grammar) <+:
          course grammar (ofOutline outline).root := by
        apply List.IsPrefix.filterMap
        exact ⟨after, by rw [split, List.append_assoc, List.singleton_append]⟩
      apply enteredIds_of_isPrefix _ part
      exact List.mem_filterMap.2 ⟨_, body_mem_of_split split, rfl⟩

end Check

end SequenceCheck
