import SequenceCheck.Proofs.Check.Failures
import SequenceCheck.Proofs.Tree.Numbering

/-!
# Leaves checked alone

A leaf can be checked alone, for its type, and a check of a tree comes to every leaf among its other
obligations. It comes to them in the order of their numbers (`filterMap_leaf?_obligations`), through
arguments and bodies at whatever depth, so the two ways to check leaves give one answer.

Main statement: if nothing but leaves can fail, a check of the tree of an outline answers as the
first leaf does that fails alone, and passes if there is none; and whatever else may fail, no tree
passes with a leaf that fails alone (`check_agrees_with_leaves`).
-/

set_option autoImplicit false

namespace SequenceCheck.Check

open SequenceCheck.Tree

variable {D : Type} {tree : Tree}

/-! ## The leaves that a check comes to -/

/-- The leaf that an obligation is about, if it is the pairing of a leaf. -/
def Obligation.leaf? : Obligation tree → Option tree.LeafAt
  | .pairing _ _ arg => arg.leaf?
  | _ => none

/-- The leaves that the obligations of an argument are about. -/
theorem filterMap_leaf?_argObligations {owner : tree.NodeAt} {entry : String × tree.ArgAt}
    (below : ∀ child, entry.2 = .node child →
      (obligations child).filterMap Obligation.leaf? = child.leavesBelow) :
    (argObligations owner entry).filterMap Obligation.leaf? = NodeAt.leavesIn entry.2 := by
  rcases entry with ⟨key, arg⟩
  cases arg with
  | node child => exact below child rfl
  | leaf leaf => rfl
  | malformed raw => rfl

/-- The obligations of a node are about the leaves below it, each once and in order. -/
theorem filterMap_leaf?_obligations (node : tree.NodeAt) :
    (obligations node).filterMap Obligation.leaf? = node.leavesBelow := by
  induction node using NodeAt.induct_children with
  | step node ih =>
    have args : (node.args.flatMap (argObligations node)).filterMap Obligation.leaf? =
        node.args.flatMap fun entry => NodeAt.leavesIn entry.2 := by
      rw [List.filterMap_flatMap, List.flatMap_def, List.flatMap_def]
      congr 1
      apply List.map_congr_left
      rintro ⟨key, arg⟩ mem
      apply filterMap_leaf?_argObligations
      rintro child rfl
      exact ih child (NodeAt.mem_children_iff.2 (.inl ⟨key, mem⟩))
    have body : (node.body.flatMap obligations).filterMap Obligation.leaf? =
        node.body.flatMap NodeAt.leavesBelow := by
      rw [List.filterMap_flatMap, List.flatMap_def, List.flatMap_def]
      congr 1
      apply List.map_congr_left
      intro child mem
      exact ih child (NodeAt.mem_children_iff.2 (.inr mem))
    rw [obligations_eq, NodeAt.leavesBelow_eq, ← args, ← body, List.filterMap_append]
    rfl

/-! ## The first that fails -/

/-- What a search finds depends only on the items that can be found. -/
theorem findSome?_filterMap_eq {α β γ : Type} {found : α → Option γ} {pick : α → Option β}
    {foundIn : β → Option γ} {items : List α}
    (picked : ∀ item ∈ items, ∀ b, pick item = some b → found item = foundIn b)
    (others : ∀ item ∈ items, pick item = none → found item = none) :
    items.findSome? found = (items.filterMap pick).findSome? foundIn := by
  induction items with
  | nil => rfl
  | cons item rest ih =>
    obtain ⟨here, picked⟩ := List.forall_mem_cons.1 picked
    obtain ⟨nothing, others⟩ := List.forall_mem_cons.1 others
    rw [List.findSome?_cons, ih picked others]
    cases choice : pick item with
    | none => rw [nothing choice, List.filterMap_cons_none choice]
    | some b => rw [here b choice, List.filterMap_cons_some choice, List.findSome?_cons]

/-- Among items in the order of their ranks, a search finds the one of smallest rank. -/
theorem findSome?_eq_some_iff_smallest {α β : Type} {rank : α → Nat} {found : α → Option β}
    {items : List α} (sorted : items.Pairwise fun a b => rank a < rank b) {b : β} :
    items.findSome? found = some b ↔
      ∃ item ∈ items, found item = some b ∧
        ∀ other ∈ items, rank other < rank item → found other = none := by
  induction items with
  | nil => simp
  | cons first rest ih =>
    obtain ⟨smaller, sorted⟩ := List.pairwise_cons.1 sorted
    rw [List.findSome?_cons]
    cases here : found first with
    | some value =>
      constructor
      · intro same
        refine ⟨first, List.mem_cons_self, here.trans same, ?_⟩
        intro other mem less
        rcases List.mem_cons.1 mem with rfl | later
        · exact absurd less (Nat.lt_irrefl _)
        · exact absurd less (Nat.lt_asymm (smaller other later))
      · rintro ⟨item, mem, fails, passed⟩
        rcases List.mem_cons.1 mem with rfl | later
        · exact here.symm.trans fails
        · cases here.symm.trans (passed first List.mem_cons_self (smaller item later))
    | none =>
      rw [ih sorted]
      constructor
      · rintro ⟨item, mem, fails, passed⟩
        exact ⟨item, List.mem_cons_of_mem _ mem, fails,
          List.forall_mem_cons.2 ⟨fun _ => here, passed⟩⟩
      · rintro ⟨item, mem, fails, passed⟩
        rcases List.mem_cons.1 mem with rfl | later
        · cases here.symm.trans fails
        · exact ⟨item, later, fails, fun other inRest =>
            passed other (List.mem_cons_of_mem _ inRest)⟩

theorem offence_ofStep_eq_some_iff {step : Except Diagnostic Unit} {diagnostic : Diagnostic} :
    (Report.ofStep step : Report tree).offence = some diagnostic ↔ step = .error diagnostic := by
  cases step <;> simp [Report.ofStep, Report.clear]

theorem offence_ofStep_eq_none_iff {step : Except Diagnostic Unit} :
    (Report.ofStep step : Report tree).offence = none ↔ step = .ok () := by
  cases step <;> simp [Report.ofStep, Report.clear]

/-- What a check has to say about a leaf alone. -/
def leafOffence (grammar : Grammar D) (leaf : tree.LeafAt) : Option Diagnostic :=
  (Report.ofStep (checkLeaf grammar leaf) : Report tree).offence

section

variable {grammar : Grammar D} {device : D}

/-- About the pairing of a leaf, a check says what it says about the leaf alone. -/
theorem offence_ask_of_leaf? {obligation : Obligation tree} {leaf : tree.LeafAt}
    (about : obligation.leaf? = some leaf) :
    (ask grammar device obligation).offence = leafOffence grammar leaf := by
  cases obligation with
  | pairing owner key arg =>
    cases arg with
    | leaf found =>
      obtain rfl : found = leaf := Option.some.inj about
      rfl
    | node child => cases about
    | malformed raw => cases about
  | body node => cases about
  | keys node => cases about
  | argRule owner key arg => cases about
  | nodeRule node => cases about

/-- A tree meets all obligations but those of the types of leaves. -/
def MeetsAllButLeaves (grammar : Grammar D) (device : D) (tree : Tree) : Prop :=
  ∀ obligation ∈ obligations tree.root, obligation.leaf? = none → Meets grammar device obligation

/-- If nothing but leaves can fail, a check of a tree looks for the first leaf that fails. -/
theorem offence_check_eq_findSome? {outline : Outline}
    (others : MeetsAllButLeaves grammar device (ofOutline outline)) :
    (check grammar device (ofOutline outline)).offence =
      (ofOutline outline).allLeaves.findSome? (leafOffence grammar) := by
  rw [check, checkNode_eq_askAll, askAll, offence_sequence, List.findSome?_map,
    ← leavesBelow_root_eq_allLeaves, ← filterMap_leaf?_obligations]
  apply findSome?_filterMap_eq
  · intro obligation _ leaf about
    exact offence_ask_of_leaf? about
  · intro obligation mem other
    exact offence_ask_of_meets (others obligation mem other)

/-- A leaf that fails alone makes the check of its tree fail, with whatever offence comes first. -/
theorem offence_check_ne_none_of_leaf {outline : Outline} {leaf : (ofOutline outline).LeafAt}
    {diagnostic : Diagnostic} (fails : checkLeaf grammar leaf = .error diagnostic) :
    (check grammar device (ofOutline outline)).offence ≠ none := by
  have listed := mem_leavesBelow_root leaf
  rw [← filterMap_leaf?_obligations] at listed
  obtain ⟨obligation, mem, about⟩ := List.mem_filterMap.1 listed
  intro passes
  rw [check, offence_checkNode_eq_none_iff] at passes
  have silent := passes obligation mem
  rw [offence_ask_of_leaf? about, leafOffence, fails] at silent
  cases silent

end

/-- Where everything but the types of leaves is as it should be, a check passes exactly if each leaf
passes alone, and otherwise it answers what the failing leaf of the smallest number answers alone.
And in no tree, whatever else is wrong with it, does the check pass if a leaf fails alone. -/
theorem check_agrees_with_leaves (grammar : Grammar D) (device : D) (outline : Outline) :
    (MeetsAllButLeaves grammar device (ofOutline outline) →
      ((check grammar device (ofOutline outline)).offence = none ↔
        ∀ leaf ∈ (ofOutline outline).allLeaves, checkLeaf grammar leaf = .ok ()) ∧
      ∀ diagnostic, (check grammar device (ofOutline outline)).offence = some diagnostic ↔
        ∃ leaf ∈ (ofOutline outline).allLeaves, checkLeaf grammar leaf = .error diagnostic ∧
          ∀ other ∈ (ofOutline outline).allLeaves, other.id < leaf.id →
            checkLeaf grammar other = .ok ()) ∧
    ∀ leaf ∈ (ofOutline outline).allLeaves, ∀ diagnostic,
      checkLeaf grammar leaf = .error diagnostic →
        (check grammar device (ofOutline outline)).offence ≠ none := by
  refine ⟨?_, fun leaf _ diagnostic fails => offence_check_ne_none_of_leaf fails⟩
  intro others
  have sorted : (ofOutline outline).allLeaves.Pairwise fun leaf other => leaf.id < other.id := by
    apply List.pairwise_map.1
    rw [map_id_allLeaves]
    exact List.pairwise_lt_range
  constructor
  · rw [offence_check_eq_findSome? others, List.findSome?_eq_none_iff]
    simp only [leafOffence, offence_ofStep_eq_none_iff]
  · intro diagnostic
    rw [offence_check_eq_findSome? others, findSome?_eq_some_iff_smallest sorted]
    simp only [leafOffence, offence_ofStep_eq_none_iff, offence_ofStep_eq_some_iff]

/-! ## Leaves of wrong types at several depths -/

/-- A sequence begins with a pause and has a version, and pauses follow; pauses have a length. -/
def versionedGrammar : Grammar Unit :=
  (((((Grammar.empty.defineArg "first" [.wait] []).defineArg "milliseconds" [] [.integer]).defineArg
    "version" [] [.integer]).defineNode .wait ["milliseconds"] []).defineNode .sequence
      ["first", "version"] [.wait])

/-- The length of the first pause is a text and the version is null; only the length of the second
pause is a number. -/
def mistypedOutline : Outline where
  kind := .sequence
  args :=
    [("first", .node ⟨.wait, [("milliseconds", .leaf (.string "long"))], [], none⟩),
      ("version", .leaf .null)]
  body := [⟨.wait, [("milliseconds", .leaf (.integer 5))], [], none⟩]
  comment := none

/-- The nodes of its tree: the sequence and the pauses. -/
def mistypedNode : Fin 3 → (ofOutline mistypedOutline).NodeAt
  | ⟨id, isLt⟩ => ⟨id, isLt⟩

/-- Its leaves: the length of the first pause, the version and the length of the second pause. -/
def mistypedLeaf : Fin 3 → (ofOutline mistypedOutline).LeafAt
  | ⟨id, isLt⟩ => ⟨id, isLt⟩

theorem obligations_mistypedOutline :
    obligations (ofOutline mistypedOutline).root =
      [.body (mistypedNode 0), .keys (mistypedNode 0),
        .pairing (mistypedNode 0) "first" (.node (mistypedNode 1)),
        .argRule (mistypedNode 0) "first" (.node (mistypedNode 1)),
        .body (mistypedNode 1), .keys (mistypedNode 1),
        .pairing (mistypedNode 1) "milliseconds" (.leaf (mistypedLeaf 0)),
        .argRule (mistypedNode 1) "milliseconds" (.leaf (mistypedLeaf 0)),
        .nodeRule (mistypedNode 1),
        .pairing (mistypedNode 0) "version" (.leaf (mistypedLeaf 1)),
        .argRule (mistypedNode 0) "version" (.leaf (mistypedLeaf 1)),
        .nodeRule (mistypedNode 0),
        .body (mistypedNode 2), .keys (mistypedNode 2),
        .pairing (mistypedNode 2) "milliseconds" (.leaf (mistypedLeaf 2)),
        .argRule (mistypedNode 2) "milliseconds" (.leaf (mistypedLeaf 2)),
        .nodeRule (mistypedNode 2)] := by
  have first : obligations (mistypedNode 1) =
      [.body (mistypedNode 1), .keys (mistypedNode 1),
        .pairing (mistypedNode 1) "milliseconds" (.leaf (mistypedLeaf 0)),
        .argRule (mistypedNode 1) "milliseconds" (.leaf (mistypedLeaf 0)),
        .nodeRule (mistypedNode 1)] :=
    obligations_eq (mistypedNode 1)
  have second : obligations (mistypedNode 2) =
      [.body (mistypedNode 2), .keys (mistypedNode 2),
        .pairing (mistypedNode 2) "milliseconds" (.leaf (mistypedLeaf 2)),
        .argRule (mistypedNode 2) "milliseconds" (.leaf (mistypedLeaf 2)),
        .nodeRule (mistypedNode 2)] :=
    obligations_eq (mistypedNode 2)
  have sequence : obligations (mistypedNode 0) =
      .body (mistypedNode 0) :: .keys (mistypedNode 0) ::
        ((.pairing (mistypedNode 0) "first" (.node (mistypedNode 1)) ::
          .argRule (mistypedNode 0) "first" (.node (mistypedNode 1)) ::
          obligations (mistypedNode 1)) ++
        [.pairing (mistypedNode 0) "version" (.leaf (mistypedLeaf 1)),
          .argRule (mistypedNode 0) "version" (.leaf (mistypedLeaf 1))]) ++
        .nodeRule (mistypedNode 0) :: (obligations (mistypedNode 2) ++ []) :=
    obligations_eq (mistypedNode 0)
  change obligations (mistypedNode 0) = _
  rw [sequence, first, second]
  rfl

/-- Nothing is wrong with it but the types of its leaves. -/
theorem meetsAllButLeaves_mistypedOutline :
    MeetsAllButLeaves versionedGrammar () (ofOutline mistypedOutline) := by
  rw [MeetsAllButLeaves, obligations_mistypedOutline]
  simp only [List.forall_mem_cons, ← offence_ask_eq_none_iff]
  refine ⟨fun _ => rfl, fun _ => rfl, fun _ => rfl, fun _ => rfl, ?_⟩
  -- In each pause the pairing of the length is left out, and so is that of the version.
  refine ⟨fun _ => rfl, fun _ => rfl, nofun, fun _ => rfl, fun _ => rfl, ?_⟩
  refine ⟨nofun, fun _ => rfl, fun _ => rfl, ?_⟩
  exact ⟨fun _ => rfl, fun _ => rfl, nofun, fun _ => rfl, fun _ => rfl, nofun⟩

/-- Two leaves fail alone, and the check answers as the one below the sequence does, which comes
first. -/
theorem check_agrees_with_leaves_mistypedOutline :
    MeetsAllButLeaves versionedGrammar () (ofOutline mistypedOutline) ∧
      checkLeaf versionedGrammar (mistypedLeaf 0) =
        .error ((Diagnostic.badLeaf "milliseconds" .wait "[Integer]" "String").located 1) ∧
      checkLeaf versionedGrammar (mistypedLeaf 1) =
        .error ((Diagnostic.badLeaf "version" .sequence "[Integer]" "Null").located 0) ∧
      checkLeaf versionedGrammar (mistypedLeaf 2) = .ok () ∧
      (check versionedGrammar () (ofOutline mistypedOutline)).offence =
        some ((Diagnostic.badLeaf "milliseconds" .wait "[Integer]" "String").located 1) ∧
      (check versionedGrammar () (ofOutline mistypedOutline)).offence ≠ none := by
  have others := meetsAllButLeaves_mistypedOutline
  have first : checkLeaf versionedGrammar (mistypedLeaf 0) =
      .error ((Diagnostic.badLeaf "milliseconds" .wait "[Integer]" "String").located 1) := rfl
  have second : checkLeaf versionedGrammar (mistypedLeaf 1) =
      .error ((Diagnostic.badLeaf "version" .sequence "[Integer]" "Null").located 0) := rfl
  have listed : ∀ id, mistypedLeaf id ∈ (ofOutline mistypedOutline).allLeaves := by decide
  have agrees := check_agrees_with_leaves versionedGrammar () mistypedOutline
  refine ⟨others, first, second, rfl, ?_, agrees.2 _ (listed 1) _ second⟩
  apply ((agrees.1 others).2 _).2
  exact ⟨mistypedLeaf 0, listed 0, first, fun other _ less => absurd less (Nat.not_lt_zero _)⟩

end SequenceCheck.Check
