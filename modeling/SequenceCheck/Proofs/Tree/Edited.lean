import SequenceCheck.Proofs.Outline.Edited
import SequenceCheck.Proofs.Outline.Rearranged
import SequenceCheck.Proofs.Tree.Ancestry

/-!
# Trees of outlines edited in one place

`AcrossAt edit first x y` compares a node of the tree of an outline with a node of the tree of the
edited outline: what stands at the one before the edit stands at the other after it.

Main statements: nodes that compare so are of one kind and have bodies that compare so
(`AcrossAt.kind`, `AcrossAt.body`), their arguments are found as before unless they are taken out
(`AcrossAt.exists_arg?`), and up to the edit every node of the edited tree compares with the node of
the same number, and the way up from the one with the way up from the other (`exists_across`).
-/

set_option autoImplicit false

namespace SequenceCheck.Tree

open Outline

/-! ## Nodes as outlines with numbers -/

section Situated

variable {tree : Tree}

/-- The outline of a node, with the number of the node. -/
def NodeAt.situated (node : tree.NodeAt) : Outline × Nat :=
  (node.outline, node.id)

/-- An argument with the outline and the number of its node, or with the value of its leaf. -/
def situatedArg : tree.ArgAt → Arg (Outline × Nat) Value
  | .node child => .node child.situated
  | .leaf leaf => .leaf leaf.value
  | .malformed raw => .malformed raw

/-- Arguments with the numbers of a layout are those of the outline with its numbers. -/
theorem map_situatedArg_eq :
    ∀ {shown : List (String × tree.ArgAt)} {id leaf : Nat},
      shown.map (fun entry => (entry.1, numberArg entry.2)) =
        numberedArgs id leaf (shown.map fun entry => (entry.1, outlineArg entry.2)) →
      shown.map (fun entry => (entry.1, situatedArg entry.2)) =
        situatedArgs id (shown.map fun entry => (entry.1, outlineArg entry.2))
  | [], _, _, _ => rfl
  | (key, .node child) :: rest, id, leaf, same => by
    obtain ⟨here, later⟩ := List.cons.inj same
    obtain rfl : child.id = id := Arg.node.inj (Prod.mk.inj here).2
    exact congrArg ((key, Arg.node child.situated) :: ·) (map_situatedArg_eq later)
  | (key, .leaf found) :: rest, id, leaf, same => by
    exact congrArg ((key, Arg.leaf found.value) :: ·) (map_situatedArg_eq (List.cons.inj same).2)
  | (key, .malformed raw) :: rest, id, leaf, same => by
    exact congrArg ((key, Arg.malformed raw) :: ·) (map_situatedArg_eq (List.cons.inj same).2)

/-- Children with the numbers of a layout are those of the outline with its numbers. -/
theorem map_situated_eq :
    ∀ {shown : List tree.NodeAt} {id : Nat},
      shown.map NodeAt.id = numberedBody id (shown.map NodeAt.outline) →
      shown.map NodeAt.situated = situatedBody id (shown.map NodeAt.outline)
  | [], _, _ => rfl
  | child :: rest, id, same => by
    obtain ⟨number, later⟩ := List.cons.inj same
    obtain rfl : child.id = id := number
    exact congrArg (child.situated :: ·) (map_situated_eq later)

variable {outline : Outline}

/-- The arguments of a node are those of its outline, with the numbers that these have there. -/
theorem NodeAt.map_situatedArg_args (node : (ofOutline outline).NodeAt) :
    node.args.map (fun entry => (entry.1, situatedArg entry.2)) = argsFrom node.situated := by
  obtain ⟨parent, part, holds⟩ := exists_holds node
  obtain ⟨leaf, _, _, stored⟩ := holds.stored
  obtain rfl := holds.outline_eq
  have args : node.outline.args = node.args.map fun entry => (entry.1, outlineArg entry.2) := by
    rw [NodeAt.outline_eq]
  rw [argsFrom, situated, args]
  apply map_situatedArg_eq
  rw [node.map_numberArg_args, stored, args]

/-- The body of a node is that of its outline, with the numbers that the children have there. -/
theorem NodeAt.map_situated_body (node : (ofOutline outline).NodeAt) :
    node.body.map NodeAt.situated = bodyFrom node.situated := by
  obtain ⟨parent, part, holds⟩ := exists_holds node
  obtain ⟨leaf, _, _, stored⟩ := holds.stored
  obtain rfl := holds.outline_eq
  have body : node.outline.body = node.body.map NodeAt.outline := by
    rw [NodeAt.outline_eq]
  rw [bodyFrom, situated, body]
  apply map_situated_eq
  rw [node.map_id_body, stored, body]

end Situated

/-! ## Nodes before and after an edit -/

/-- What stands at a node of one tree stands at a node of another after an edit. -/
def AcrossAt (edit : Outline → Outline) (first : Nat) {one other : Tree} (x : one.NodeAt)
    (y : other.NodeAt) : Prop :=
  Across edit first x.situated y.situated

/-- Two leaves have the same value. -/
def SameValue {one other : Tree} (l : one.LeafAt) (m : other.LeafAt) : Prop :=
  l.value = m.value

/-- Arguments that compare as outlines with numbers compare as positions. -/
theorem rel_of_rel_situatedArg {edit : Outline → Outline} {first : Nat} {one other : Tree}
    {a : one.ArgAt} {b : other.ArgAt}
    (related : Arg.Rel (Across edit first) Eq (situatedArg a) (situatedArg b)) :
    Arg.Rel (AcrossAt edit first) SameValue a b := by
  cases a with
  | node child =>
    cases b with
    | node counterpart =>
      cases related with
      | node same => exact .node same
    | leaf _ => cases related
    | malformed _ => cases related
  | leaf held =>
    cases b with
    | node _ => cases related
    | leaf counterpart =>
      cases related with
      | leaf same => exact .leaf same
    | malformed _ => cases related
  | malformed raw =>
    cases b with
    | node _ => cases related
    | leaf _ => cases related
    | malformed _ =>
      cases related
      exact .malformed

section Edited

variable {edit : Outline → Outline} {first : Nat} {a b : Outline} {x : (ofOutline a).NodeAt}
  {y : (ofOutline b).NodeAt}

namespace AcrossAt

theorem kind (across : AcrossAt edit first x y) (edits : ArgsOnly edit) : x.kind = y.kind := by
  have same := Across.kind across edits
  simp only [NodeAt.situated] at same
  rw [x.outline_eq, y.outline_eq] at same
  exact same

/-- The bodies compare child by child. -/
theorem body (across : AcrossAt edit first x y) (edits : ArgsOnly edit) :
    List.Forall₂ (AcrossAt edit first) x.body y.body := by
  have bodies := Across.body across edits
  rw [← x.map_situated_body, ← y.map_situated_body, List.forall₂_map_left_iff,
    List.forall₂_map_right_iff] at bodies
  exact bodies

/-- The arguments compare key by key, unless they are edited. -/
theorem args (across : AcrossAt edit first x y) (elsewhere : x.id ≠ first) :
    List.Forall₂ (Keyed.Rel (Arg.Rel (AcrossAt edit first) SameValue)) x.args y.args := by
  have args := Across.args across elsewhere
  rw [AcrossArgs, ← x.map_situatedArg_args, ← y.map_situatedArg_args, Keyed.forall₂_map_iff] at args
  refine args.imp ?_
  rintro _ _ ⟨related⟩
  exact .entry (rel_of_rel_situatedArg related)

/-- Up to an edit, nodes have the numbers that they had. -/
theorem id_eq (across : AcrossAt edit first x y) (early : y.id ≤ first) : x.id = y.id :=
  Across.number_eq across early

/-- Below the node that is edited, the same outlines stand as before. -/
theorem of_outlineArg_eq {key : String} {child : (ofOutline a).ArgAt}
    {counterpart : (ofOutline b).ArgAt} (before : first ≤ x.id) (after : first ≤ y.id)
    (held : (key, child) ∈ x.args) (heldOther : (key, counterpart) ∈ y.args)
    (same : outlineArg child = outlineArg counterpart) :
    Arg.Rel (AcrossAt edit first) SameValue child counterpart := by
  cases child with
  | node inner =>
    cases counterpart with
    | node other =>
      have later := NodeAt.id_lt_of_mem_args held
      have laterOther := NodeAt.id_lt_of_mem_args heldOther
      have outlines : inner.outline = other.outline := Arg.node.inj same
      refine .node ?_
      rw [AcrossAt, NodeAt.situated, NodeAt.situated, outlines]
      exact .aside (.inr ⟨by omega, by omega⟩)
    | leaf _ => cases same
    | malformed _ => cases same
  | leaf inner =>
    cases counterpart with
    | node _ => cases same
    | leaf other => exact .leaf (Arg.leaf.inj same)
    | malformed _ => cases same
  | malformed raw =>
    cases counterpart with
    | node _ => cases same
    | leaf _ => cases same
    | malformed _ =>
      cases same
      exact .malformed

/-- What is found under a key is found there after the edit, unless the key is lost. -/
theorem exists_arg? {lost : String → Prop} (across : AcrossAt edit first x y)
    (keeps : x.id = first → KeepsArgs lost x.outline (edit x.outline)) {key : String}
    {arg : (ofOutline a).ArgAt} (found : x.arg? key = some arg) :
    (x.id = first ∧ lost key) ∨
      ∃ counterpart, y.arg? key = some counterpart ∧
        Arg.Rel (AcrossAt edit first) SameValue arg counterpart := by
  by_cases here : x.id = first
  · -- The arguments of the node are edited, and what they are found to be shows in the outlines.
    have outline : x.outline.args.lookup key = some (outlineArg arg) := by
      rw [x.lookup_outline, found]
      rfl
    obtain ⟨edited, number⟩ : y.outline = edit x.outline ∧ y.id = first :=
      Prod.mk.inj (Across.eq_edit across here)
    rcases keeps here key _ outline with lost | kept
    · exact .inl ⟨here, lost⟩
    · right
      rw [← edited, y.lookup_outline] at kept
      obtain ⟨counterpart, foundOther, same⟩ := Option.map_eq_some_iff.1 kept
      exact ⟨counterpart, foundOther,
        of_outlineArg_eq (Nat.le_of_eq here.symm) (Nat.le_of_eq number.symm)
          (NodeAt.mem_args_of_arg? found) (NodeAt.mem_args_of_arg? foundOther) same.symm⟩
  · right
    have args := Keyed.lookup_of_forall₂ (across.args here) key
    rw [← NodeAt.arg?, ← NodeAt.arg?, found] at args
    cases foundOther : y.arg? key with
    | none =>
      rw [foundOther] at args
      cases args
    | some counterpart =>
      rw [foundOther] at args
      cases args with
      | some same => exact ⟨counterpart, rfl, same⟩

end AcrossAt

/-! ## Up to the edit -/

variable {outline : Outline}

theorem across_root (inRange : first < outline.nodeCount) :
    AcrossAt edit first (ofOutline outline).root (ofOutline (outline.editAt edit first)).root := by
  have before : (ofOutline outline).root.outline = outline := outline_ofOutline outline
  have after : (ofOutline (outline.editAt edit first)).root.outline = outline.editAt edit first :=
    outline_ofOutline _
  rw [AcrossAt, NodeAt.situated, NodeAt.situated, before, after]
  exact .within (Nat.zero_add first) inRange

/-- A node right below one that comes before an edit was right below it before the edit too. -/
theorem AcrossAt.exists_child (across : AcrossAt edit first x y) (edits : ArgsOnly edit)
    (earlier : x.id ≠ first) {child : (ofOutline b).NodeAt} (mem : child ∈ y.children) :
    ∃ original ∈ x.children, AcrossAt edit first original child := by
  rcases NodeAt.mem_children_iff.1 mem with ⟨key, inArgs⟩ | inBody
  · obtain ⟨entry, held, related⟩ := exists_of_forall₂_mem (across.args earlier).flip inArgs
    rcases entry with ⟨_, arg⟩
    cases related with
    | entry same =>
      cases same with
      | node below => exact ⟨_, NodeAt.mem_children_iff.2 (.inl ⟨key, held⟩), below⟩
  · obtain ⟨original, held, below⟩ := exists_of_forall₂_mem (across.body edits).flip inBody
    exact ⟨original, NodeAt.mem_children_iff.2 (.inr held), below⟩

/-- Up to an edit, a node of the edited tree stands where the node of its number stood, and the same
is true of the nodes on the way up from it. -/
theorem exists_across (edits : ArgsOnly edit) (inRange : first < outline.nodeCount)
    (y : (ofOutline (outline.editAt edit first)).NodeAt) (early : y.id ≤ first) :
    ∃ x : (ofOutline outline).NodeAt, x.id = y.id ∧ AcrossAt edit first x y ∧
      List.Forall₂ (AcrossAt edit first) x.upward y.upward := by
  induction y using NodeAt.induct_parent with
  | step y ih =>
    cases above : y.parent with
    | none =>
      obtain rfl := eq_root_of_parent_eq_none above
      have roots := @across_root edit first outline inRange
      refine ⟨_, rfl, roots, ?_⟩
      rw [NodeAt.upward_of_no_parent (parent_root _), NodeAt.upward_of_no_parent (parent_root _)]
      exact .cons roots .nil
    | some parent =>
      have smaller := NodeAt.parent_id_lt above
      obtain ⟨x, number, across, upward⟩ := ih parent above (by omega)
      obtain ⟨original, below, here⟩ := across.exists_child edits (by omega)
        (mem_children_of_parent above)
      refine ⟨original, here.id_eq early, here, ?_⟩
      rw [NodeAt.upward_of_parent (parent_of_mem_children below), NodeAt.upward_of_parent above]
      exact .cons here upward

/-- What stands under a key of a node before an edit stood under it before the edit too. -/
theorem exists_held_before (edits : ArgsOnly edit) (inRange : first < outline.nodeCount)
    {key : String} {y child : (ofOutline (outline.editAt edit first)).NodeAt} (early : y.id < first)
    (held : (key, Arg.node child) ∈ y.args) :
    ∃ x original : (ofOutline outline).NodeAt, (key, Arg.node original) ∈ x.args ∧
      AcrossAt edit first original child := by
  obtain ⟨x, number, across, _⟩ := exists_across edits inRange y (Nat.le_of_lt early)
  obtain ⟨_, heldBefore, ⟨same⟩⟩ := exists_of_forall₂_mem (across.args (by omega)).flip held
  cases same with
  | node below => exact ⟨x, _, heldBefore, below⟩

end Edited

end SequenceCheck.Tree
