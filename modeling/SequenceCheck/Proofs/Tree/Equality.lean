import SequenceCheck.Proofs.Outline.Equality
import SequenceCheck.Proofs.Tree.Allocation
import SequenceCheck.Proofs.Tree.Content

/-!
# Equal trees

Equality of trees compares what is stored under each number (`same_iff`), and knows nothing of how
the nodes are nested. That it nevertheless finds out every difference between two outlines rests on
the positions: nodes of one number in equal trees have equal outlines, and the root is number zero
in every tree.

Main statement: an allocated outline can be read back from its tree, and the trees of two outlines
are equal exactly if the outlines are (`allocate_faithful`).
-/

set_option autoImplicit false

namespace SequenceCheck

namespace Outline

/-- Lists of arguments are equal if their entries are, place by place. -/
theorem sameArgs_of_forall₂ {args others : List (String × Arg Outline Value)}
    (each : List.Forall₂ (Keyed.Rel fun a b => a.same Outline.same Value.same b = true)
      args others) : sameArgs args others = true := by
  induction each with
  | nil => exact sameArgs_nil_iff.2 rfl
  | cons first _ ih =>
    cases first with
    | entry same => exact sameArgs_cons_iff.2 ⟨_, _, rfl, same, ih⟩

/-- Bodies are equal if their outlines are, place by place. -/
theorem sameBody_of_forall₂ {body others : List Outline}
    (each : List.Forall₂ (fun a b => a.same b = true) body others) :
    sameBody body others = true := by
  induction each with
  | nil => exact sameBody_nil_iff.2 rfl
  | cons first _ ih => exact sameBody_cons_iff.2 ⟨_, _, rfl, first, ih⟩

end Outline

namespace Tree

/-- Trees are equal if they store equal nodes and equal leaves, number by number. -/
theorem same_iff {tree other : Tree} :
    tree.same other = true ↔
      List.Forall₂ (fun a b => a.same b = true) tree.nodes.toList other.nodes.toList ∧
        List.Forall₂ (fun a b => a.same b = true) tree.leaves.toList other.leaves.toList := by
  simp only [same, Bool.and_eq_true, beq_iff_eq]
  constructor
  · rintro ⟨⟨⟨nodeCount, leafCount⟩, nodes⟩, leaves⟩
    exact ⟨all_zip_iff.1 ⟨nodeCount, nodes⟩, all_zip_iff.1 ⟨leafCount, leaves⟩⟩
  · rintro ⟨nodes, leaves⟩
    have each := all_zip_iff.2 nodes
    have eachLeaf := all_zip_iff.2 leaves
    exact ⟨⟨⟨each.1, eachLeaf.1⟩, each.2⟩, eachLeaf.2⟩

section Same

variable {tree other : Tree} {x : tree.NodeAt} {y : other.NodeAt}

/-- Equal trees store equal nodes under one number. -/
theorem stored_same (same : tree.same other = true) (number : x.id = y.id) :
    x.stored.same y.stored = true := by
  have first : tree.nodes.toList[x.id]? = some x.stored := by
    rw [Array.getElem?_toList, x.getElem?_id]
  have second : other.nodes.toList[x.id]? = some y.stored := by
    rw [Array.getElem?_toList, number, y.getElem?_id]
  have stored := rel_of_getElem? (same_iff.1 same).1 first second
  exact stored

/-- Equal trees store equal leaves under one number. -/
theorem stored_leaf_same (same : tree.same other = true) {l : tree.LeafAt} {m : other.LeafAt}
    (number : l.id = m.id) : l.stored.same m.stored = true := by
  have first : tree.leaves.toList[l.id]? = some l.stored := by
    rw [Array.getElem?_toList, l.getElem?_id]
  have second : other.leaves.toList[l.id]? = some m.stored := by
    rw [Array.getElem?_toList, number, m.getElem?_id]
  have stored := rel_of_getElem? (same_iff.1 same).2 first second
  exact stored

/-- Equal nodes have arguments of equal numbers. -/
theorem forall₂_args_of_same (stored : sameArgs x.stored.args y.stored.args = true) :
    List.Forall₂ (Keyed.Rel fun a b => (numberArg a).same (· == ·) (· == ·) (numberArg b) = true)
      x.args y.args := by
  have entries := sameArgs_iff.1 stored
  rw [← NodeAt.map_numberArg_args, ← NodeAt.map_numberArg_args] at entries
  exact Keyed.forall₂_map_iff.1 entries

/-- In equal trees, arguments of equal numbers are equal once they are read back, if this holds of
the nodes below. -/
theorem outlineArg_same (same : tree.same other = true) {a : tree.ArgAt} {b : other.ArgAt}
    (numbers : (numberArg a).same (· == ·) (· == ·) (numberArg b) = true)
    (below : ∀ child, a = .node child → ∀ counterpart : other.NodeAt,
      child.id = counterpart.id → child.outline.same counterpart.outline = true) :
    (outlineArg a).same Outline.same Value.same (outlineArg b) = true := by
  cases a with
  | node child =>
    obtain ⟨id, numbered, equal⟩ := Arg.eq_node_of_same numbers
    obtain ⟨counterpart, rfl, rfl⟩ := eq_node_of_numberArg numbered
    exact below child rfl counterpart (beq_iff_eq.1 equal)
  | leaf held =>
    obtain ⟨id, numbered, equal⟩ := Arg.eq_leaf_of_same numbers
    obtain ⟨counterpart, rfl, rfl⟩ := eq_leaf_of_numberArg numbered
    have stored := stored_leaf_same same (beq_iff_eq.1 equal)
    simp only [Leaf.same, Bool.and_eq_true] at stored
    exact stored.1.2
  | malformed raw =>
    obtain ⟨received, numbered, equal⟩ := Arg.eq_malformed_of_same numbers
    obtain rfl := eq_malformed_of_numberArg numbered
    exact equal

/-- In equal trees, nodes of one number have equal outlines. -/
theorem outline_same (same : tree.same other = true) (number : x.id = y.id) :
    x.outline.same y.outline = true := by
  induction x using NodeAt.induct_children generalizing y with
  | step x ih =>
    have stored := stored_same same number
    simp only [Node.same, Bool.and_eq_true, beq_iff_eq] at stored
    obtain ⟨⟨⟨⟨kind, args⟩, body⟩, -⟩, comment⟩ := stored
    have arguments : List.Forall₂ (Keyed.Rel fun a b =>
        (outlineArg a).same Outline.same Value.same (outlineArg b) = true) x.args y.args := by
      apply forall₂_imp_of_mem (forall₂_args_of_same args)
      rintro _ mem _ ⟨numbers⟩
      refine .entry (outlineArg_same same numbers ?_)
      rintro child rfl counterpart
      exact ih child (NodeAt.mem_children_iff.2 (.inl ⟨_, mem⟩))
    have children : List.Forall₂ (fun a b => a.outline.same b.outline = true) x.body y.body := by
      rw [← NodeAt.map_id_body, ← NodeAt.map_id_body] at body
      exact forall₂_imp_of_mem (forall₂_of_map_eq body) fun child mem counterpart =>
        ih child (NodeAt.mem_children_iff.2 (.inr mem))
    rw [x.outline_eq, y.outline_eq, Outline.same_iff]
    refine ⟨kind, ?_, ?_, comment⟩
    · exact Outline.sameArgs_of_forall₂ (Keyed.forall₂_map_iff.2 arguments)
    · apply Outline.sameBody_of_forall₂
      rw [List.forall₂_map_left_iff, List.forall₂_map_right_iff]
      exact children

end Same

/-- The trees of two outlines are equal exactly if the outlines are. -/
theorem same_ofOutline_iff {a b : Outline} :
    (ofOutline a).same (ofOutline b) = true ↔ a.same b = true := by
  constructor
  · intro same
    have roots : (ofOutline a).outline.same (ofOutline b).outline = true := outline_same same rfl
    rwa [outline_ofOutline, outline_ofOutline] at roots
  · intro same
    exact same_iff.2 ⟨a.forall₂_laidNodes none 0 0 same, a.forall₂_laidLeaves 0 same⟩

/-- Allocating an outline that handles are enough for loses nothing: the outline is read back from
its tree, and another tree is equal exactly if it is that of an equal outline. -/
theorem allocate_faithful (outline : Outline) (nodes : outline.nodeCount < UInt32.size)
    (leaves : outline.leafCount < UInt32.size) :
    Arena.allocate none outline Arena.empty =
        (0, ⟨(ofOutline outline).nodes, (ofOutline outline).leaves⟩) ∧
      (ofOutline outline).outline = outline ∧
      ∀ other : Outline, other.nodeCount < UInt32.size → other.leafCount < UInt32.size →
        Arena.allocate none other Arena.empty =
            (0, ⟨(ofOutline other).nodes, (ofOutline other).leaves⟩) ∧
          ((ofOutline outline).same (ofOutline other) = true ↔ outline.same other = true) :=
  ⟨Arena.allocate_empty outline nodes leaves, outline_ofOutline outline,
    fun other otherNodes otherLeaves =>
      ⟨Arena.allocate_empty other otherNodes otherLeaves, same_ofOutline_iff⟩⟩

/-- The fields of a malformed value. -/
def spotFields : List (String × Json) :=
  [("x", .null), ("y", .null)]

/-- An outline with a zero of either sign, and with a malformed value that has some fields. -/
def zeroOutline (negative : Bool) (fields : List (String × Json)) : Outline where
  kind := .wait
  args :=
    [("milliseconds", .leaf (.float (.finite (.zero negative)))),
      ("location", .malformed (.object fields))]
  body := [.ofKind .nothing]
  comment := some "zero"

/-- The sign of a zero and the order of fields make no difference; a missing field does. -/
theorem allocate_faithful_zeroOutline :
    (zeroOutline false spotFields).nodeCount < UInt32.size ∧
      (zeroOutline false spotFields).leafCount < UInt32.size ∧
      (ofOutline (zeroOutline false spotFields)).outline = zeroOutline false spotFields ∧
      (ofOutline (zeroOutline false spotFields)).same
        (ofOutline (zeroOutline true spotFields.reverse)) = true ∧
      ¬ (ofOutline (zeroOutline false spotFields)).same
        (ofOutline (zeroOutline false spotFields.tail)) = true := by
  have nodes : (zeroOutline false spotFields).nodeCount < UInt32.size := by decide
  have leaves : (zeroOutline false spotFields).leafCount < UInt32.size := by decide
  obtain ⟨_, back, equal⟩ := allocate_faithful (zeroOutline false spotFields) nodes leaves
  have turned := (equal (zeroOutline true spotFields.reverse) (by decide) (by decide)).2
  have shortened := (equal (zeroOutline false spotFields.tail) (by decide) (by decide)).2
  refine ⟨nodes, leaves, back, turned.2 (by decide), fun same => ?_⟩
  have outlines := shortened.1 same
  revert outlines
  decide

end Tree

end SequenceCheck
