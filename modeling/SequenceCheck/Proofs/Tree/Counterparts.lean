import Mathlib.Data.List.Pairwise
import SequenceCheck.Proofs.Outline.Rearranged
import SequenceCheck.Proofs.Tree.Alike
import SequenceCheck.Proofs.Tree.Numbering

/-!
# Counterparts in two trees

Two nodes of two trees are counterparts (`Counterparts`) if the same way leads to them from the
roots: under the same keys, and to the same places in bodies. Their numbers may differ.

Main statements: if two outlines differ in the order of arguments only, and no key comes twice, then
counterparts in their trees look alike (`alike_counterparts`), and every node has exactly one
counterpart (`existsUnique_counterpart`).
-/

set_option autoImplicit false

namespace SequenceCheck.Tree

/-- A step down from a node: to what is under a key, or to a place in the body. -/
inductive Step where
  | arg (key : String)
  | child (place : Nat)

/-- The node that a step down leads to. -/
def NodeAt.down? {tree : Tree} (node : tree.NodeAt) : Step → Option tree.NodeAt
  | .arg key => node.nodeArg? key
  | .child place => node.body[place]?

/-- The same way leads to two nodes from the roots of their trees. -/
inductive Counterparts {one other : Tree} : one.NodeAt → other.NodeAt → Prop where
  | root : Counterparts one.root other.root
  | down {x below : one.NodeAt} {y counterpart : other.NodeAt} (step : Step) :
      Counterparts x y → x.down? step = some below → y.down? step = some counterpart →
      Counterparts below counterpart

/-- Two leaves have the same key and the same value. -/
def SameLeaf {one other : Tree} (l : one.LeafAt) (m : other.LeafAt) : Prop :=
  l.key = m.key ∧ l.value = m.value

theorem Counterparts.symm {one other : Tree} {x : one.NodeAt} {y : other.NodeAt}
    (counterparts : Counterparts x y) : Counterparts y x := by
  induction counterparts with
  | root => exact .root
  | down step _ found foundOther ih => exact .down step ih foundOther found

/-- Counterparts are counterparts in either direction. -/
theorem flip_counterparts {one other : Tree} :
    flip (@Counterparts one other) = Counterparts := by
  funext y x
  exact propext ⟨Counterparts.symm, Counterparts.symm⟩

theorem flip_sameLeaf {one other : Tree} : flip (@SameLeaf one other) = SameLeaf := by
  funext m l
  exact propext ⟨fun same => ⟨same.1.symm, same.2.symm⟩, fun same => ⟨same.1.symm, same.2.symm⟩⟩

/-! ## One way to each node -/

section OneWay

theorem NodeAt.nodeArg?_eq_some_iff {tree : Tree} {node below : tree.NodeAt} {key : String} :
    node.nodeArg? key = some below ↔ node.arg? key = some (.node below) := by
  rw [nodeArg?, Option.bind_eq_some_iff]
  constructor
  · rintro ⟨arg, found, same⟩
    cases arg with
    | node child =>
      obtain rfl : child = below := Option.some.inj same
      exact found
    | leaf held => cases same
    | malformed raw => cases same
  · intro found
    exact ⟨_, found, rfl⟩

variable {outline : Outline} {node below : (ofOutline outline).NodeAt}

/-- A step down leads to a node whose parent is where it starts. -/
theorem parent_of_down? {step : Step} (found : node.down? step = some below) :
    below.parent = some node := by
  cases step with
  | arg key =>
    exact parent_of_mem_children
      (NodeAt.mem_children_of_arg? (NodeAt.nodeArg?_eq_some_iff.1 found))
  | child place =>
    exact parent_of_mem_children (NodeAt.mem_children_iff.2 (.inr (List.mem_of_getElem? found)))

/-- A node stands under one key of another. -/
theorem key_eq_of_arg? {key second : String} (found : node.arg? key = some (.node below))
    (again : node.arg? second = some (.node below)) : key = second := by
  have inArgs := (List.nodup_append.1 (nodup_children node)).1
  rw [List.Nodup, List.pairwise_filterMap] at inArgs
  by_contra differ
  have apart :
      ((key, .node below) : String × (ofOutline outline).ArgAt) ≠ (second, .node below) := by
    intro same
    exact differ (congrArg Prod.fst same)
  have symmetric : Std.Symm fun a b : String × (ofOutline outline).ArgAt =>
      ∀ c, a.2.node? = some c → ∀ d, b.2.node? = some d → c ≠ d :=
    ⟨fun a b distinct c inB d inA same => distinct d inA c inB same.symm⟩
  exact inArgs.forall (NodeAt.mem_args_of_arg? found) (NodeAt.mem_args_of_arg? again) apart
    below rfl below rfl rfl

/-- A node under a key of another does not stand in its body. -/
theorem not_mem_body_of_arg? {key : String} (found : node.arg? key = some (.node below)) :
    below ∉ node.body :=
  not_mem_body_of_mem_args (NodeAt.mem_args_of_arg? found)

/-- A node stands in one place of a body. -/
theorem place_eq_of_body {place second : Nat} (found : node.body[place]? = some below)
    (again : node.body[second]? = some below) : place = second := by
  have inBody : node.body.Nodup := (List.nodup_append.1 (nodup_children node)).2.1
  obtain ⟨inRange, _⟩ := List.getElem?_eq_some_iff.1 found
  exact (List.getElem?_inj inRange inBody).1 (found.trans again.symm)

/-- One step leads from a node to one below it. -/
theorem step_eq_of_down? {step second : Step} (found : node.down? step = some below)
    (again : node.down? second = some below) : step = second := by
  cases step with
  | arg key =>
    have held := NodeAt.nodeArg?_eq_some_iff.1 found
    cases second with
    | arg other =>
      rw [key_eq_of_arg? held (NodeAt.nodeArg?_eq_some_iff.1 again)]
    | child place =>
      exact absurd (List.mem_of_getElem? again) (not_mem_body_of_arg? held)
  | child place =>
    cases second with
    | arg other =>
      have held := NodeAt.nodeArg?_eq_some_iff.1 again
      exact absurd (List.mem_of_getElem? found) (not_mem_body_of_arg? held)
    | child other => rw [place_eq_of_body found again]

end OneWay

/-! ## The counterparts in a rearranged outline -/

section Rearranged

variable {a b : Outline} {x : (ofOutline a).NodeAt} {y z : (ofOutline b).NodeAt}

/-- The root is a counterpart of the root alone. -/
theorem Counterparts.eq_root (counterparts : Counterparts x y) (top : x.parent = none) :
    y = (ofOutline b).root := by
  cases counterparts with
  | root => rfl
  | down _ _ found _ => cases top.symm.trans (parent_of_down? found)

/-- A node has one counterpart at most. -/
theorem Counterparts.unique (first : Counterparts x y) (second : Counterparts x z) : y = z := by
  -- By induction on the way to the first counterpart. Where it ends in a step from a parent, the
  -- way to the second ends in the same step, since one step leads from the parent to the node.
  induction first generalizing z with
  | root => exact (second.eq_root (parent_root a)).symm
  | @down x below y counterpart step _ found foundOther ih =>
    have parent := parent_of_down? found
    cases second with
    | root => cases (parent_root a).symm.trans parent
    | down _ above again againOther =>
      obtain rfl := Option.some.inj (parent.symm.trans (parent_of_down? again))
      obtain rfl := ih above
      obtain rfl := step_eq_of_down? found again
      exact Option.some.inj (foundOther.symm.trans againOther)

/-- At nodes with rearranged outlines, a key leads to arguments with rearranged outlines. -/
theorem rel_arg?_of_rearranged (distinct : a.KeysDistinct)
    (rearranged : x.outline.Rearranged y.outline) (key : String) :
    Option.Rel (fun first second =>
        Arg.Rel Outline.Rearranged Eq (outlineArg first) (outlineArg second))
      (x.arg? key) (y.arg? key) := by
  have nodup := NodeAt.nodup_argKeys distinct x
  rw [← x.keys_outline] at nodup
  have args := rearranged.lookup nodup key
  rw [x.lookup_outline, y.lookup_outline] at args
  exact rel_of_rel_map args

/-- At nodes with rearranged outlines stand bodies with rearranged outlines. -/
theorem forall₂_body_of_rearranged (rearranged : x.outline.Rearranged y.outline) :
    List.Forall₂ (fun child counterpart => child.outline.Rearranged counterpart.outline)
      x.body y.body := by
  have body := rearranged.body
  rw [NodeAt.outline_eq x, NodeAt.outline_eq y, List.forall₂_map_left_iff,
    List.forall₂_map_right_iff] at body
  exact body

/-- At counterparts stand outlines that differ in the order of arguments only. -/
theorem Counterparts.rearranged (counterparts : Counterparts x y) (rearranged : a.Rearranged b)
    (distinct : a.KeysDistinct) : x.outline.Rearranged y.outline := by
  induction counterparts with
  | root =>
    have first : (ofOutline a).root.outline = a := outline_ofOutline a
    have second : (ofOutline b).root.outline = b := outline_ofOutline b
    rw [first, second]
    exact rearranged
  | down step _ found foundOther ih =>
    cases step with
    | arg key =>
      have args := rel_arg?_of_rearranged distinct ih key
      rw [NodeAt.nodeArg?_eq_some_iff.1 found, NodeAt.nodeArg?_eq_some_iff.1 foundOther] at args
      cases args with
      | some same =>
        cases same with
        | node inner => exact inner
    | child place =>
      obtain ⟨inRange, rfl⟩ := List.getElem?_eq_some_iff.1 found
      obtain ⟨inRangeOther, rfl⟩ := List.getElem?_eq_some_iff.1 foundOther
      exact (forall₂_body_of_rearranged ih).get inRange inRangeOther

/-- What stands under a key of counterparts is counterparts too, or leaves of the same value. -/
theorem Counterparts.rel_of_arg? {key : String} {first : (ofOutline a).ArgAt}
    {second : (ofOutline b).ArgAt} (counterparts : Counterparts x y)
    (found : x.arg? key = some first) (foundOther : y.arg? key = some second)
    (rearranged : Arg.Rel Outline.Rearranged Eq (outlineArg first) (outlineArg second)) :
    Arg.Rel Counterparts SameLeaf first second := by
  cases first with
  | node below =>
    cases second with
    | node counterpart =>
      exact .node (.down (.arg key) counterparts (NodeAt.nodeArg?_eq_some_iff.2 found)
        (NodeAt.nodeArg?_eq_some_iff.2 foundOther))
    | leaf _ => cases rearranged
    | malformed _ => cases rearranged
  | leaf held =>
    cases second with
    | node _ => cases rearranged
    | leaf counterpart =>
      cases rearranged with
      | leaf same =>
        have key := (stored_of_mem_args (NodeAt.mem_args_of_arg? found)).1
        have keyOther := (stored_of_mem_args (NodeAt.mem_args_of_arg? foundOther)).1
        exact .leaf ⟨key.trans keyOther.symm, same⟩
    | malformed _ => cases rearranged
  | malformed raw =>
    cases second with
    | node _ => cases rearranged
    | leaf _ => cases rearranged
    | malformed _ =>
      cases rearranged
      exact .malformed

/-- Counterparts in the trees of rearranged outlines look alike. -/
theorem alike_counterparts (rearranged : a.Rearranged b) (distinct : a.KeysDistinct) :
    Alike (@Counterparts (ofOutline a) (ofOutline b)) SameLeaf where
  kind {x y} counterparts := by
    have same := (counterparts.rearranged rearranged distinct).kind
    rw [NodeAt.outline_eq x, NodeAt.outline_eq y] at same
    exact same
  arg? {x y} counterparts key := by
    have outlines := counterparts.rearranged rearranged distinct
    apply rel_of_rel (rel_arg?_of_rearranged distinct outlines key)
    intro first found second foundOther
    exact counterparts.rel_of_arg? found foundOther
  body {x y} counterparts := by
    have outlines := counterparts.rearranged rearranged distinct
    apply List.forall₂_iff_get.2
    refine ⟨(forall₂_body_of_rearranged outlines).length_eq, ?_⟩
    intro place inRange inRangeOther
    exact .down (.child place) counterparts (List.getElem?_eq_getElem inRange)
      (List.getElem?_eq_getElem inRangeOther)
  parent {x y} counterparts := by
    cases counterparts with
    | root =>
      rw [parent_root, parent_root]
      exact .none
    | down _ above found foundOther =>
      rw [parent_of_down? found, parent_of_down? foundOther]
      exact .some above

/-- If counterparts look alike, and no key comes twice, every node has exactly one counterpart. -/
theorem existsUnique_counterpart
    (alike : Alike (@Counterparts (ofOutline a) (ofOutline b)) SameLeaf)
    (distinct : a.KeysDistinct) (x : (ofOutline a).NodeAt) :
    ∃! y : (ofOutline b).NodeAt, Counterparts x y := by
  obtain ⟨y, counterparts⟩ := alike.exists_related .root (NodeAt.nodup_argKeys distinct) x
  exact ⟨y, counterparts, fun z other => other.unique counterparts⟩

end Rearranged

end SequenceCheck.Tree
