import SequenceCheck.Proofs.RelatedArgs
import SequenceCheck.Proofs.Tree.Ancestry

/-!
# Trees that look alike

`Alike node leaf` says that two relations, between the nodes and between the leaves of two trees,
take nodes to nodes that look alike: related nodes are of one kind, have related arguments under
each key and related bodies, and hang below related nodes. Numbers may differ, and so may the order
of arguments.

Main statements: the relation may be read in either direction (`Alike.flip`), and where the roots
are related and no key comes twice every node is related to one (`Alike.exists_related`).
-/

set_option autoImplicit false

namespace SequenceCheck.Tree

variable {one other : Tree}

/-- Related nodes look alike, in what is written at them and in what is around them. -/
structure Alike (node : one.NodeAt → other.NodeAt → Prop)
    (leaf : one.LeafAt → other.LeafAt → Prop) : Prop where
  kind : ∀ {x y}, node x y → x.kind = y.kind
  arg? : ∀ {x y}, node x y → ∀ key, Option.Rel (Arg.Rel node leaf) (x.arg? key) (y.arg? key)
  body : ∀ {x y}, node x y → List.Forall₂ node x.body y.body
  parent : ∀ {x y}, node x y → Option.Rel node x.parent y.parent

/-- A key of a node is one under which an argument is found. -/
theorem NodeAt.mem_argKeys_iff {tree : Tree} {node : tree.NodeAt} {key : String} :
    key ∈ node.argKeys ↔ ∃ arg, node.arg? key = some arg := by
  constructor
  · intro mem
    obtain ⟨⟨_, arg⟩, held, rfl⟩ := List.mem_map.1 mem
    apply Option.isSome_iff_exists.1
    apply List.lookup_isSome_iff.2
    exact ⟨_, held, beq_self_eq_true _⟩
  · rintro ⟨arg, found⟩
    exact Keyed.mem_keys_of_lookup found

namespace Alike

variable {node : one.NodeAt → other.NodeAt → Prop} {leaf : one.LeafAt → other.LeafAt → Prop}
  {x : one.NodeAt} {y : other.NodeAt}

theorem flip (alike : Alike node leaf) : Alike (flip node) (flip leaf) where
  kind related := (alike.kind related).symm
  arg? related key :=
    rel_of_rel (flip_of_rel (alike.arg? related key)) fun _ _ _ _ => Arg.Rel.flip
  body related := (alike.body related).flip
  parent related := flip_of_rel (alike.parent related)

/-- Related nodes have the same keys. -/
theorem mem_argKeys_iff (alike : Alike node leaf) (related : node x y) {key : String} :
    key ∈ x.argKeys ↔ key ∈ y.argKeys := by
  rw [NodeAt.mem_argKeys_iff, NodeAt.mem_argKeys_iff, ← Option.isSome_iff_exists,
    ← Option.isSome_iff_exists, isSome_of_rel (alike.arg? related key)]

/-- Under a key of related nodes stand related nodes, or no nodes. -/
theorem nodeArg? (alike : Alike node leaf) (related : node x y) (key : String) :
    Option.Rel node (x.nodeArg? key) (y.nodeArg? key) :=
  bind_node?_of_rel (alike.arg? related key)

/-- Under a key of related nodes stand related leaves, or no leaves. -/
theorem leafArg? (alike : Alike node leaf) (related : node x y) (key : String) :
    Option.Rel leaf (x.leafArg? key) (y.leafArg? key) :=
  bind_leaf?_of_rel (alike.arg? related key)

/-- If no key comes twice, an argument of a node is related to one of a related node under the same
key. -/
theorem exists_mem_args (alike : Alike node leaf) (related : node x y) (distinct : y.argKeys.Nodup)
    {key : String} {b : other.ArgAt} (mem : (key, b) ∈ y.args) :
    ∃ a, (key, a) ∈ x.args ∧ Arg.Rel node leaf a b := by
  have args := alike.arg? related key
  have found : y.arg? key = some b := (Keyed.mem_iff_lookup distinct).1 mem
  rw [found] at args
  cases standing : x.arg? key with
  | none =>
    rw [standing] at args
    cases args
  | some a =>
    rw [standing] at args
    cases args with
    | some held => exact ⟨a, NodeAt.mem_args_of_arg? standing, held⟩

end Alike

/-- If the roots of two trees are related, and no node has a key twice, then every node is related
to one. -/
theorem Alike.exists_related {first second : Outline}
    {node : (ofOutline first).NodeAt → (ofOutline second).NodeAt → Prop}
    {leaf : (ofOutline first).LeafAt → (ofOutline second).LeafAt → Prop} (alike : Alike node leaf)
    (roots : node (ofOutline first).root (ofOutline second).root)
    (distinct : ∀ x : (ofOutline first).NodeAt, x.argKeys.Nodup) (x : (ofOutline first).NodeAt) :
    ∃ y, node x y := by
  -- By induction on the way down: what is right below a node is related to what is right below
  -- its counterpart.
  induction x using NodeAt.induct_parent with
  | step x ih =>
    cases above : x.parent with
    | none =>
      rw [eq_root_of_parent_eq_none above]
      exact ⟨_, roots⟩
    | some parent =>
      obtain ⟨counterpart, related⟩ := ih parent above
      rcases NodeAt.mem_children_iff.1 (mem_children_of_parent above) with ⟨key, inArgs⟩ | inBody
      · have found : parent.arg? key = some (.node x) :=
          (Keyed.mem_iff_lookup (distinct parent)).1 inArgs
        have args := alike.arg? related key
        rw [found] at args
        generalize counterpart.arg? key = held at args
        cases args with
        | some same =>
          cases same with
          | node below => exact ⟨_, below⟩
      · obtain ⟨y, _, below⟩ := exists_of_forall₂_mem (alike.body related) inBody
        exact ⟨y, below⟩

end SequenceCheck.Tree
