import SequenceCheck.Proofs.RelatedArgs
import SequenceCheck.Proofs.Tree.Parts

/-!
# Outlines with their arguments in another order

Two outlines are rearrangements of each other (`Outline.Rearranged`) if they differ in the order of
arguments only, at any depth. If no key comes twice (`Outline.KeysDistinct`), each argument is found
in both by its key.

Main statement: rearranged outlines answer a look-up by rearranged arguments (`Rearranged.lookup`).
-/

set_option autoImplicit false

namespace SequenceCheck.Outline

/-- Two outlines differ in the order of arguments only: arguments in another order, each of them
rearranged in turn, and rearranged children in the same order. -/
inductive Rearranged : Outline → Outline → Prop where
  | node {kind : Kind} {args ordered others : List (String × Arg Outline Value)}
      {body children : List Outline} {comment : Option String} :
      args.Perm ordered →
      List.Forall₂ (Keyed.Rel (Arg.Rel Rearranged Eq)) ordered others →
      List.Forall₂ Rearranged body children →
      Rearranged ⟨kind, args, body, comment⟩ ⟨kind, others, children, comment⟩

namespace Rearranged

/-- An argument differs from itself in nothing if the node that it may be does not. -/
theorem refl_entry {entry : String × Arg Outline Value}
    (below : ∀ inner, entry.2 = .node inner → inner.Rearranged inner) :
    Keyed.Rel (Arg.Rel Rearranged Eq) entry entry := by
  rcases entry with ⟨key, inner | value | raw⟩
  · exact .entry (.node (below inner rfl))
  · exact .entry (.leaf rfl)
  · exact .entry .malformed

/-- An outline differs from itself in nothing. -/
theorem refl (outline : Outline) : outline.Rearranged outline := by
  rcases outline with ⟨kind, args, body, comment⟩
  refine .node (.refl args) (List.forall₂_same.2 fun entry mem => refl_entry fun inner same => ?_)
    (List.forall₂_same.2 fun child mem => ?_)
  · exact refl inner
  · exact refl child
termination_by sizeOf outline
decreasing_by
  · have inArgs := List.sizeOf_lt_of_mem mem
    rcases entry with ⟨key, arg⟩
    subst same
    simp only [Outline.mk.sizeOf_spec, Prod.mk.sizeOf_spec, Arg.node.sizeOf_spec] at *
    omega
  · have inBody := List.sizeOf_lt_of_mem mem
    simp only [Outline.mk.sizeOf_spec]
    omega

/-- Arguments of a node in another order. -/
theorem of_perm {kind : Kind} {args ordered : List (String × Arg Outline Value)}
    {body : List Outline} {comment : Option String} (perm : args.Perm ordered) :
    Rearranged ⟨kind, args, body, comment⟩ ⟨kind, ordered, body, comment⟩ :=
  .node perm (List.forall₂_same.2 fun _ _ => refl_entry fun inner _ => refl inner)
    (List.forall₂_same.2 fun child _ => refl child)

variable {a b : Outline}

theorem kind (rearranged : a.Rearranged b) : a.kind = b.kind := by
  cases rearranged
  rfl

theorem body (rearranged : a.Rearranged b) : List.Forall₂ Rearranged a.body b.body := by
  cases rearranged with
  | node _ _ children => exact children

/-- Under a key stand rearranged arguments, or none. -/
theorem lookup (rearranged : a.Rearranged b) (nodup : (Keyed.keys a.args).Nodup) (key : String) :
    Option.Rel (Arg.Rel Rearranged Eq) (a.args.lookup key) (b.args.lookup key) := by
  cases rearranged with
  | node perm related _ =>
    rw [Keyed.lookup_of_perm perm nodup]
    exact Keyed.lookup_of_forall₂ related key

end Rearranged

namespace KeysDistinct

variable {outline : Outline}

theorem nodup (distinct : outline.KeysDistinct) : (Keyed.keys outline.args).Nodup := by
  cases distinct with
  | node nodup _ _ => exact nodup

/-- No part of an outline has a key twice. -/
theorem within {part : Outline} {first : Nat} (within : part.Within outline first)
    (distinct : outline.KeysDistinct) : part.KeysDistinct := by
  induction within with
  | whole => exact distinct
  | arg split _ ih =>
    cases distinct with
    | node _ args _ =>
      apply ih
      apply args
      rw [split]
      exact List.mem_append_cons_self
  | child split _ ih =>
    cases distinct with
    | node _ _ body =>
      apply ih
      apply body
      rw [split]
      exact List.mem_append_cons_self

end KeysDistinct

end SequenceCheck.Outline

namespace SequenceCheck.Tree

/-- A node and its outline have the same keys. -/
theorem NodeAt.keys_outline {tree : Tree} (node : tree.NodeAt) :
    Keyed.keys node.outline.args = node.argKeys := by
  rw [NodeAt.outline_eq]
  exact Keyed.keys_map outlineArg node.args

/-- What is under a key of a node is, as an outline, under the key of the node's outline. -/
theorem NodeAt.lookup_outline {tree : Tree} (node : tree.NodeAt) (key : String) :
    node.outline.args.lookup key = (node.arg? key).map outlineArg := by
  rw [NodeAt.outline_eq]
  exact Keyed.lookup_map outlineArg key node.args

/-- A node of a tree has no key twice if its outline has not. -/
theorem NodeAt.nodup_argKeys {outline : Outline} (distinct : outline.KeysDistinct)
    (node : (ofOutline outline).NodeAt) : node.argKeys.Nodup := by
  have part : node.outline.Within outline node.id := Outline.within_iff.2 ⟨node, rfl, rfl⟩
  rw [← node.keys_outline]
  exact (distinct.within part).nodup

end SequenceCheck.Tree
