import Mathlib.Data.List.Perm.Basic
import SequenceCheck.Outline.Basic
import SequenceCheck.Proofs.RelatedLists

/-!
# Arguments related entry by entry

Two arguments are related if both are nodes, both are leaves or both are malformed, and what they
hold is related. Two lists of arguments are related if they have the same keys in the same order,
with related arguments.

Main statements: related lists answer a look-up by related arguments (`lookup_of_forall₂`), and a
list without repeated keys answers as it does in any other order (`lookup_of_perm`).
-/

set_option autoImplicit false

namespace SequenceCheck

/-- Two arguments are of the same sort and hold what is related. -/
inductive Arg.Rel {ν l ν' l' : Type} (node : ν → ν' → Prop) (leaf : l → l' → Prop) :
    Arg ν l → Arg ν' l' → Prop where
  | node {a : ν} {b : ν'} : node a b → Rel node leaf (.node a) (.node b)
  | leaf {a : l} {b : l'} : leaf a b → Rel node leaf (.leaf a) (.leaf b)
  | malformed {raw : Json} : Rel node leaf (.malformed raw) (.malformed raw)

section Found

variable {α β ν l ν' l' : Type} {R : α → β → Prop} {node : ν → ν' → Prop} {leaf : l → l' → Prop}

/-- Both have a value, and these are related, or neither has one. -/
theorem flip_of_rel {a : Option α} {b : Option β} (related : Option.Rel R a b) :
    Option.Rel (flip R) b a := by
  cases related with
  | some same => exact .some same
  | none => exact .none

/-- Values that are related by equality are the same, or both none. -/
theorem eq_of_rel {a b : Option α} (related : Option.Rel Eq a b) : a = b := by
  cases related with
  | some same => rw [same]
  | none => rfl

/-- Related values are related in another way too, by what is known of them. -/
theorem rel_of_rel {S : α → β → Prop} {a : Option α} {b : Option β} (related : Option.Rel R a b)
    (agree : ∀ x, a = some x → ∀ y, b = some y → R x y → S x y) : Option.Rel S a b := by
  cases related with
  | some same => exact .some (agree _ rfl _ rfl same)
  | none => exact .none

/-- Functions that agree on related values give the same value, or both none. -/
theorem map_eq_map_of_rel {γ : Type} {f : α → γ} {g : β → γ} {a : Option α} {b : Option β}
    (related : Option.Rel R a b) (agree : ∀ x, a = some x → ∀ y, R x y → f x = g y) :
    a.map f = b.map g := by
  cases related with
  | some same => exact congrArg some (agree _ rfl _ same)
  | none => rfl

/-- If two values are related once each is mapped, they are related by what they are mapped to. -/
theorem rel_of_rel_map {γ δ : Type} {f : γ → α} {g : δ → β} {a : Option γ} {b : Option δ}
    (related : Option.Rel R (a.map f) (b.map g)) : Option.Rel (fun x y => R (f x) (g y)) a b := by
  cases a with
  | none =>
    cases b with
    | none => exact .none
    | some _ => cases related
  | some x =>
    cases b with
    | none => cases related
    | some y =>
      cases related with
      | some same => exact .some same

theorem rel_of_map_eq {γ : Type} {f : α → γ} {g : β → γ} {a : Option α} {b : Option β}
    (same : a.map f = b.map g) : Option.Rel (fun x y => f x = g y) a b := by
  apply rel_of_rel_map
  rw [same]
  cases b.map g with
  | none => exact .none
  | some _ => exact .some rfl

theorem isSome_of_rel {a : Option α} {b : Option β} (related : Option.Rel R a b) :
    a.isSome = b.isSome := by
  cases related with
  | some _ => rfl
  | none => rfl

theorem Arg.Rel.flip {a : Arg ν l} {b : Arg ν' l'} (related : Arg.Rel node leaf a b) :
    Arg.Rel (flip node) (flip leaf) b a := by
  cases related with
  | node same => exact .node same
  | leaf same => exact .leaf same
  | malformed => exact .malformed

/-- Of two related arguments both are nodes, and related ones, or neither is a node. -/
theorem bind_node?_of_rel {a : Option (Arg ν l)} {b : Option (Arg ν' l')}
    (related : Option.Rel (Arg.Rel node leaf) a b) :
    Option.Rel node (a.bind Arg.node?) (b.bind Arg.node?) := by
  cases related with
  | some args =>
    cases args with
    | node same => exact .some same
    | leaf _ => exact .none
    | malformed => exact .none
  | none => exact .none

/-- Of two related arguments both are leaves, and related ones, or neither is a leaf. -/
theorem bind_leaf?_of_rel {a : Option (Arg ν l)} {b : Option (Arg ν' l')}
    (related : Option.Rel (Arg.Rel node leaf) a b) :
    Option.Rel leaf (a.bind Arg.leaf?) (b.bind Arg.leaf?) := by
  cases related with
  | some args =>
    cases args with
    | node _ => exact .none
    | leaf same => exact .some same
    | malformed => exact .none
  | none => exact .none

end Found

namespace Keyed

/-- Two entries have the same key and related values. -/
inductive Rel {α β : Type} (related : α → β → Prop) : String × α → String × β → Prop where
  | entry {key : String} {a : α} {b : β} : related a b → Rel related (key, a) (key, b)

variable {α β : Type} {R : α → β → Prop} {as : List (String × α)} {bs : List (String × β)}

theorem rel_iff {a : String × α} {b : String × β} : Rel R a b ↔ a.1 = b.1 ∧ R a.2 b.2 := by
  rcases a with ⟨key, value⟩
  rcases b with ⟨name, other⟩
  constructor
  · rintro ⟨related⟩
    exact ⟨rfl, related⟩
  · rintro ⟨rfl, related⟩
    exact .entry related

theorem keys_of_forall₂ (related : List.Forall₂ (Rel R) as bs) : keys as = keys bs := by
  apply map_eq_map_of_forall₂ related
  rintro _ _ _ ⟨_⟩
  rfl

/-- Related lists have related values under a key, or both have none. -/
theorem lookup_of_forall₂ (related : List.Forall₂ (Rel R) as bs) (key : String) :
    Option.Rel R (as.lookup key) (bs.lookup key) := by
  induction related with
  | nil => exact .none
  | cons first _ ih =>
    cases first with
    | @entry held a b same =>
      rw [List.lookup_cons, List.lookup_cons]
      cases key == held with
      | true => exact .some same
      | false => exact ih

/-- Lists with mapped values are related if the values are, once mapped. -/
theorem forall₂_map_iff {γ δ : Type} {f : γ → α} {g : δ → β} {cs : List (String × γ)}
    {ds : List (String × δ)} :
    List.Forall₂ (Rel R) (cs.map fun entry => (entry.1, f entry.2))
        (ds.map fun entry => (entry.1, g entry.2)) ↔
      List.Forall₂ (Rel fun c d => R (f c) (g d)) cs ds := by
  have entry : ∀ (c : String × γ) (d : String × δ),
      Rel R (c.1, f c.2) (d.1, g d.2) ↔ Rel (fun c d => R (f c) (g d)) c d := by
    intro c d
    rw [rel_iff, rel_iff]
  rw [List.forall₂_map_left_iff, List.forall₂_map_right_iff]
  exact ⟨fun each => each.imp fun c d => (entry c d).1,
    fun each => each.imp fun c d => (entry c d).2⟩

theorem keys_map (f : α → β) (entries : List (String × α)) :
    keys (entries.map fun entry => (entry.1, f entry.2)) = keys entries := by
  rw [keys, List.map_map]
  rfl

theorem lookup_map (f : α → β) (key : String) (entries : List (String × α)) :
    (entries.map fun entry => (entry.1, f entry.2)).lookup key = (entries.lookup key).map f := by
  induction entries with
  | nil => rfl
  | cons entry rest ih =>
    rw [List.map_cons, List.lookup_cons, List.lookup_cons, ih]
    cases key == entry.1 <;> rfl

/-- Where no key comes twice, an entry is there if it is found by its key. -/
theorem mem_iff_lookup {key : String} {value : α} (nodup : (keys as).Nodup) :
    (key, value) ∈ as ↔ as.lookup key = some value := by
  constructor
  · exact lookup_of_mem nodup
  · intro found
    obtain ⟨before, after, rfl, _⟩ := List.lookup_eq_some_iff.1 found
    exact List.mem_append_cons_self

/-- Where no key comes twice, the order of the entries does not matter. -/
theorem lookup_of_perm {others : List (String × α)} (perm : as.Perm others)
    (nodup : (keys as).Nodup) (key : String) : as.lookup key = others.lookup key := by
  have distinct : (keys others).Nodup := (perm.map Prod.fst).nodup nodup
  apply Option.ext
  intro value
  rw [← mem_iff_lookup nodup, ← mem_iff_lookup distinct]
  exact perm.mem_iff

end Keyed

end SequenceCheck
