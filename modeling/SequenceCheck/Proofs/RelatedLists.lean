import Mathlib.Data.List.Forall2

/-!
# Lists related item by item

`List.Forall₂ R as bs` says that two lists are equally long and that `R` relates their items place
by place. Here is what carries over from the items of the first list to those of the second, where
what is known of an item may depend on its being in the list.
-/

set_option autoImplicit false

namespace SequenceCheck

variable {α β γ δ : Type} {R : α → β → Prop} {as : List α} {bs : List β}

/-- Entries of the first list of a pair of related lists have related entries in the second. -/
theorem exists_of_forall₂_mem {a : α} (related : List.Forall₂ R as bs) (mem : a ∈ as) :
    ∃ b ∈ bs, R a b := by
  induction related with
  | nil => exact absurd mem List.not_mem_nil
  | cons first _ ih =>
    rcases List.mem_cons.1 mem with rfl | later
    · exact ⟨_, List.mem_cons_self, first⟩
    · obtain ⟨b, inRest, same⟩ := ih later
      exact ⟨b, List.mem_cons_of_mem _ inRest, same⟩

/-- Items that are related in one way may be related in another by what is known of the first. -/
theorem forall₂_imp_of_mem {S : α → β → Prop} (related : List.Forall₂ R as bs)
    (each : ∀ a ∈ as, ∀ b, R a b → S a b) : List.Forall₂ S as bs := by
  have both := (List.forall₂_and_left as bs).2 ⟨each, related⟩
  exact both.imp fun a b pair => pair.1 b pair.2

/-- Functions that agree on related items give the same list. -/
theorem map_eq_map_of_forall₂ {f : α → γ} {g : β → γ} (related : List.Forall₂ R as bs)
    (agree : ∀ a ∈ as, ∀ b, R a b → f a = g b) : as.map f = bs.map g := by
  induction related with
  | nil => rfl
  | cons first _ ih =>
    rw [List.map_cons, List.map_cons, agree _ List.mem_cons_self _ first,
      ih fun a mem => agree a (List.mem_cons_of_mem _ mem)]

/-- A function that agrees with a relation maps the first of two related lists to the second. -/
theorem map_eq_of_forall₂ {f : α → β} (related : List.Forall₂ R as bs)
    (agree : ∀ a ∈ as, ∀ b, R a b → f a = b) : as.map f = bs :=
  (map_eq_map_of_forall₂ related agree).trans bs.map_id

/-- Lists that two functions map to the same list are related by what the functions make of their
items. -/
theorem forall₂_of_map_eq {f : α → γ} {g : β → γ} (same : as.map f = bs.map g) :
    List.Forall₂ (fun a b => f a = g b) as bs := by
  rw [← List.forall₂_eq_eq_eq, List.forall₂_map_left_iff, List.forall₂_map_right_iff] at same
  exact same

/-- If each item of a list is related to something, the list is related to a list. -/
theorem exists_forall₂ (each : ∀ a ∈ as, ∃ b, R a b) : ∃ bs, List.Forall₂ R as bs := by
  induction as with
  | nil => exact ⟨[], .nil⟩
  | cons a rest ih =>
    obtain ⟨b, first⟩ := each a List.mem_cons_self
    obtain ⟨bs, others⟩ := ih fun other mem => each other (List.mem_cons_of_mem _ mem)
    exact ⟨b :: bs, .cons first others⟩

/-- Two lists that are related to a third one are related to each other. -/
theorem forall₂_of_forall₂ {S : γ → β → Prop} {T : α → γ → Prop} {cs : List γ}
    (left : List.Forall₂ R as bs) (right : List.Forall₂ S cs bs)
    (joined : ∀ a ∈ as, ∀ b ∈ bs, ∀ c, R a b → S c b → T a c) : List.Forall₂ T as cs := by
  induction left generalizing cs with
  | nil =>
    cases right
    exact .nil
  | cons first _ ih =>
    cases right with
    | cons other others =>
      refine .cons (joined _ List.mem_cons_self _ List.mem_cons_self _ first other) ?_
      exact ih others fun a inAs b inBs =>
        joined a (List.mem_cons_of_mem _ inAs) b (List.mem_cons_of_mem _ inBs)

/-- Tests that agree on related items find related items first, or none. -/
theorem find?_of_forall₂ {p : α → Bool} {q : β → Bool} (related : List.Forall₂ R as bs)
    (agree : ∀ a b, R a b → p a = q b) : Option.Rel R (as.find? p) (bs.find? q) := by
  induction related with
  | nil => exact .none
  | @cons a b _ _ first _ ih =>
    rw [List.find?_cons, List.find?_cons, agree a b first]
    cases q b with
    | true => exact .some first
    | false => exact ih

/-- Functions that find related results in related items, or none, do so in the lists. -/
theorem findSome?_of_forall₂ {S : γ → δ → Prop} {f : α → Option γ} {g : β → Option δ}
    (related : List.Forall₂ R as bs) (agree : ∀ a b, R a b → Option.Rel S (f a) (g b)) :
    Option.Rel S (as.findSome? f) (bs.findSome? g) := by
  induction related with
  | nil => exact .none
  | @cons a b _ _ first _ ih =>
    have here := agree a b first
    rw [List.findSome?_cons, List.findSome?_cons]
    generalize f a = found at here
    generalize g b = counterpart at here
    cases here with
    | some same => exact .some same
    | none => exact ih

/-- Where the first of two related lists is split at an item, the second one is split at a related
item. -/
theorem exists_split_of_forall₂ {before after : List α} {a : α}
    (related : List.Forall₂ R (before ++ a :: after) bs) :
    ∃ earlier b later, bs = earlier ++ b :: later ∧ List.Forall₂ R before earlier ∧ R a b := by
  induction before generalizing bs with
  | nil =>
    cases related with
    | @cons _ b _ later here _ => exact ⟨[], b, later, rfl, .nil, here⟩
  | cons item rest ih =>
    cases related with
    | @cons _ other _ others first related =>
      obtain ⟨earlier, b, later, rfl, before, here⟩ := ih related
      exact ⟨other :: earlier, b, later, rfl, .cons first before, here⟩

/-- Two lists of one length whose items go through a comparison place by place are related by
it. -/
theorem all_zip_iff {same : α → β → Bool} :
    as.length = bs.length ∧ ((as.zip bs).all fun pair => same pair.1 pair.2) = true ↔
      List.Forall₂ (fun a b => same a b = true) as bs := by
  rw [List.forall₂_iff_zip, List.all_eq_true, Prod.forall]

/-- Related lists have related items in every place. -/
theorem rel_of_getElem? {a : α} {b : β} {place : Nat} (related : List.Forall₂ R as bs)
    (first : as[place]? = some a) (second : bs[place]? = some b) : R a b := by
  obtain ⟨inRange, rfl⟩ := List.getElem?_eq_some_iff.1 first
  obtain ⟨inOther, rfl⟩ := List.getElem?_eq_some_iff.1 second
  exact related.get inRange inOther

/-- Functions that take related items to related lists take related lists to related lists. -/
theorem forall₂_flatMap {S : γ → δ → Prop} {f : α → List γ} {g : β → List δ}
    (related : List.Forall₂ R as bs)
    (each : ∀ a ∈ as, ∀ b, R a b → List.Forall₂ S (f a) (g b)) :
    List.Forall₂ S (as.flatMap f) (bs.flatMap g) := by
  induction related with
  | nil => exact .nil
  | cons first _ ih =>
    rw [List.flatMap_cons, List.flatMap_cons]
    apply List.rel_append
    · exact each _ List.mem_cons_self _ first
    · exact ih fun a mem => each a (List.mem_cons_of_mem _ mem)

end SequenceCheck
