import SequenceCheck.Proofs.RelatedArgs
import SequenceCheck.Tree.Layout

/-!
# Outlines edited in one place

`outline.editAt edit number` edits the part of an outline that has a number in preorder, and leaves
the rest as it is. What stands in the edited outline is compared with what stood there before
(`Across`), both with the numbers that they have in their trees: either the edit is in it, or it is
elsewhere. Then the same outline stands there, with the same number if the edit comes later.

Main statements: what is right below two places that compare so compares so again, in bodies
(`Across.body`) and in arguments (`Across.args`), except for the arguments of what is edited itself.
There the edited part stands, with its number (`Across.eq_edit`), and a key set or taken out leaves
its other arguments as they are (`keepsArgs_withArg`, `keepsArgs_withoutArg`).
-/

set_option autoImplicit false

namespace SequenceCheck.Outline

mutual

/-- An outline in which the part with a number, counted in preorder from zero, is edited. -/
def editAt (edit : Outline → Outline) : Outline → Nat → Outline
  | outline, 0 => edit outline
  | ⟨kind, args, body, comment⟩, number + 1 =>
    if number < argsNodeCount args then ⟨kind, editArgsAt edit args number, body, comment⟩
    else ⟨kind, args, editBodyAt edit body (number - argsNodeCount args), comment⟩

/-- Arguments in which the part with a number is edited. -/
def editArgsAt (edit : Outline → Outline) :
    List (String × Arg Outline Value) → Nat → List (String × Arg Outline Value)
  | [], _ => []
  | (key, .node inner) :: rest, number =>
    if number < inner.nodeCount then (key, .node (inner.editAt edit number)) :: rest
    else (key, .node inner) :: editArgsAt edit rest (number - inner.nodeCount)
  | (key, .leaf value) :: rest, number => (key, .leaf value) :: editArgsAt edit rest number
  | (key, .malformed raw) :: rest, number => (key, .malformed raw) :: editArgsAt edit rest number

/-- A body in which the part with a number is edited. -/
def editBodyAt (edit : Outline → Outline) : List Outline → Nat → List Outline
  | [], _ => []
  | child :: rest, number =>
    if number < child.nodeCount then child.editAt edit number :: rest
    else child :: editBodyAt edit rest (number - child.nodeCount)

end

section Size

variable {edit : Outline → Outline}

mutual

/-- The part that is edited has its number after the edit too. -/
theorem lt_nodeCount_editAt :
    ∀ (outline : Outline) {number : Nat}, number < outline.nodeCount →
      number < (outline.editAt edit number).nodeCount
  | outline, 0, _ => by
    rw [editAt]
    exact nodeCount_pos _
  | ⟨kind, args, body, comment⟩, number + 1, inRange => by
    rw [nodeCount] at inRange
    rw [editAt]
    by_cases inArgs : number < argsNodeCount args
    · have stays := lt_argsNodeCount_editArgsAt args inArgs
      rw [if_pos inArgs, nodeCount]
      omega
    · have inBody : number - argsNodeCount args < bodyNodeCount body := by omega
      have stays := lt_bodyNodeCount_editBodyAt body inBody
      rw [if_neg inArgs, nodeCount]
      omega

theorem lt_argsNodeCount_editArgsAt :
    ∀ (args : List (String × Arg Outline Value)) {number : Nat}, number < argsNodeCount args →
      number < argsNodeCount (editArgsAt edit args number)
  | (key, .node inner) :: rest, number, inRange => by
    rw [argsNodeCount] at inRange
    rw [editArgsAt]
    by_cases here : number < inner.nodeCount
    · have stays := lt_nodeCount_editAt inner here
      rw [if_pos here, argsNodeCount]
      omega
    · have inRest : number - inner.nodeCount < argsNodeCount rest := by omega
      have stays := lt_argsNodeCount_editArgsAt rest inRest
      rw [if_neg here, argsNodeCount]
      omega
  | (key, .leaf value) :: rest, number, inRange => by
    rw [argsNodeCount] at inRange
    exact lt_argsNodeCount_editArgsAt rest inRange
  | (key, .malformed raw) :: rest, number, inRange => by
    rw [argsNodeCount] at inRange
    exact lt_argsNodeCount_editArgsAt rest inRange

theorem lt_bodyNodeCount_editBodyAt :
    ∀ (body : List Outline) {number : Nat}, number < bodyNodeCount body →
      number < bodyNodeCount (editBodyAt edit body number)
  | child :: rest, number, inRange => by
    rw [bodyNodeCount] at inRange
    rw [editBodyAt]
    by_cases here : number < child.nodeCount
    · have stays := lt_nodeCount_editAt child here
      rw [if_pos here, bodyNodeCount]
      omega
    · have inRest : number - child.nodeCount < bodyNodeCount rest := by omega
      have stays := lt_bodyNodeCount_editBodyAt rest inRest
      rw [if_neg here, bodyNodeCount]
      omega

end

end Size

/-! ## What stands in an outline, with its numbers -/

/-- Arguments with the number of each node among them, the next free number being given. -/
def situatedArgs (id : Nat) :
    List (String × Arg Outline Value) → List (String × Arg (Outline × Nat) Value)
  | [] => []
  | (key, .node inner) :: rest =>
    (key, .node (inner, id)) :: situatedArgs (id + inner.nodeCount) rest
  | (key, .leaf value) :: rest => (key, .leaf value) :: situatedArgs id rest
  | (key, .malformed raw) :: rest => (key, .malformed raw) :: situatedArgs id rest

/-- The children of a body with their numbers, the next free number being given. -/
def situatedBody (id : Nat) : List Outline → List (Outline × Nat)
  | [] => []
  | child :: rest => (child, id) :: situatedBody (id + child.nodeCount) rest

/-! ## What stands there before and after an edit -/

/-- The numbers from `id` on, `count` of them, come before an edit and stay what they are, or they
come after it and become those from `other` on. -/
def Aside (first count id other : Nat) : Prop :=
  id = other ∧ id + count ≤ first ∨ first < id ∧ first < other

theorem aside_add {first count more id other : Nat} :
    Aside first (count + more) id other →
      Aside first count id other ∧ Aside first more (id + count) (other + count) := by
  unfold Aside
  omega

/-- What stands somewhere in an outline and what stands there after the edit of the part that has
the number `first`. -/
inductive Across (edit : Outline → Outline) (first : Nat) :
    Outline × Nat → Outline × Nat → Prop where
  /-- The edit is elsewhere. -/
  | aside {part : Outline} {id other : Nat} :
      Aside first part.nodeCount id other → Across edit first (part, id) (part, other)
  /-- The edit is in it. -/
  | within {part : Outline} {id number : Nat} :
      id + number = first → number < part.nodeCount →
      Across edit first (part, id) (part.editAt edit number, id)

/-- Arguments that compare so under each key. -/
abbrev AcrossArgs (edit : Outline → Outline) (first : Nat) :
    List (String × Arg (Outline × Nat) Value) → List (String × Arg (Outline × Nat) Value) → Prop :=
  List.Forall₂ (Keyed.Rel (Arg.Rel (Across edit first) Eq))

variable {edit : Outline → Outline} {first : Nat}

/-- Away from the edit arguments stay what they are. -/
theorem acrossArgs_of_aside :
    ∀ (args : List (String × Arg Outline Value)) {id other : Nat},
      Aside first (argsNodeCount args) id other →
      AcrossArgs edit first (situatedArgs id args) (situatedArgs other args)
  | [], _, _, _ => .nil
  | (key, .node inner) :: rest, id, other, aside => by
    obtain ⟨here, later⟩ := aside_add aside
    exact .cons (.entry (.node (.aside here))) (acrossArgs_of_aside rest later)
  | (key, .leaf value) :: rest, id, other, aside =>
    .cons (.entry (.leaf rfl)) (acrossArgs_of_aside rest aside)
  | (key, .malformed raw) :: rest, id, other, aside =>
    .cons (.entry .malformed) (acrossArgs_of_aside rest aside)

/-- Away from the edit a body stays what it is. -/
theorem acrossBody_of_aside :
    ∀ (body : List Outline) {id other : Nat}, Aside first (bodyNodeCount body) id other →
      List.Forall₂ (Across edit first) (situatedBody id body) (situatedBody other body)
  | [], _, _, _ => .nil
  | child :: rest, id, other, aside => by
    obtain ⟨here, later⟩ := aside_add aside
    exact .cons (.aside here) (acrossBody_of_aside rest later)

/-- Arguments in which a part is edited compare with what they were before. -/
theorem acrossArgs_editArgsAt :
    ∀ (args : List (String × Arg Outline Value)) {id number : Nat}, id + number = first →
      number < argsNodeCount args →
      AcrossArgs edit first (situatedArgs id args) (situatedArgs id (editArgsAt edit args number))
  | (key, .node inner) :: rest, id, number, place, inRange => by
    rw [argsNodeCount] at inRange
    rw [editArgsAt]
    by_cases here : number < inner.nodeCount
    · -- The rest comes after the edit, in both outlines.
      have stays := @lt_nodeCount_editAt edit inner _ here
      have later : Aside first (argsNodeCount rest) (id + inner.nodeCount)
          (id + (inner.editAt edit number).nodeCount) := .inr (by omega)
      rw [if_pos here]
      exact .cons (.entry (.node (.within place here))) (acrossArgs_of_aside rest later)
    · have before : Aside first inner.nodeCount id id := .inl (by omega)
      have inRest : number - inner.nodeCount < argsNodeCount rest := by omega
      rw [if_neg here]
      exact .cons (.entry (.node (.aside before))) (acrossArgs_editArgsAt rest (by omega) inRest)
  | (key, .leaf value) :: rest, id, number, place, inRange =>
    .cons (.entry (.leaf rfl)) (acrossArgs_editArgsAt rest place inRange)
  | (key, .malformed raw) :: rest, id, number, place, inRange =>
    .cons (.entry .malformed) (acrossArgs_editArgsAt rest place inRange)

/-- A body in which a part is edited compares with what it was before. -/
theorem acrossBody_editBodyAt :
    ∀ (body : List Outline) {id number : Nat}, id + number = first →
      number < bodyNodeCount body →
      List.Forall₂ (Across edit first) (situatedBody id body)
        (situatedBody id (editBodyAt edit body number))
  | child :: rest, id, number, place, inRange => by
    rw [bodyNodeCount] at inRange
    rw [editBodyAt]
    by_cases here : number < child.nodeCount
    · have stays := @lt_nodeCount_editAt edit child _ here
      have later : Aside first (bodyNodeCount rest) (id + child.nodeCount)
          (id + (child.editAt edit number).nodeCount) := .inr (by omega)
      rw [if_pos here]
      exact .cons (.within place here) (acrossBody_of_aside rest later)
    · have before : Aside first child.nodeCount id id := .inl (by omega)
      have inRest : number - child.nodeCount < bodyNodeCount rest := by omega
      rw [if_neg here]
      exact .cons (.aside before) (acrossBody_editBodyAt rest (by omega) inRest)

/-! ## One step down -/

/-- The arguments of an outline that has a number, with their numbers. -/
def argsFrom (place : Outline × Nat) : List (String × Arg (Outline × Nat) Value) :=
  situatedArgs (place.2 + 1) place.1.args

/-- The body of an outline that has a number, with the numbers of the children. -/
def bodyFrom (place : Outline × Nat) : List (Outline × Nat) :=
  situatedBody (place.2 + 1 + argsNodeCount place.1.args) place.1.body

/-- An edit is about arguments: it leaves the kind and the body as they are. -/
structure ArgsOnly (edit : Outline → Outline) : Prop where
  kind : ∀ outline, (edit outline).kind = outline.kind
  body : ∀ outline, (edit outline).body = outline.body

namespace Across

variable {before after : Outline × Nat}

/-- The kind stays, wherever the edit is. -/
theorem kind (across : Across edit first before after) (edits : ArgsOnly edit) :
    before.1.kind = after.1.kind := by
  cases across with
  | aside _ => rfl
  | @within part id number _ _ =>
    rcases part with ⟨kind, args, body, comment⟩
    cases number with
    | zero => exact (edits.kind _).symm
    | succ number =>
      simp only [editAt]
      split <;> rfl

/-- The bodies of two places compare child by child. -/
theorem body (across : Across edit first before after) (edits : ArgsOnly edit) :
    List.Forall₂ (Across edit first) (bodyFrom before) (bodyFrom after) := by
  cases across with
  | @aside part id other aside =>
    rcases part with ⟨kind, args, body, comment⟩
    apply acrossBody_of_aside
    simp only [Aside, nodeCount] at aside ⊢
    omega
  | @within part id number place inRange =>
    rcases part with ⟨kind, args, body, comment⟩
    cases number with
    | zero =>
      rw [editAt, bodyFrom, bodyFrom, edits.body]
      exact acrossBody_of_aside body (.inr (by omega))
    | succ number =>
      rw [nodeCount] at inRange
      rw [editAt]
      by_cases inArgs : number < argsNodeCount args
      · -- The body comes after the arguments, and so after the edit.
        have stays := @lt_argsNodeCount_editArgsAt edit args _ inArgs
        rw [if_pos inArgs]
        exact acrossBody_of_aside body (.inr (by dsimp only; omega))
      · rw [if_neg inArgs]
        exact acrossBody_editBodyAt body (by dsimp only; omega) (by omega)

/-- The arguments of two places compare key by key, unless they are edited. -/
theorem args (across : Across edit first before after) (other : before.2 ≠ first) :
    AcrossArgs edit first (argsFrom before) (argsFrom after) := by
  cases across with
  | @aside part id other aside =>
    rcases part with ⟨kind, args, body, comment⟩
    apply acrossArgs_of_aside
    simp only [Aside, nodeCount] at aside ⊢
    omega
  | @within part id number place inRange =>
    rcases part with ⟨kind, args, body, comment⟩
    cases number with
    | zero => exact absurd place other
    | succ number =>
      rw [nodeCount] at inRange
      rw [editAt]
      by_cases inArgs : number < argsNodeCount args
      · rw [if_pos inArgs]
        exact acrossArgs_editArgsAt args (by dsimp only; omega) inArgs
      · -- The edit is in the body, and so after the arguments.
        rw [if_neg inArgs]
        exact acrossArgs_of_aside args (.inl (by dsimp only; omega))

/-- Up to an edit, numbers stay. -/
theorem number_eq (across : Across edit first before after) (early : after.2 ≤ first) :
    before.2 = after.2 := by
  cases across with
  | aside aside =>
    simp only [Aside] at aside early
    omega
  | within _ _ => rfl

/-- What has the number of an edit is edited. -/
theorem eq_edit (across : Across edit first before after) (here : before.2 = first) :
    after = (edit before.1, first) := by
  cases across with
  | @aside part id other aside =>
    have size := nodeCount_pos part
    simp only [Aside] at aside here
    omega
  | @within part id number place inRange =>
    obtain rfl : number = 0 := by
      simp only at here
      omega
    rw [editAt, ← here]

end Across

/-! ## Keys set and taken out -/

/-- What is under a key stays there, unless the key is lost. -/
def KeepsArgs (lost : String → Prop) (part other : Outline) : Prop :=
  ∀ key arg, part.args.lookup key = some arg → lost key ∨ other.args.lookup key = some arg

theorem argsOnly_withoutArg (key : String) : ArgsOnly (withoutArg · key) :=
  ⟨fun _ => rfl, fun _ => rfl⟩

theorem argsOnly_withArg (key : String) (arg : Arg Outline Value) : ArgsOnly (withArg · key arg) :=
  ⟨fun _ => rfl, fun _ => rfl⟩

/-- An outline in which a key of the part with a number is taken out. -/
abbrev withoutArgAt (outline : Outline) (number : Nat) (key : String) : Outline :=
  outline.editAt (withoutArg · key) number

/-- An outline in which an argument of the part with a number is set. -/
abbrev withArgAt (outline : Outline) (number : Nat) (key : String) (arg : Arg Outline Value) :
    Outline :=
  outline.editAt (withArg · key arg) number

/-- Only the key that is taken out is lost. -/
theorem keepsArgs_withoutArg (key : String) (part : Outline) :
    KeepsArgs (· = key) part (part.withoutArg key) := by
  intro other arg found
  by_cases here : other = key
  · exact .inl here
  · right
    rw [withoutArg, Keyed.lookup_drop, if_neg here, found]

/-- Nothing is lost where a key is new. -/
theorem keepsArgs_withArg {key : String} {part : Outline} (arg : Arg Outline Value)
    (absent : key ∉ Keyed.keys part.args) :
    KeepsArgs (fun _ => False) part (part.withArg key arg) := by
  intro other held found
  right
  have differs : other ≠ key := by
    rintro rfl
    exact absent (Keyed.mem_keys_of_lookup found)
  rw [withArg, Keyed.lookup_put, if_neg differs, found]

end SequenceCheck.Outline
