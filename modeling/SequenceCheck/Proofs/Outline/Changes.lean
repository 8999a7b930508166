import Mathlib.Data.List.Induction
import Mathlib.Logic.ExistsUnique
import SequenceCheck.Proofs.Outline.Rearranged
import SequenceCheck.Proofs.Tree.Alike

/-!
# Outlines after whole runs of changes

An outline is assembled from `ofKind` by changes: arguments are set and taken out, children are
added and comments are set, in any order. What the outline is in the end can be read off the run.
A key stands for what it was set to last, unless it was taken out after that (`SetLast`); its place
among the keys is that of the change that set it first since it was last absent (`SetFirst`).

Main statement: an assembled outline is arranged as its changes say, and the root of its tree shows
it so, whichever way it is asked (`assembled_arranged`).
-/

set_option autoImplicit false

namespace SequenceCheck

namespace Outline

/-- A change of an outline under construction. -/
inductive Change where
  | setArg (key : String) (arg : Arg Outline Value)
  | dropArg (key : String)
  | addChild (child : Outline)
  | addChildren (children : List Outline)
  | setComment (comment : String)

/-- An outline after a change. -/
def change (outline : Outline) : Change → Outline
  | .setArg key arg => outline.withArg key arg
  | .dropArg key => outline.withoutArg key
  | .addChild child => outline.withChild child
  | .addChildren children => outline.withChildren children
  | .setComment comment => outline.withComment comment

/-- An outline of a kind after a run of changes. -/
def assembled (kind : Kind) (changes : List Change) : Outline :=
  changes.foldl change (ofKind kind)

theorem assembled_append_singleton (kind : Kind) (changes : List Change) (next : Change) :
    assembled kind (changes ++ [next]) = (assembled kind changes).change next := by
  rw [assembled, List.foldl_append]
  rfl

/-- The key whose argument a change sets or takes out. -/
def Change.key? : Change → Option String
  | .setArg key _ => some key
  | .dropArg key => some key
  | .addChild _ => none
  | .addChildren _ => none
  | .setComment _ => none

/-- The children that a change adds. -/
def Change.children : Change → List Outline
  | .setArg _ _ => []
  | .dropArg _ => []
  | .addChild child => [child]
  | .addChildren children => children
  | .setComment _ => []

/-! ## What a run says about a key -/

/-- The last change that sets a key sets it to the argument, and no later one takes the key out. -/
def SetLast (changes : List Change) (key : String) (arg : Arg Outline Value) : Prop :=
  ∃ before after, changes = before ++ .setArg key arg :: after ∧
    (∀ other, .setArg key other ∉ after) ∧ .dropArg key ∉ after

/-- The change at a place is the first one to set a key since the key was last absent: the key is
absent before it, and is not taken out after it. -/
def SetFirst (changes : List Change) (key : String) (place : Nat) : Prop :=
  ∃ before arg after, changes = before ++ .setArg key arg :: after ∧ before.length = place ∧
    (∀ other, ¬ SetLast before key other) ∧ .dropArg key ∉ after

/-- A change about a key sets it or takes it out. -/
theorem Change.eq_of_key? {change : Change} {key : String} (about : change.key? = some key) :
    (∃ arg, change = .setArg key arg) ∨ change = .dropArg key := by
  cases change with
  | setArg name arg =>
    cases about
    exact .inl ⟨arg, rfl⟩
  | dropArg name =>
    cases about
    exact .inr rfl
  | addChild child => cases about
  | addChildren children => cases about
  | setComment comment => cases about

/-- Where an item stands in a list with one more at its end: there, or among those before. -/
theorem append_singleton_eq_iff {α : Type} {items before after : List α} {next item : α} :
    items ++ [next] = before ++ item :: after ↔
      (before = items ∧ item = next ∧ after = []) ∨
        ∃ rest, after = rest ++ [next] ∧ items = before ++ item :: rest := by
  constructor
  · intro split
    rcases List.eq_nil_or_concat' after with rfl | ⟨rest, last, rfl⟩
    · obtain ⟨rfl, same⟩ := List.append_inj' split rfl
      cases same
      exact .inl ⟨rfl, rfl, rfl⟩
    · rw [← List.cons_append, ← List.append_assoc] at split
      obtain ⟨rfl, same⟩ := List.append_inj' split rfl
      cases same
      exact .inr ⟨rest, rfl, rfl⟩
  · rintro (⟨rfl, rfl, rfl⟩ | ⟨rest, rfl, rfl⟩)
    · rfl
    · rw [List.append_assoc, List.cons_append]

section Step

variable {changes : List Change} {next : Change} {key : String} {arg : Arg Outline Value}
  {place : Nat}

/-- A change sets its key, and leaves the other keys as they are. -/
theorem setLast_append_iff :
    SetLast (changes ++ [next]) key arg ↔
      next = .setArg key arg ∨ next.key? ≠ some key ∧ SetLast changes key arg := by
  constructor
  · rintro ⟨before, after, split, notSet, notDropped⟩
    rcases append_singleton_eq_iff.1 split with ⟨_, same, _⟩ | ⟨rest, rfl, earlier⟩
    · exact .inl same.symm
    · right
      refine ⟨fun about => ?_, before, rest, earlier, fun other mem => ?_, fun mem => ?_⟩
      · rcases Change.eq_of_key? about with ⟨other, rfl⟩ | rfl
        · exact notSet other (List.mem_append_right _ List.mem_cons_self)
        · exact notDropped (List.mem_append_right _ List.mem_cons_self)
      · exact notSet other (List.mem_append_left _ mem)
      · exact notDropped (List.mem_append_left _ mem)
  · rintro (rfl | ⟨apart, before, rest, rfl, notSet, notDropped⟩)
    · exact ⟨changes, [], rfl, fun _ => List.not_mem_nil, List.not_mem_nil⟩
    · refine ⟨before, rest ++ [next], List.append_assoc _ _ _, fun other mem => ?_, fun mem => ?_⟩
      · rcases List.mem_append.1 mem with inRest | last
        · exact notSet other inRest
        · rw [← List.mem_singleton.1 last] at apart
          exact apart rfl
      · rcases List.mem_append.1 mem with inRest | last
        · exact notDropped inRest
        · rw [← List.mem_singleton.1 last] at apart
          exact apart rfl

/-- A change that sets an absent key sets it first. Otherwise the first change stays the first,
unless the key is taken out. -/
theorem setFirst_append_iff :
    SetFirst (changes ++ [next]) key place ↔
      (∃ arg, next = .setArg key arg) ∧ (∀ other, ¬ SetLast changes key other) ∧
        changes.length = place ∨
      next ≠ .dropArg key ∧ SetFirst changes key place := by
  constructor
  · rintro ⟨before, arg, after, split, length, absent, notDropped⟩
    rcases append_singleton_eq_iff.1 split with ⟨rfl, same, _⟩ | ⟨rest, rfl, earlier⟩
    · exact .inl ⟨⟨arg, same.symm⟩, absent, length⟩
    · right
      refine ⟨?_, before, arg, rest, earlier, length, absent, fun mem => ?_⟩
      · rintro rfl
        exact notDropped (List.mem_append_right _ List.mem_cons_self)
      · exact notDropped (List.mem_append_left _ mem)
  · rintro (⟨⟨arg, rfl⟩, absent, length⟩ |
      ⟨kept, before, arg, rest, rfl, length, absent, notDropped⟩)
    · exact ⟨changes, arg, [], rfl, length, absent, List.not_mem_nil⟩
    · refine ⟨before, arg, rest ++ [next], List.append_assoc _ _ _, length, absent, fun mem => ?_⟩
      rcases List.mem_append.1 mem with inRest | last
      · exact notDropped inRest
      · exact kept (List.mem_singleton.1 last).symm

/-- A change about another key leaves the change that set a key first. -/
theorem setFirst_append_of_ne (apart : next.key? ≠ some key) :
    SetFirst (changes ++ [next]) key place ↔ SetFirst changes key place := by
  rw [setFirst_append_iff]
  constructor
  · rintro (⟨⟨arg, rfl⟩, _⟩ | ⟨_, first⟩)
    · exact absurd rfl apart
    · exact first
  · intro first
    refine .inr ⟨?_, first⟩
    rintro rfl
    exact apart rfl

theorem not_setLast_nil : ¬ SetLast [] key arg := by
  rintro ⟨before, after, split, _⟩
  exact List.append_ne_nil_of_right_ne_nil before (List.cons_ne_nil _ after) split.symm

theorem not_setFirst_nil : ¬ SetFirst [] key place := by
  rintro ⟨before, arg, after, split, _⟩
  exact List.append_ne_nil_of_right_ne_nil before (List.cons_ne_nil _ after) split.symm

/-- The change that set a key first is one of the run. -/
theorem SetFirst.lt_length (first : SetFirst changes key place) : place < changes.length := by
  obtain ⟨before, arg, after, rfl, rfl, _⟩ := first
  rw [List.length_append, List.length_cons]
  omega

/-- A key has been set first where it is set. -/
theorem exists_setFirst_iff :
    (∃ place, SetFirst changes key place) ↔ ∃ arg, SetLast changes key arg := by
  induction changes using List.reverseRecOn with
  | nil =>
    apply iff_of_false
    · rintro ⟨place, first⟩
      exact not_setFirst_nil first
    · rintro ⟨arg, last⟩
      exact not_setLast_nil last
  | append_singleton changes next ih =>
    by_cases about : next.key? = some key
    · rcases Change.eq_of_key? about with ⟨arg, rfl⟩ | rfl
      · -- The key is set now. If it was absent before, this is the first change to set it.
        refine iff_of_true ?_ ⟨arg, setLast_append_iff.2 (.inl rfl)⟩
        by_cases absent : ∀ other, ¬ SetLast changes key other
        · exact ⟨_, setFirst_append_iff.2 (.inl ⟨⟨arg, rfl⟩, absent, rfl⟩)⟩
        · obtain ⟨place, first⟩ := ih.2 (not_forall_not.1 absent)
          exact ⟨place, setFirst_append_iff.2 (.inr ⟨Change.noConfusion, first⟩)⟩
      · apply iff_of_false
        · rintro ⟨place, first⟩
          rcases setFirst_append_iff.1 first with ⟨⟨arg, same⟩, _⟩ | ⟨kept, _⟩
          · cases same
          · exact kept rfl
        · rintro ⟨arg, last⟩
          rcases setLast_append_iff.1 last with same | ⟨apart, _⟩
          · cases same
          · exact apart rfl
    · have last : ∀ arg, SetLast (changes ++ [next]) key arg ↔ SetLast changes key arg := by
        intro arg
        rw [setLast_append_iff, and_iff_right about, or_iff_right]
        rintro rfl
        exact about rfl
      simp only [setFirst_append_of_ne about, last]
      exact ih

/-- A key has been set first by one change only. -/
theorem SetFirst.unique {other : Nat} (first : SetFirst changes key place)
    (second : SetFirst changes key other) : place = other := by
  induction changes using List.reverseRecOn with
  | nil => exact absurd first not_setFirst_nil
  | append_singleton changes next ih =>
    rcases setFirst_append_iff.1 first with ⟨_, absent, rfl⟩ | ⟨_, before⟩
    · rcases setFirst_append_iff.1 second with ⟨_, _, same⟩ | ⟨_, before⟩
      · exact same
      · obtain ⟨arg, last⟩ := exists_setFirst_iff.1 ⟨_, before⟩
        exact absurd last (absent arg)
    · rcases setFirst_append_iff.1 second with ⟨_, absent, _⟩ | ⟨_, alsoBefore⟩
      · obtain ⟨arg, last⟩ := exists_setFirst_iff.1 ⟨_, before⟩
        exact absurd last (absent arg)
      · exact ih before alsoBefore

end Step

/-! ## What an outline has become -/

/-- An outline is arranged as a run of changes says. -/
structure ArrangedBy (changes : List Change) (outline : Outline) : Prop where
  /-- No key is repeated. -/
  nodup : (Keyed.keys outline.args).Nodup
  /-- A key is present if it was set and not taken out after it was set last, and it has the
  argument that it was set to last. -/
  mem_args_iff : ∀ key arg, (key, arg) ∈ outline.args ↔ SetLast changes key arg
  /-- One change set a present key first since it was last absent, -/
  existsUnique_setFirst : ∀ key ∈ Keyed.keys outline.args, ∃! place, SetFirst changes key place
  /-- and the keys are in the order of these changes. -/
  ordered : (Keyed.keys outline.args).Pairwise fun first second =>
    ∀ i j, SetFirst changes first i → SetFirst changes second j → i < j
  /-- The body is made of the children that were added, in the order of the changes. -/
  body_eq : outline.body = changes.flatMap Change.children

section Assembled

variable {kind : Kind} {changes : List Change}

theorem nodup_keys_assembled : (Keyed.keys (assembled kind changes).args).Nodup := by
  induction changes using List.reverseRecOn with
  | nil => exact List.nodup_nil
  | append_singleton changes next ih =>
    rw [assembled_append_singleton]
    cases next with
    | setArg key arg => exact Keyed.nodup_keys_put ih
    | dropArg key => exact Keyed.nodup_keys_drop ih
    | addChild child => exact ih
    | addChildren children => exact ih
    | setComment comment => exact ih

/-- Under a key stands what it was set to last. -/
theorem lookup_assembled_iff {key : String} {arg : Arg Outline Value} :
    (assembled kind changes).args.lookup key = some arg ↔ SetLast changes key arg := by
  induction changes using List.reverseRecOn with
  | nil => exact iff_of_false (Option.some_ne_none arg).symm not_setLast_nil
  | append_singleton changes next ih =>
    rw [assembled_append_singleton, setLast_append_iff]
    cases next with
    | setArg name other =>
      rw [change, withArg, Keyed.lookup_put, Change.key?]
      by_cases here : key = name
      · subst here
        simp
      · simp [here, Ne.symm here, ih]
    | dropArg name =>
      rw [change, withoutArg, Keyed.lookup_drop, Change.key?]
      by_cases here : key = name
      · subst here
        simp
      · simp [here, Ne.symm here, ih]
    | addChild child => simp [change, withChild, withChildren, Change.key?, ih]
    | addChildren children => simp [change, withChildren, Change.key?, ih]
    | setComment comment => simp [change, withComment, Change.key?, ih]

theorem mem_args_assembled_iff {key : String} {arg : Arg Outline Value} :
    (key, arg) ∈ (assembled kind changes).args ↔ SetLast changes key arg := by
  rw [Keyed.mem_iff_lookup nodup_keys_assembled, lookup_assembled_iff]

theorem mem_keys_assembled_iff {key : String} :
    key ∈ Keyed.keys (assembled kind changes).args ↔ ∃ arg, SetLast changes key arg := by
  constructor
  · intro mem
    obtain ⟨⟨_, arg⟩, held, rfl⟩ := List.mem_map.1 mem
    exact ⟨arg, mem_args_assembled_iff.1 held⟩
  · rintro ⟨arg, last⟩
    exact List.mem_map_of_mem (mem_args_assembled_iff.2 last)

/-- A key that is present has been set first by one change. -/
theorem existsUnique_setFirst_assembled {key : String}
    (present : key ∈ Keyed.keys (assembled kind changes).args) :
    ∃! place, SetFirst changes key place := by
  obtain ⟨place, first⟩ := exists_setFirst_iff.2 (mem_keys_assembled_iff.1 present)
  exact ⟨place, first, fun other also => also.unique first⟩

/-- The keys are in the order of the changes that set them first. -/
theorem pairwise_keys_assembled :
    (Keyed.keys (assembled kind changes).args).Pairwise fun first second =>
      ∀ i j, SetFirst changes first i → SetFirst changes second j → i < j := by
  induction changes using List.reverseRecOn with
  | nil => exact .nil
  | append_singleton changes next ih =>
    -- Keys that were present keep their places, as the changes that set them first do.
    have kept : (Keyed.keys (assembled kind changes).args).Pairwise fun first second =>
        ∀ i j, SetFirst (changes ++ [next]) first i → SetFirst (changes ++ [next]) second j →
          i < j := by
      refine ih.imp_of_mem fun {first second} inKeys alsoInKeys before i j atFirst atSecond => ?_
      have earlier : ∀ {key place}, key ∈ Keyed.keys (assembled kind changes).args →
          SetFirst (changes ++ [next]) key place → SetFirst changes key place := by
        intro key place present set
        rcases setFirst_append_iff.1 set with ⟨_, absent, _⟩ | ⟨_, before⟩
        · obtain ⟨arg, last⟩ := mem_keys_assembled_iff.1 present
          exact absurd last (absent arg)
        · exact before
      exact before i j (earlier inKeys atFirst) (earlier alsoInKeys atSecond)
    rw [assembled_append_singleton]
    cases next with
    | setArg key arg =>
      by_cases present : key ∈ Keyed.keys (assembled kind changes).args
      · rw [change, withArg, Keyed.keys_put_of_mem present]
        exact kept
      · -- A key that was absent goes to the end, and its change is the last of all.
        have put : Keyed.keys ((assembled kind changes).change (.setArg key arg)).args =
            Keyed.keys (assembled kind changes).args ++ [key] := by
          rw [change, withArg, Keyed.put_of_not_mem present, Keyed.keys, List.map_append]
          rfl
        rw [put]
        refine List.pairwise_append.2 ⟨kept, List.pairwise_singleton _ _, ?_⟩
        intro first inKeys second isKey i j atFirst atKey
        rw [List.mem_singleton.1 isKey] at atKey
        have apart : (Change.setArg key arg).key? ≠ some first := by
          intro same
          exact present (Option.some.inj same ▸ inKeys)
        rw [setFirst_append_of_ne apart] at atFirst
        rcases setFirst_append_iff.1 atKey with ⟨_, _, rfl⟩ | ⟨_, before⟩
        · exact atFirst.lt_length
        · exact absurd (mem_keys_assembled_iff.2 (exists_setFirst_iff.1 ⟨j, before⟩)) present
    | dropArg key => exact kept.sublist (List.Sublist.map _ List.filter_sublist)
    | addChild child => exact kept
    | addChildren children => exact kept
    | setComment comment => exact kept

theorem body_assembled : (assembled kind changes).body = changes.flatMap Change.children := by
  induction changes using List.reverseRecOn with
  | nil => rfl
  | append_singleton changes next ih =>
    rw [assembled_append_singleton, List.flatMap_append, List.flatMap_singleton, ← ih]
    cases next with
    | setArg key arg => exact (List.append_nil _).symm
    | dropArg key => exact (List.append_nil _).symm
    | addChild child => rfl
    | addChildren children => rfl
    | setComment comment => exact (List.append_nil _).symm

end Assembled

/-- An outline that is assembled by a run of changes is arranged as the run says. -/
theorem arrangedBy_assembled (kind : Kind) (changes : List Change) :
    (assembled kind changes).ArrangedBy changes where
  nodup := nodup_keys_assembled
  mem_args_iff _ _ := mem_args_assembled_iff
  existsUnique_setFirst _ present := existsUnique_setFirst_assembled present
  ordered := pairwise_keys_assembled
  body_eq := body_assembled

end Outline

namespace Tree

/-! ## What the root shows -/

/-- A node shows a list of arguments, whichever way it is asked about them. -/
structure NodeAt.Shows {tree : Tree} (node : tree.NodeAt)
    (args : List (String × Arg Outline Value)) : Prop where
  argKeys_eq : node.argKeys = Keyed.keys args
  arg?_eq_some_iff : ∀ key arg, (node.arg? key).map outlineArg = some arg ↔ (key, arg) ∈ args
  arg?_eq_none_iff : ∀ key, node.arg? key = none ↔ key ∉ Keyed.keys args
  hasArg_iff : ∀ key, node.hasArg key = true ↔ key ∈ Keyed.keys args
  leafValue?_eq_some_iff : ∀ key value,
    node.leafValue? key = some value ↔ (key, Arg.leaf value) ∈ args
  nodeArg?_eq_some_iff : ∀ key inner,
    (node.nodeArg? key).map NodeAt.outline = some inner ↔ (key, Arg.node inner) ∈ args

/-- A node without repeated keys shows the arguments of its outline. -/
theorem NodeAt.shows_outline {tree : Tree} (node : tree.NodeAt)
    (nodup : (Keyed.keys node.outline.args).Nodup) : node.Shows node.outline.args where
  argKeys_eq := node.keys_outline.symm
  arg?_eq_some_iff key arg := by rw [Keyed.mem_iff_lookup nodup, node.lookup_outline]
  arg?_eq_none_iff key := by
    rw [node.keys_outline, NodeAt.mem_argKeys_iff, not_exists, Option.eq_none_iff_forall_ne_some]
  hasArg_iff key := by rw [hasArg, List.contains_iff_mem, node.keys_outline]
  leafValue?_eq_some_iff key value := by
    rw [Keyed.mem_iff_lookup nodup, node.lookup_outline, leafValue?, leafArg?]
    cases node.arg? key with
    | none => simp
    | some arg => cases arg <;> simp [Arg.leaf?, outlineArg]
  nodeArg?_eq_some_iff key inner := by
    rw [Keyed.mem_iff_lookup nodup, node.lookup_outline, nodeArg?]
    cases node.arg? key with
    | none => simp
    | some arg => cases arg <;> simp [Arg.node?, outlineArg]

/-- An outline that is assembled by a run of changes is arranged as the run says, and the root of
its tree shows the arguments so. -/
theorem assembled_arranged (kind : Kind) (changes : List Outline.Change) :
    (Outline.assembled kind changes).ArrangedBy changes ∧
      (ofOutline (Outline.assembled kind changes)).root.Shows
        (Outline.assembled kind changes).args := by
  have arranged := Outline.arrangedBy_assembled kind changes
  have root : (ofOutline (Outline.assembled kind changes)).root.outline =
      Outline.assembled kind changes := outline_ofOutline _
  refine ⟨arranged, ?_⟩
  have shows := (ofOutline (Outline.assembled kind changes)).root.shows_outline
  rw [root] at shows
  exact shows arranged.nodup

/-- A key that is replaced keeps its place, and one that is taken out and set again goes to the
end. -/
example :
    (ofOutline (Outline.assembled .wait
      [.setArg "a" (.leaf .null), .setArg "b" (.leaf .null), .setArg "c" (.leaf .null),
        .setArg "b" (.leaf (.integer 1)), .dropArg "a", .setArg "a" (.leaf .null)])).root.argKeys =
      ["b", "c", "a"] := by
  decide

end Tree

end SequenceCheck
