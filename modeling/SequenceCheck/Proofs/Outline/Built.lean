import SequenceCheck.Proofs.Outline.Normal

/-!
# Outlines that are built

`outline.Built` says that an outline comes from `ofKind` by setting and taking out arguments, adding
children and setting comments, and that everything below it does as well. Such an outline has each
key of its arguments once.

Main statements: no node of a built outline has a key twice (`Built.keysDistinct`), and neither has
an object of the document written for it (`Built.keysDistinct_json`).
-/

set_option autoImplicit false

namespace SequenceCheck

/-- The JSON form of a scalar has no objects. -/
theorem Value.keysDistinct_json (value : Value) : value.json.KeysDistinct := by
  cases value with
  | float x => cases x <;> simp [json, Json.KeysDistinct]
  | _ => simp [json, Json.KeysDistinct]

namespace Outline

/-- An outline made from `ofKind` step by step, of parts that were made so as well. A malformed
value has each key of an object once, as every JSON value has. -/
inductive Built : Outline → Prop
  | ofKind (kind : Kind) : Built (ofKind kind)
  | withLeaf {outline : Outline} (key : String) (value : Value) :
      Built outline → Built (outline.withArg key (.leaf value))
  | withNode {outline inner : Outline} (key : String) :
      Built outline → Built inner → Built (outline.withArg key (.node inner))
  | withMalformed {outline : Outline} {raw : Json} (key : String) :
      Built outline → raw.KeysDistinct → Built (outline.withArg key (.malformed raw))
  | withoutArg {outline : Outline} (key : String) :
      Built outline → Built (outline.withoutArg key)
  | withChildren {outline : Outline} {children : List Outline} :
      Built outline → (∀ child ∈ children, Built child) → Built (outline.withChildren children)
  | withComment {outline : Outline} (comment : String) :
      Built outline → Built (outline.withComment comment)

/-- Adding one child is adding a list of one. -/
theorem Built.withChild {outline child : Outline} (built : Built outline) (below : Built child) :
    Built (outline.withChild child) :=
  .withChildren built (List.forall_mem_singleton.2 below)

/-! ## Keys of the document of an outline -/

/-- The fields of a node are named differently. -/
theorem nodup_keys_writtenFields (kind : Kind) (args : List (String × Arg Outline Value))
    (body : List Outline) (comment : Option String) :
    (Keyed.keys (writtenFields kind args body comment)).Nodup := by
  cases body <;> cases comment <;> simp [writtenFields, bodyField, commentField]

/-- What an array holds has no repeated keys if the array has none. -/
theorem keysDistinct_array_iff {items : List Json} :
    (Json.array items).KeysDistinct ↔ ∀ item ∈ items, item.KeysDistinct := by
  rw [Json.KeysDistinct, Json.keysDistinctItems_iff]

section Written

variable {scalarOk : Value → Prop}

mutual

/-- No object of the document of an outline has a key twice if no malformed value has one that
does. -/
theorem keysDistinct_json : ∀ {outline : Outline}, outline.Every scalarOk Json.KeysDistinct →
    outline.json.KeysDistinct
  | ⟨kind, args, body, comment⟩, every => by
    rw [Every] at every
    rw [json_eq, Json.KeysDistinct, Json.keysDistinctFields_iff,
      forall_mem_writtenFields_iff Json.keysDistinct_string fun _ => keysDistinct_array_iff,
      Json.KeysDistinct, Json.keysDistinctFields_iff]
    -- The arguments are collected, so that their keys are distinct whatever those of the node are.
    refine ⟨nodup_keys_writtenFields kind args body comment,
      ⟨Keyed.nodup_keys_collect _, fun field mem => ?_⟩, keysDistinct_of_mem_body every.2⟩
    exact keysDistinct_of_mem_jsonArgs every.1 field (Keyed.mem_of_mem_collect mem)

theorem keysDistinct_of_mem_jsonArgs : ∀ {args : List (String × Arg Outline Value)},
    EveryArg scalarOk Json.KeysDistinct args → ∀ field ∈ jsonArgs args, field.2.KeysDistinct
  | [], _ => by
    rw [jsonArgs]
    exact List.forall_mem_nil _
  | (_, .node outline) :: rest, every => by
    rw [EveryArg] at every
    rw [jsonArgs, List.forall_mem_cons]
    exact ⟨keysDistinct_json every.1, keysDistinct_of_mem_jsonArgs every.2⟩
  | (_, .leaf value) :: rest, every => by
    rw [EveryArg] at every
    rw [jsonArgs, List.forall_mem_cons]
    exact ⟨value.keysDistinct_json, keysDistinct_of_mem_jsonArgs every.2⟩
  | (_, .malformed raw) :: rest, every => by
    rw [EveryArg] at every
    rw [jsonArgs, List.forall_mem_cons]
    exact ⟨every.1, keysDistinct_of_mem_jsonArgs every.2⟩

theorem keysDistinct_of_mem_body : ∀ {body : List Outline},
    EveryChild scalarOk Json.KeysDistinct body → ∀ child ∈ body, child.json.KeysDistinct
  | [], _ => List.forall_mem_nil _
  | outline :: rest, every => by
    rw [EveryChild] at every
    rw [List.forall_mem_cons]
    exact ⟨keysDistinct_json every.1, keysDistinct_of_mem_body every.2⟩

end

end Written

/-! ## What is built -/

/-- Setting an argument of a sort leaves an outline of parts of that sort. -/
theorem Every.withArg {scalarOk : Value → Prop} {rawOk : Json → Prop} {outline : Outline}
    {arg : Arg Outline Value} (key : String) (every : outline.Every scalarOk rawOk)
    (argEvery : ArgEvery scalarOk rawOk arg) : (outline.withArg key arg).Every scalarOk rawOk := by
  obtain ⟨inArgs, inBody⟩ := every_iff.1 every
  refine every_iff.2 ⟨fun entry mem => ?_, inBody⟩
  rcases Keyed.mem_of_mem_put mem with rfl | before
  · exact argEvery
  · exact inArgs entry before

/-- No malformed value of a built outline has a key twice. -/
theorem Built.every {outline : Outline} (built : Built outline) :
    outline.Every (fun _ => True) Json.KeysDistinct := by
  induction built with
  | ofKind kind => exact every_iff.2 ⟨List.forall_mem_nil _, List.forall_mem_nil _⟩
  | withLeaf key value _ ih => exact ih.withArg key trivial
  | withNode key _ _ ih inner => exact ih.withArg key inner
  | withMalformed key _ distinct ih => exact ih.withArg key distinct
  | withoutArg key _ ih =>
    obtain ⟨inArgs, inBody⟩ := every_iff.1 ih
    exact every_iff.2 ⟨fun entry mem => inArgs entry (List.mem_of_mem_filter mem), inBody⟩
  | withChildren _ _ ih children =>
    obtain ⟨inArgs, inBody⟩ := every_iff.1 ih
    refine every_iff.2 ⟨inArgs, fun child mem => ?_⟩
    rcases List.mem_append.1 mem with before | added
    · exact inBody child before
    · exact children child added
  | withComment comment _ ih =>
    obtain ⟨inArgs, inBody⟩ := every_iff.1 ih
    exact every_iff.2 ⟨inArgs, inBody⟩

/-- Setting an argument makes no key come twice. -/
theorem KeysDistinct.withArg {outline : Outline} {arg : Arg Outline Value} (key : String)
    (distinct : outline.KeysDistinct) (argDistinct : ∀ inner, arg = .node inner →
      inner.KeysDistinct) : (outline.withArg key arg).KeysDistinct := by
  obtain ⟨nodup, inArgs, inBody⟩ := distinct
  refine .node (Keyed.nodup_keys_put nodup) (fun name inner mem => ?_) inBody
  rcases Keyed.mem_of_mem_put mem with same | before
  · exact argDistinct inner (congrArg Prod.snd same).symm
  · exact inArgs name inner before

/-- No node of a built outline has a key twice. -/
theorem Built.keysDistinct {outline : Outline} (built : Built outline) :
    outline.KeysDistinct := by
  induction built with
  | ofKind kind =>
    refine .node List.nodup_nil (fun key inner mem => ?_) (List.forall_mem_nil _)
    exact absurd mem List.not_mem_nil
  | withLeaf key value _ ih =>
    refine ih.withArg key fun inner same => ?_
    cases same
  | withNode key _ _ ih inner =>
    refine ih.withArg key fun _ same => ?_
    cases same
    exact inner
  | withMalformed key _ _ ih =>
    refine ih.withArg key fun inner same => ?_
    cases same
  | withoutArg key _ ih =>
    obtain ⟨nodup, inArgs, inBody⟩ := ih
    exact .node (Keyed.nodup_keys_drop nodup)
      (fun name inner mem => inArgs name inner (List.mem_of_mem_filter mem)) inBody
  | withChildren _ _ ih children =>
    obtain ⟨nodup, inArgs, inBody⟩ := ih
    refine .node nodup inArgs fun child mem => ?_
    rcases List.mem_append.1 mem with before | added
    · exact inBody child before
    · exact children child added
  | withComment comment _ ih =>
    obtain ⟨nodup, inArgs, inBody⟩ := ih
    exact .node nodup inArgs inBody

/-- No object of the document written for a built outline has a key twice. -/
theorem Built.keysDistinct_json {outline : Outline} (built : Built outline) :
    outline.json.KeysDistinct :=
  Outline.keysDistinct_json built.every

end Outline

end SequenceCheck
