import SequenceCheck.Proofs.Outline.Built

/-!
# How deep the document of an outline is nested

The document written for an outline opens an object for each node on the way down, and one more
container for the arguments or the body that the next node stands in. The arguments are written even
if there are none, so the last node on the way opens a second container as well, which the document
that was read need not have.

Main statement: if a document is nested no more than some bound, then so is the document written for
its outline exactly if twice the height of the outline is within the bound
(`nesting_json_le_iff_of_ofJson`).
-/

set_option autoImplicit false

namespace SequenceCheck.Outline

mutual

/-- How many nodes there are on the longest way down, the first one included. -/
def height : Outline → Nat
  | ⟨_, args, body, _⟩ => max (heightArgs args) (heightBody body) + 1

/-- The greatest height of a node among arguments. -/
def heightArgs : List (String × Arg Outline Value) → Nat
  | [] => 0
  | (_, .node outline) :: rest => max outline.height (heightArgs rest)
  | (_, .leaf _) :: rest => heightArgs rest
  | (_, .malformed _) :: rest => heightArgs rest

/-- The greatest height of a node in a body. -/
def heightBody : List Outline → Nat
  | [] => 0
  | outline :: rest => max outline.height (heightBody rest)

end

/-- The height of an argument, if it is a node. -/
def argHeight : Arg Outline Value → Nat
  | .node outline => outline.height
  | .leaf _ => 0
  | .malformed _ => 0

theorem heightArgs_le_iff {n : Nat} : ∀ {args : List (String × Arg Outline Value)},
    heightArgs args ≤ n ↔ ∀ entry ∈ args, argHeight entry.2 ≤ n
  | [] => by
    rw [heightArgs]
    exact iff_of_true (Nat.zero_le n) (List.forall_mem_nil _)
  | (_, .node outline) :: rest => by
    rw [heightArgs, Nat.max_le, List.forall_mem_cons, heightArgs_le_iff, argHeight]
  | (_, .leaf _) :: rest => by
    rw [heightArgs, List.forall_mem_cons, heightArgs_le_iff, argHeight]
    exact (and_iff_right (Nat.zero_le n)).symm
  | (_, .malformed _) :: rest => by
    rw [heightArgs, List.forall_mem_cons, heightArgs_le_iff, argHeight]
    exact (and_iff_right (Nat.zero_le n)).symm

theorem heightBody_le_iff {n : Nat} : ∀ {body : List Outline},
    heightBody body ≤ n ↔ ∀ child ∈ body, child.height ≤ n
  | [] => by
    rw [heightBody]
    exact iff_of_true (Nat.zero_le n) (List.forall_mem_nil _)
  | outline :: rest => by rw [heightBody, Nat.max_le, List.forall_mem_cons, heightBody_le_iff]

/-- Each node on the way down counts two. -/
theorem two_mul_height_le_iff {outline : Outline} {n : Nat} :
    2 * outline.height ≤ n + 2 ↔
      (∀ entry ∈ outline.args, 2 * argHeight entry.2 ≤ n) ∧
        ∀ child ∈ outline.body, 2 * child.height ≤ n := by
  have halves : ∀ k : Nat, 2 * k ≤ n ↔ k ≤ n / 2 := by omega
  rcases outline with ⟨kind, args, body, comment⟩
  have root : 2 * (max (heightArgs args) (heightBody body) + 1) ≤ n + 2 ↔
      heightArgs args ≤ n / 2 ∧ heightBody body ≤ n / 2 := by omega
  simp only [halves]
  rw [height, root, heightArgs_le_iff, heightBody_le_iff]

/-- The document of an outline has its arguments and its body two levels down. -/
theorem nesting_json_le_iff {outline : Outline} (nodup : (Keyed.keys outline.args).Nodup)
    {n : Nat} :
    outline.json.nesting ≤ n + 2 ↔
      (∀ entry ∈ outline.args, (jsonArg entry.2).nesting ≤ n) ∧
        ∀ child ∈ outline.body, child.json.nesting ≤ n := by
  rcases outline with ⟨kind, args, body, comment⟩
  have entries : (Json.object (Keyed.collect (jsonArgs args))).nesting ≤ n + 1 ↔
      ∀ entry ∈ args, (jsonArg entry.2).nesting ≤ n := by
    rw [collect_jsonArgs nodup, Json.nesting, Nat.add_le_add_iff_right,
      Json.nestingFields_le_iff, jsonArgs_eq, List.forall_mem_map]
  have arrays : ∀ items, (Json.array items).nesting ≤ n + 1 ↔
      ∀ item ∈ items, item.nesting ≤ n := by
    intro items
    rw [Json.nesting, Nat.add_le_add_iff_right, Json.nestingItems_le_iff]
  have texts : ∀ text, (Json.string text).nesting ≤ n + 1 := by
    intro text
    rw [Json.nesting]
    exact Nat.zero_le _
  rw [json_eq, Json.nesting, Nat.add_le_add_iff_right, Json.nestingFields_le_iff, ← entries]
  exact forall_mem_writtenFields_iff (p := fun json => json.nesting ≤ n + 1) texts arrays

/-- The document of an outline has a container for the arguments. -/
theorem two_le_nesting_json (outline : Outline) : 2 ≤ outline.json.nesting := by
  rcases outline with ⟨kind, args, body, comment⟩
  have found : (writtenFields kind args body comment).lookup "args" =
      some (.object (Keyed.collect (jsonArgs args))) := rfl
  have inner := Json.nesting_lt_of_lookup found
  rw [Json.nesting] at inner
  rw [json_eq]
  omega

theorem nesting_json_value (value : Value) : value.json.nesting = 0 := by
  cases value with
  | float x => cases x <;> simp only [Value.json, Json.nesting]
  | _ => rw [Value.json, Json.nesting]

/-- What stands in the field of an object that is a container is nested two less than the object. -/
theorem nesting_le_of_mem_args {fields entries : List (String × Json)} {field : String × Json}
    {n : Nat} (part : fields.lookup "args" = some (.object entries)) (mem : field ∈ entries)
    (le : (Json.object fields).nesting ≤ n + 2) : field.2.nesting ≤ n := by
  have inner := Json.nesting_lt_of_lookup part
  rw [Json.nesting] at inner
  exact Json.nestingFields_le_iff.1 (by omega) field mem

theorem nesting_le_of_mem_body {fields : List (String × Json)} {items : List Json} {item : Json}
    {n : Nat} (part : fields.lookup "body" = some (.array items)) (mem : item ∈ items)
    (le : (Json.object fields).nesting ≤ n + 2) : item.nesting ≤ n := by
  have inner := Json.nesting_lt_of_lookup part
  rw [Json.nesting] at inner
  exact Json.nestingItems_le_iff.1 (by omega) item mem

section Read

variable [Json.Format]

/-- If a document without repeated keys is nested no more than a bound, the document written for
what was read of it is so exactly if every node leaves room for two containers. -/
theorem nesting_json_le_iff_of_ofJson {json : Json} {outline : Outline} {n : Nat}
    (distinct : json.KeysDistinct) (read : ofJson json = .ok outline) (le : json.nesting ≤ n) :
    outline.json.nesting ≤ n ↔ 2 * outline.height ≤ n := by
  induction json using Json.induct_parts generalizing outline n with
  | other json noObject =>
    obtain ⟨fields, rfl, -⟩ := exists_object_of_decode read
    cases noObject
  | object fields inArgs inBody =>
    obtain ⟨nodup, -, -⟩ := keysDistinct_of_ofJson distinct read
    obtain ⟨argsDistinct, bodyDistinct⟩ := isInherited_keysDistinct fields distinct
    obtain ⟨-, args, body, -⟩ := ofJson_object_eq_ok_iff.1 read
    have positive : 1 ≤ outline.height := by
      rcases outline with ⟨kind, args, body, comment⟩
      rw [height]
      omega
    have two := outline.two_le_nesting_json
    -- Within fewer than two containers there is neither the document of a node nor a height of one.
    by_cases room : n < 2
    · omega
    · obtain ⟨n, rfl⟩ := Nat.exists_eq_add_of_le' (Nat.not_lt.1 room)
      rw [nesting_json_le_iff nodup, two_mul_height_le_iff]
      refine and_congr (forall₂_congr fun entry mem => ?_) (forall₂_congr fun child mem => ?_)
      · obtain ⟨entries, part, field, inFields, describes⟩ := args.exists_field mem
        have within := nesting_le_of_mem_args part inFields le
        -- Only a node adds containers: a scalar has none, and a malformed value is written as it
        -- was received.
        cases describes with
        | leaf found => simp only [jsonArg, argHeight, nesting_json_value, Nat.mul_zero]
        | node inner =>
          exact inArgs entries part _ inFields (argsDistinct _ part _ inFields) inner within
        | malformed kindless => exact iff_of_true within (Nat.zero_le n)
      · obtain ⟨items, part, item, inItems, inner⟩ := body.exists_item mem
        have within := nesting_le_of_mem_body part inItems le
        exact inBody items part item inItems (bodyDistinct _ part _ inItems) inner within

/-- What was read from a document without repeated keys is written without them. -/
theorem keysDistinct_json_of_ofJson {json : Json} {outline : Outline}
    (distinct : json.KeysDistinct) (read : ofJson json = .ok outline) :
    outline.json.KeysDistinct :=
  have every := every_of_decode distinct read
  keysDistinct_json (every.mono (fun _ finite => finite) fun _ received => received.2)

end Read

end SequenceCheck.Outline
