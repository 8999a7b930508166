import SequenceCheck.Outline.Encode
import SequenceCheck.Proofs.Equality
import SequenceCheck.Proofs.Outline.Grammar

/-!
# Reading back what is written

`outline.Every scalarOk rawOk` says that every leaf of an outline, at any depth, holds a scalar of
one sort, and that every malformed argument holds a JSON value of another. An outline is `Readable`
if its scalars have a JSON form and its malformed values are neither scalars nor nodes.

Main statements: a readable outline without repeated keys, written and read back, is the same
(`decode_json`), and what is read from a document is readable (`every_of_decode`) and has no
repeated keys if the document has none (`keysDistinct_of_ofJson`).
-/

set_option autoImplicit false

namespace SequenceCheck

/-! ## Scalars that have a JSON form -/

/-- A scalar is no number, or it is a finite one. -/
def Value.IsFinite : Value → Prop
  | .float (.finite _) => True
  | .float _ => False
  | _ => True

/-- A JSON integer that fits 64 bits with a sign is the integer of its scalar. -/
theorem Value.ofNumber_integer {value : Int} (inRange : -2 ^ 63 ≤ value ∧ value < 2 ^ 64)
    (fits : value < 2 ^ 63) : ofNumber (.integer value inRange) = .integer (Int64.ofInt value) := by
  rw [ofNumber, if_pos fits]

/-- A scalar is read back from its JSON form exactly if it is finite. -/
theorem Value.ofJson?_json_iff {value : Value} :
    ofJson? value.json = some value ↔ value.IsFinite := by
  cases value with
  | null => exact iff_of_true rfl trivial
  | boolean value => exact iff_of_true rfl trivial
  | string value => exact iff_of_true rfl trivial
  | integer value =>
    refine iff_of_true ?_ trivial
    -- An integer with a sign is below the numbers that only fit without one.
    rw [json, ofJson?, ofNumber_integer _ value.toInt_lt, Int64.ofInt_toInt]
  | float value =>
    cases value with
    | finite value => exact iff_of_true rfl trivial
    | nan => exact iff_of_false (fun h => by cases h) id
    | infinite negative => exact iff_of_false (fun h => by cases h) id

/-- The scalar of a JSON value is finite. -/
theorem Value.isFinite_of_ofJson? {json : Json} {value : Value}
    (read : ofJson? json = some value) : value.IsFinite := by
  cases json with
  | null => cases read; trivial
  | boolean value => cases read; trivial
  | string value => cases read; trivial
  | number number =>
    cases read
    cases number with
    | float value => trivial
    | integer value inRange =>
      rw [ofNumber]
      split <;> trivial
  | array items => cases read
  | object fields => cases read

/-- A finite scalar is no number that is not one. -/
theorem Value.IsFinite.ne_nan {value : Value} (finite : value.IsFinite) : value ≠ .float .nan := by
  rintro rfl
  exact finite

namespace Outline

/-! ## Outlines of readable parts -/

mutual

/-- Every leaf of an outline and every malformed argument is of a sort. -/
def Every (scalarOk : Value → Prop) (rawOk : Json → Prop) : Outline → Prop
  | ⟨_, args, body, _⟩ => EveryArg scalarOk rawOk args ∧ EveryChild scalarOk rawOk body

/-- Every leaf in arguments and every malformed one is of a sort. -/
def EveryArg (scalarOk : Value → Prop) (rawOk : Json → Prop) :
    List (String × Arg Outline Value) → Prop
  | [] => True
  | (_, .node outline) :: rest => outline.Every scalarOk rawOk ∧ EveryArg scalarOk rawOk rest
  | (_, .leaf value) :: rest => scalarOk value ∧ EveryArg scalarOk rawOk rest
  | (_, .malformed raw) :: rest => rawOk raw ∧ EveryArg scalarOk rawOk rest

/-- Every leaf in a body and every malformed argument is of a sort. -/
def EveryChild (scalarOk : Value → Prop) (rawOk : Json → Prop) : List Outline → Prop
  | [] => True
  | outline :: rest => outline.Every scalarOk rawOk ∧ EveryChild scalarOk rawOk rest

end

section Mono

variable {scalarOk scalarOk' : Value → Prop} {rawOk rawOk' : Json → Prop}

mutual

/-- An outline of parts of one sort is one of parts of a wider sort. -/
theorem Every.mono (scalars : ∀ value, scalarOk value → scalarOk' value)
    (raws : ∀ raw, rawOk raw → rawOk' raw) :
    ∀ {outline : Outline}, outline.Every scalarOk rawOk → outline.Every scalarOk' rawOk'
  | ⟨_, args, body, _⟩, every => by
    rw [Every] at every ⊢
    exact ⟨EveryArg.mono scalars raws every.1, EveryChild.mono scalars raws every.2⟩

theorem EveryArg.mono (scalars : ∀ value, scalarOk value → scalarOk' value)
    (raws : ∀ raw, rawOk raw → rawOk' raw) :
    ∀ {args : List (String × Arg Outline Value)}, EveryArg scalarOk rawOk args →
      EveryArg scalarOk' rawOk' args
  | [], _ => by rw [EveryArg]; trivial
  | (_, .node outline) :: rest, every => by
    rw [EveryArg] at every ⊢
    exact ⟨Every.mono scalars raws every.1, EveryArg.mono scalars raws every.2⟩
  | (_, .leaf value) :: rest, every => by
    rw [EveryArg] at every ⊢
    exact ⟨scalars value every.1, EveryArg.mono scalars raws every.2⟩
  | (_, .malformed raw) :: rest, every => by
    rw [EveryArg] at every ⊢
    exact ⟨raws raw every.1, EveryArg.mono scalars raws every.2⟩

theorem EveryChild.mono (scalars : ∀ value, scalarOk value → scalarOk' value)
    (raws : ∀ raw, rawOk raw → rawOk' raw) :
    ∀ {body : List Outline}, EveryChild scalarOk rawOk body → EveryChild scalarOk' rawOk' body
  | [], _ => by rw [EveryChild]; trivial
  | outline :: rest, every => by
    rw [EveryChild] at every ⊢
    exact ⟨Every.mono scalars raws every.1, EveryChild.mono scalars raws every.2⟩

end

end Mono

section Each

variable {scalarOk : Value → Prop} {rawOk : Json → Prop}

/-- Every leaf and every malformed argument of an argument is of a sort. -/
def ArgEvery (scalarOk : Value → Prop) (rawOk : Json → Prop) : Arg Outline Value → Prop
  | .node outline => outline.Every scalarOk rawOk
  | .leaf value => scalarOk value
  | .malformed raw => rawOk raw

theorem everyArg_iff : ∀ {args : List (String × Arg Outline Value)},
    EveryArg scalarOk rawOk args ↔ ∀ entry ∈ args, ArgEvery scalarOk rawOk entry.2
  | [] => by
    rw [EveryArg]
    exact iff_of_true trivial fun _ mem => absurd mem List.not_mem_nil
  | (_, .node outline) :: rest => by
    rw [EveryArg, List.forall_mem_cons, everyArg_iff]
    rfl
  | (_, .leaf value) :: rest => by
    rw [EveryArg, List.forall_mem_cons, everyArg_iff]
    rfl
  | (_, .malformed raw) :: rest => by
    rw [EveryArg, List.forall_mem_cons, everyArg_iff]
    rfl

theorem everyChild_iff : ∀ {body : List Outline},
    EveryChild scalarOk rawOk body ↔ ∀ child ∈ body, child.Every scalarOk rawOk
  | [] => by
    rw [EveryChild]
    exact iff_of_true trivial fun _ mem => absurd mem List.not_mem_nil
  | outline :: rest => by
    rw [EveryChild, List.forall_mem_cons, everyChild_iff]

theorem every_iff {outline : Outline} :
    outline.Every scalarOk rawOk ↔
      (∀ entry ∈ outline.args, ArgEvery scalarOk rawOk entry.2) ∧
        ∀ child ∈ outline.body, child.Every scalarOk rawOk := by
  cases outline
  rw [Every, everyArg_iff, everyChild_iff]

end Each

/-- An outline whose scalars have a JSON form and whose malformed values are neither scalars nor
nodes. -/
abbrev Readable (outline : Outline) : Prop :=
  outline.Every Value.IsFinite IsMalformed

/-! ## Written and read back -/

/-- The JSON form of an argument. -/
def jsonArg : Arg Outline Value → Json
  | .node outline => outline.json
  | .leaf value => value.json
  | .malformed raw => raw

theorem jsonArgs_eq : ∀ args : List (String × Arg Outline Value),
    jsonArgs args = args.map fun entry => (entry.1, jsonArg entry.2)
  | [] => by rw [jsonArgs, List.map_nil]
  | (_, .node outline) :: rest => by rw [jsonArgs, jsonArgs_eq, List.map_cons, jsonArg]
  | (_, .leaf value) :: rest => by rw [jsonArgs, jsonArgs_eq, List.map_cons, jsonArg]
  | (_, .malformed raw) :: rest => by rw [jsonArgs, jsonArgs_eq, List.map_cons, jsonArg]

theorem jsonBody_eq : ∀ body : List Outline, jsonBody body = body.map json
  | [] => by rw [jsonBody, List.map_nil]
  | outline :: rest => by rw [jsonBody, jsonBody_eq, List.map_cons]

/-- Arguments without repeated keys are written one by one. -/
theorem collect_jsonArgs {args : List (String × Arg Outline Value)}
    (nodup : (Keyed.keys args).Nodup) : Keyed.collect (jsonArgs args) = jsonArgs args := by
  apply Keyed.collect_of_nodup
  rw [jsonArgs_eq, Keyed.keys, List.map_map]
  exact nodup

/-- The field for a body, unless it is empty. -/
def bodyField (body : List Outline) : List (String × Json) :=
  if body.isEmpty then [] else [("body", .array (jsonBody body))]

/-- The field for a comment, if there is one. -/
def commentField : Option String → List (String × Json)
  | some text => [("comment", .string text)]
  | none => []

section Fields

variable (kind : Kind) (args : List (String × Arg Outline Value)) (body : List Outline)
  (comment : Option String) (path : Path)

/-- The fields that a node is written with. -/
def writtenFields : List (String × Json) :=
  ("kind", .string kind.name) :: ("args", .object (Keyed.collect (jsonArgs args))) ::
    (bodyField body ++ commentField comment)

theorem json_eq :
    (Outline.mk kind args body comment).json = .object (writtenFields kind args body comment) := by
  cases comment with
  | none => rw [json]; rfl
  | some text => rw [json]; rfl

theorem decodeComment_writtenFields :
    decodeComment (writtenFields kind args body comment) = comment := by
  cases comment <;> cases body <;> rfl

variable [Json.Format]

theorem decodeKind_writtenFields :
    decodeKind path (writtenFields kind args body comment) = .ok kind := by
  rw [decodeKind, writtenFields, List.lookup_cons_self]
  simp only [Kind.ofName?_name]

theorem decodeArgsField_writtenFields :
    decodeArgsField path (writtenFields kind args body comment) =
      decodeArgs path (Keyed.collect (jsonArgs args)) := by
  rw [decodeArgsField_eq]
  rfl

theorem decodeBodyField_writtenFields :
    decodeBodyField path (writtenFields kind args body comment) =
      decodeBody path 0 (jsonBody body) := by
  rw [decodeBodyField_eq]
  cases body with
  | cons child rest => rfl
  | nil => cases comment <;> rw [jsonBody, decodeBody] <;> rfl

end Fields

theorem isObject_json (outline : Outline) : outline.json.isObject = true := by
  rcases outline with ⟨kind, args, body, comment⟩
  rw [json_eq]
  rfl

theorem ofJson?_json (outline : Outline) : Value.ofJson? outline.json = none := by
  rcases outline with ⟨kind, args, body, comment⟩
  rw [json_eq]
  rfl

theorem namesKind_json (outline : Outline) : namesKind outline.json = true := by
  rcases outline with ⟨kind, args, body, comment⟩
  rw [json_eq]
  simp [namesKind, writtenFields, Json.field?, Json.text?]

section Read

variable [Json.Format]

mutual

/-- A readable outline without repeated keys, written and read back, is the same. -/
theorem decode_json : ∀ (outline : Outline) (path : Path), outline.Readable →
    outline.KeysDistinct → decode path outline.json = .ok outline
  | ⟨kind, args, body, comment⟩, path, readable, distinct => by
    rw [Readable, Every] at readable
    obtain ⟨inArgs, inBody⟩ := readable
    obtain ⟨nodup, argsDistinct, bodyDistinct⟩ := distinct
    -- Each part is read from the field that it was written to.
    rw [json_eq, decode, decodeKind_writtenFields, decodeArgsField_writtenFields,
      decodeBodyField_writtenFields, decodeComment_writtenFields, collect_jsonArgs nodup,
      decodeArgs_jsonArgs args path inArgs argsDistinct,
      decodeBody_jsonBody body path 0 inBody bodyDistinct]
    rfl

theorem decodeArgs_jsonArgs : ∀ (args : List (String × Arg Outline Value)) (path : Path),
    EveryArg Value.IsFinite IsMalformed args →
      (∀ key inner, (key, Arg.node inner) ∈ args → inner.KeysDistinct) →
      decodeArgs path (jsonArgs args) = .ok args
  | [], path, _, _ => by rw [jsonArgs, decodeArgs]
  | (key, .node outline) :: rest, path, readable, distinct => by
    rw [EveryArg] at readable
    have later := decodeArgs_jsonArgs rest path readable.2
      fun key inner mem => distinct key inner (List.mem_cons_of_mem _ mem)
    -- What an outline is written as is no scalar and names a kind.
    have arg : decodeArg path key outline.json = .ok (.node outline) := by
      rw [decodeArg, ofJson?_json, namesKind_json,
        decode_json outline _ readable.1 (distinct key outline List.mem_cons_self)]
      rfl
    rw [jsonArgs, decodeArgs_cons, arg, later]
    rfl
  | (key, .leaf value) :: rest, path, readable, distinct => by
    rw [EveryArg] at readable
    have later := decodeArgs_jsonArgs rest path readable.2
      fun key inner mem => distinct key inner (List.mem_cons_of_mem _ mem)
    have arg : decodeArg path key value.json = .ok (.leaf value) := by
      rw [decodeArg, Value.ofJson?_json_iff.2 readable.1]
    rw [jsonArgs, decodeArgs_cons, arg, later]
    rfl
  | (key, .malformed raw) :: rest, path, readable, distinct => by
    rw [EveryArg] at readable
    have later := decodeArgs_jsonArgs rest path readable.2
      fun key inner mem => distinct key inner (List.mem_cons_of_mem _ mem)
    have arg : decodeArg path key raw = .ok (.malformed raw) := by
      rw [decodeArg, readable.1.1, readable.1.2]
      rfl
    rw [jsonArgs, decodeArgs_cons, arg, later]
    rfl

theorem decodeBody_jsonBody : ∀ (body : List Outline) (path : Path) (index : Nat),
    EveryChild Value.IsFinite IsMalformed body → (∀ child ∈ body, child.KeysDistinct) →
      decodeBody path index (jsonBody body) = .ok body
  | [], path, index, _, _ => by rw [jsonBody, decodeBody]
  | outline :: rest, path, index, readable, distinct => by
    rw [EveryChild] at readable
    have later := decodeBody_jsonBody rest path (index + 1) readable.2
      (List.forall_mem_of_forall_mem_cons distinct)
    have child : decodeChild path index outline.json = .ok outline := by
      rw [decodeChild, if_pos outline.isObject_json,
        decode_json outline _ readable.1 (distinct outline List.mem_cons_self)]
    rw [jsonBody, decodeBody_cons, child, later]
    rfl

end

end Read

/-! ## What is read is readable -/

/-- What holds of an object holds of everything under its fields `args` and `body`. -/
def IsInherited (heir : Json → Prop) : Prop :=
  ∀ fields, heir (.object fields) →
    (∀ entries, fields.lookup "args" = some (.object entries) → ∀ entry ∈ entries, heir entry.2) ∧
      ∀ items, fields.lookup "body" = some (.array items) → ∀ item ∈ items, heir item

/-- An object without repeated keys has none in the values of its fields. -/
theorem isInherited_keysDistinct : IsInherited Json.KeysDistinct := by
  intro fields distinct
  refine ⟨fun entries found entry mem => ?_, fun items found item mem => ?_⟩
  · have inObject := Json.keysDistinct_of_lookup distinct found
    rw [Json.KeysDistinct] at inObject
    exact Json.keysDistinctFields_iff.1 inObject.2 entry mem
  · have inArray := Json.keysDistinct_of_lookup distinct found
    rw [Json.KeysDistinct] at inArray
    exact Json.keysDistinctItems_iff.1 inArray item mem

variable [Json.Format]

/-- What is read from a document has scalars with a JSON form, and malformed values as they were
received: they have every property that the document hands down to them. -/
theorem every_of_ofJson {heir : Json → Prop} (inherited : IsInherited heir) {json : Json}
    {outline : Outline} (holds : heir json) (read : ofJson json = .ok outline) :
    outline.Every Value.IsFinite fun raw => IsMalformed raw ∧ heir raw := by
  induction json using Json.induct_parts generalizing outline with
  | other json noObject =>
    obtain ⟨fields, rfl, -⟩ := exists_object_of_decode read
    cases noObject
  | object fields inArgs inBody =>
    obtain ⟨-, args, body, -⟩ := ofJson_object_eq_ok_iff.1 read
    obtain ⟨heirArgs, heirBody⟩ := inherited fields holds
    refine every_iff.2 ⟨fun entry mem => ?_, fun child mem => ?_⟩
    · obtain ⟨entries, part, field, inFields, describes⟩ := args.exists_field mem
      have received := heirArgs _ part field inFields
      cases describes with
      | leaf found => exact Value.isFinite_of_ofJson? found
      | node inner => exact inArgs _ part _ inFields received inner
      | malformed kindless => exact ⟨isMalformed_iff.2 kindless, received⟩
    · obtain ⟨items, part, item, inItems, inner⟩ := body.exists_item mem
      exact inBody _ part item inItems (heirBody _ part item inItems) inner

/-- What is read is readable again. -/
theorem readable_of_ofJson {json : Json} {outline : Outline} (read : ofJson json = .ok outline) :
    outline.Readable :=
  have anything : IsInherited fun _ => True :=
    fun _ _ => ⟨fun _ _ _ _ => trivial, fun _ _ _ _ => trivial⟩
  have every := every_of_ofJson anything trivial read
  every.mono (fun _ finite => finite) fun _ received => received.1

/-- What is read from a document without repeated keys has none. -/
theorem keysDistinct_of_ofJson {json : Json} {outline : Outline} (distinct : json.KeysDistinct)
    (read : ofJson json = .ok outline) : outline.KeysDistinct := by
  induction json using Json.induct_parts generalizing outline with
  | other json noObject =>
    obtain ⟨fields, rfl, -⟩ := exists_object_of_decode read
    cases noObject
  | object fields inArgs inBody =>
    obtain ⟨-, args, body, -⟩ := ofJson_object_eq_ok_iff.1 read
    obtain ⟨argsDistinct, bodyDistinct⟩ := isInherited_keysDistinct fields distinct
    refine .node ?_ (fun key inner mem => ?_) fun child mem => ?_
    · generalize part : fields.lookup "args" = value at args
      generalize outline.args = written at args
      cases args with
      | absent => exact List.nodup_nil
      | null => exact List.nodup_nil
      | object related =>
        have nodup := Json.keysDistinct_of_lookup distinct part
        rw [Json.KeysDistinct] at nodup
        have keys := map_eq_map_of_forall₂ (f := Prod.fst) (g := Prod.fst) related
          fun _ _ _ describes => describes.fst_eq
        rw [Keyed.keys, ← keys]
        exact nodup.1
    · obtain ⟨entries, part, field, inFields, describes⟩ := args.exists_field mem
      cases describes with
      | node read => exact inArgs entries part _ inFields (argsDistinct _ part _ inFields) read
    · obtain ⟨items, part, item, inItems, inner⟩ := body.exists_item mem
      exact inBody items part item inItems (bodyDistinct items part item inItems) inner

/-- A malformed value that was received in a document without repeated keys. -/
def IsReceived (raw : Json) : Prop :=
  IsMalformed raw ∧ raw.KeysDistinct

/-- What is read from a document without repeated keys has scalars with a JSON form, and malformed
values as they were received. -/
theorem every_of_decode {json : Json} {path : Path} {outline : Outline}
    (distinct : json.KeysDistinct) (read : decode path json = .ok outline) :
    outline.Every Value.IsFinite IsReceived :=
  every_of_ofJson isInherited_keysDistinct distinct ((isPlaceless json path outline).1 read)

end Outline

end SequenceCheck
