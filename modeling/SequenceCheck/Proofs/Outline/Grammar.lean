import SequenceCheck.Proofs.Json.Objects
import SequenceCheck.Proofs.Outline.Parts
import SequenceCheck.Proofs.RelatedLists

/-!
# The grammar of documents

`Json.IsNode` says which JSON values describe a node. It is an inductive definition beside the
reading of outlines: it names no error and no order of tests.

An object that describes a node is known by its fields `kind`, `args`, `body` and `comment`
(`ofJson_object_eq_ok_iff`), and what is read does not depend on where it stands (`isPlaceless`).
Facts about all documents are proved from that by `Json.induct_parts`, whose step goes from what
stands under `args` and `body` to the object.

Main statement: what can be read is exactly what the grammar has (`exists_ofJson_eq_ok_iff`).
-/

set_option autoImplicit false

namespace SequenceCheck

/-! ## Induction over documents -/

namespace Json

/-- Induction from the arguments and the body that an object may describe to the object. -/
@[elab_as_elim]
theorem induct_parts {motive : Json → Prop}
    (object : ∀ fields,
      (∀ entries, fields.lookup "args" = some (.object entries) →
        ∀ entry ∈ entries, motive entry.2) →
      (∀ items, fields.lookup "body" = some (.array items) → ∀ item ∈ items, motive item) →
      motive (.object fields))
    (other : ∀ json : Json, json.isObject = false → motive json) (json : Json) : motive json := by
  cases json with
  | object fields =>
    refine object fields (fun entries found entry mem => ?_) fun items found item mem => ?_
    · exact induct_parts object other entry.2
    · exact induct_parts object other item
  | _ => exact other _ rfl
termination_by sizeOf json
decreasing_by
  · exact sizeOf_lt_of_mem_object found mem
  · exact sizeOf_lt_of_mem_array found mem

end Json

/-! ## What describes the parts of a node -/

/-- An object whose field `kind` is the name of a kind. -/
inductive Json.NamesKind : Json → Prop
  | object {fields : List (String × Json)} (kind : Kind) :
      fields.lookup "kind" = some (.string kind.name) → NamesKind (.object fields)

/-- What names a kind is an object. -/
theorem Json.NamesKind.isObject {json : Json} (names : json.NamesKind) : json.isObject = true := by
  cases names
  rfl

/-- An array, or an object whose field `kind` is not the name of a kind. -/
inductive Json.IsKindless : Json → Prop
  | array (items : List Json) : IsKindless (.array items)
  | object {fields : List (String × Json)} :
      (∀ kind : Kind, fields.lookup "kind" ≠ some (.string kind.name)) → IsKindless (.object fields)

section Parts

variable {ν l : Type} (node : Json → ν → Prop) (leaf : Json → l → Prop)

/-- A field of an object describes an argument under its key, given what describes nodes and what
describes leaves. What has no kind, an array or an object, stands for itself. -/
inductive EntryDescribes : String × Json → String × Arg ν l → Prop
  | leaf {key : String} {value : Json} {held : l} :
      leaf value held → EntryDescribes (key, value) (key, .leaf held)
  | node {key : String} {value : Json} {below : ν} :
      node value below → EntryDescribes (key, value) (key, .node below)
  | malformed {key : String} {raw : Json} :
      raw.IsKindless → EntryDescribes (key, raw) (key, .malformed raw)

/-- A field for the arguments of a node describes them: if it is left out or null there are none,
and otherwise it is an object with one field for each, in order. -/
inductive ArgsDescribe : Option Json → List (String × Arg ν l) → Prop
  | absent : ArgsDescribe none []
  | null : ArgsDescribe (some .null) []
  | object {entries : List (String × Json)} {args : List (String × Arg ν l)} :
      List.Forall₂ (EntryDescribes node leaf) entries args →
      ArgsDescribe (some (.object entries)) args

/-- A field for the body of a node describes it: if it is left out or null the body is empty, and
otherwise it is an array with one item for each child, in order. -/
inductive BodyDescribes : Option Json → List ν → Prop
  | absent : BodyDescribes none []
  | null : BodyDescribes (some .null) []
  | array {items : List Json} {body : List ν} :
      List.Forall₂ node items body → BodyDescribes (some (.array items)) body

variable {node leaf}

theorem EntryDescribes.fst_eq {field : String × Json} {entry : String × Arg ν l}
    (describes : EntryDescribes node leaf field entry) : field.1 = entry.1 := by
  cases describes <;> rfl

theorem ArgsDescribe.none_iff {args : List (String × Arg ν l)} :
    ArgsDescribe node leaf none args ↔ args = [] := by
  constructor
  · intro describes
    cases describes
    rfl
  · rintro rfl
    exact .absent

theorem ArgsDescribe.null_iff {args : List (String × Arg ν l)} :
    ArgsDescribe node leaf (some .null) args ↔ args = [] := by
  constructor
  · intro describes
    cases describes
    rfl
  · rintro rfl
    exact .null

theorem ArgsDescribe.object_iff {entries : List (String × Json)}
    {args : List (String × Arg ν l)} :
    ArgsDescribe node leaf (some (.object entries)) args ↔
      List.Forall₂ (EntryDescribes node leaf) entries args := by
  constructor
  · intro describes
    cases describes with
    | object related => exact related
  · exact .object

theorem BodyDescribes.none_iff {body : List ν} : BodyDescribes node none body ↔ body = [] := by
  constructor
  · intro describes
    cases describes
    rfl
  · rintro rfl
    exact .absent

theorem BodyDescribes.null_iff {body : List ν} :
    BodyDescribes node (some .null) body ↔ body = [] := by
  constructor
  · intro describes
    cases describes
    rfl
  · rintro rfl
    exact .null

theorem BodyDescribes.array_iff {items : List Json} {body : List ν} :
    BodyDescribes node (some (.array items)) body ↔ List.Forall₂ node items body := by
  constructor
  · intro describes
    cases describes with
    | array related => exact related
  · exact .array

/-- Every argument that is described is so by a field of an object. -/
theorem ArgsDescribe.exists_field {part : Option Json} {args : List (String × Arg ν l)}
    (describes : ArgsDescribe node leaf part args) {entry : String × Arg ν l}
    (mem : entry ∈ args) :
    ∃ entries, part = some (.object entries) ∧
      ∃ field ∈ entries, EntryDescribes node leaf field entry := by
  cases describes with
  | absent => exact absurd mem List.not_mem_nil
  | null => exact absurd mem List.not_mem_nil
  | object related => exact ⟨_, rfl, exists_of_forall₂_mem related.flip mem⟩

/-- Every child that is described is so by an item of an array. -/
theorem BodyDescribes.exists_item {part : Option Json} {body : List ν}
    (describes : BodyDescribes node part body) {child : ν} (mem : child ∈ body) :
    ∃ items, part = some (.array items) ∧ ∃ item ∈ items, node item child := by
  cases describes with
  | absent => exact absurd mem List.not_mem_nil
  | null => exact absurd mem List.not_mem_nil
  | array related => exact ⟨_, rfl, exists_of_forall₂_mem related.flip mem⟩

end Parts

namespace Outline

/-! ## Which objects are nodes -/

/-- A value is taken for a node if it names a kind. -/
theorem namesKind_iff {json : Json} : namesKind json = true ↔ json.NamesKind := by
  rw [namesKind, Option.isSome_iff_exists]
  simp only [Option.bind_eq_some_iff]
  constructor
  · rintro ⟨kind, name, ⟨value, found, text⟩, named⟩
    cases json with
    | object fields =>
      cases value with
      | string held =>
        cases text
        refine .object kind ?_
        rw [Kind.name_of_ofName?_eq_some named]
        exact found
      | _ => cases text
    | _ => cases found
  · rintro ⟨kind, found⟩
    exact ⟨kind, kind.name, ⟨_, found, rfl⟩, Kind.ofName?_name kind⟩

instance (json : Json) : Decidable json.NamesKind :=
  decidable_of_iff (namesKind json = true) namesKind_iff

/-- What is neither a scalar nor a node is an array or an object that has no kind. -/
theorem isMalformed_iff {raw : Json} : IsMalformed raw ↔ raw.IsKindless := by
  rw [IsMalformed, ← Bool.not_eq_true, namesKind_iff]
  constructor
  · rintro ⟨noScalar, unnamed⟩
    cases raw with
    | array items => exact .array items
    | object fields => exact .object fun kind found => unnamed (.object kind found)
    | _ => cases noScalar
  · intro kindless
    cases kindless with
    | array items => exact ⟨rfl, fun names => by cases names⟩
    | object unnamed =>
      refine ⟨rfl, fun names => ?_⟩
      cases names with
      | object kind found => exact unnamed kind found

/-! ## What is read of an object -/

/-- A reading in steps has a result if every step has one. -/
theorem bind_eq_ok_iff {ε α β : Type} {first : Except ε α} {next : α → Except ε β} {result : β} :
    (first >>= next) = .ok result ↔ ∃ a, first = .ok a ∧ next a = .ok result := by
  constructor
  · exact exists_of_bind_eq_ok
  · rintro ⟨a, rfl, later⟩
    exact later

variable [Json.Format]

theorem decodeKind_eq_ok_iff {path : Path} {fields : List (String × Json)} {kind : Kind} :
    decodeKind path fields = .ok kind ↔ fields.lookup "kind" = some (.string kind.name) := by
  rw [decodeKind]
  constructor
  · intro read
    split at read
    · cases read
    · cases read
    · rename_i name found
      split at read
      · rename_i named
        cases read
        rw [found, Kind.name_of_ofName?_eq_some named]
      · cases read
    · cases read
  · intro found
    rw [found]
    simp only [Kind.ofName?_name]

/-- The node that an object describes, part by part. -/
theorem decode_object_eq_ok_iff {path : Path} {fields : List (String × Json)} {outline : Outline} :
    decode path (.object fields) = .ok outline ↔
      fields.lookup "kind" = some (.string outline.kind.name) ∧
      decodeArgsField path fields = .ok outline.args ∧
      decodeBodyField path fields = .ok outline.body ∧
      outline.comment = decodeComment fields := by
  rw [decode, bind_eq_ok_iff]
  simp only [bind_eq_ok_iff, decodeKind_eq_ok_iff]
  constructor
  · rintro ⟨kind, named, args, inArgs, body, inBody, same⟩
    cases same
    exact ⟨named, inArgs, inBody, rfl⟩
  · rintro ⟨named, inArgs, inBody, comment⟩
    cases outline
    refine ⟨_, named, _, inArgs, _, inBody, ?_⟩
    rw [← comment]

/-- Only an object is read as a node, and then it names a kind. -/
theorem exists_object_of_decode {path : Path} {json : Json} {outline : Outline}
    (read : decode path json = .ok outline) :
    ∃ fields, json = .object fields ∧
      fields.lookup "kind" = some (.string outline.kind.name) := by
  cases json with
  | object fields => exact ⟨fields, rfl, (decode_object_eq_ok_iff.1 read).1⟩
  | _ => cases read

/-- A JSON value is read as a node. -/
abbrev ReadsNode (json : Json) (outline : Outline) : Prop :=
  ofJson json = .ok outline

/-- A JSON value is read as a scalar. -/
abbrev ReadsLeaf (json : Json) (scalar : Value) : Prop :=
  Value.ofJson? json = some scalar

/-- What is read as a node does not depend on where it stands. -/
def IsPlaceless (json : Json) : Prop :=
  ∀ path outline, decode path json = .ok outline ↔ ofJson json = .ok outline

/-- An argument is read as described. -/
theorem decodeArg_eq_ok_iff {path : Path} {key : String} {value : Json} {arg : Arg Outline Value}
    (placeless : IsPlaceless value) :
    decodeArg path key value = .ok arg ↔
      EntryDescribes ReadsNode ReadsLeaf (key, value) (key, arg) := by
  constructor
  · intro read
    rcases decodeArg_cases read with ⟨scalar, found, rfl⟩ | ⟨outline, inner, rfl⟩ | ⟨malformed, rfl⟩
    · exact .leaf found
    · exact .node ((placeless _ _).1 inner)
    · exact .malformed (isMalformed_iff.1 malformed)
  · intro describes
    rw [decodeArg]
    cases describes with
    | leaf found => rw [found]
    | node inner =>
      obtain ⟨fields, rfl, named⟩ := exists_object_of_decode inner
      have names := namesKind_iff.2 (.object _ named)
      have placed := (placeless (path ++ [Step.arg key]) _).2 inner
      rw [names, placed]
      rfl
    | malformed kindless =>
      obtain ⟨noScalar, unnamed⟩ := isMalformed_iff.2 kindless
      rw [noScalar, unnamed]
      rfl

/-- Arguments are read as described. -/
theorem decodeArgs_eq_ok_iff {path : Path} :
    ∀ {entries : List (String × Json)} {args : List (String × Arg Outline Value)},
      (∀ entry ∈ entries, IsPlaceless entry.2) →
      (decodeArgs path entries = .ok args ↔
        List.Forall₂ (EntryDescribes ReadsNode ReadsLeaf) entries args)
  | [], args, _ => by
    rw [decodeArgs, List.forall₂_nil_left_iff, Except.ok.injEq, eq_comm]
  | (key, value) :: entries, args, placeless => by
    have first := placeless _ List.mem_cons_self
    have later : ∀ entry ∈ entries, IsPlaceless entry.2 := fun entry mem =>
      placeless entry (List.mem_cons_of_mem _ mem)
    rw [decodeArgs_cons, bind_eq_ok_iff, List.forall₂_cons_left_iff]
    simp only [bind_eq_ok_iff, decodeArg_eq_ok_iff first, decodeArgs_eq_ok_iff later]
    constructor
    · rintro ⟨arg, here, rest, others, same⟩
      cases same
      exact ⟨(key, arg), rest, here, others, rfl⟩
    · rintro ⟨⟨other, arg⟩, rest, here, others, rfl⟩
      obtain rfl : key = other := here.fst_eq
      exact ⟨arg, here, rest, others, rfl⟩

/-- A body is read as described. -/
theorem decodeBody_eq_ok_iff {path : Path} :
    ∀ {items : List Json} {index : Nat} {body : List Outline},
      (∀ item ∈ items, IsPlaceless item) →
      (decodeBody path index items = .ok body ↔
        List.Forall₂ ReadsNode items body)
  | [], index, body, _ => by
    rw [decodeBody, List.forall₂_nil_left_iff, Except.ok.injEq, eq_comm]
  | item :: items, index, body, placeless => by
    have first := placeless _ List.mem_cons_self
    have later : ∀ other ∈ items, IsPlaceless other := fun other mem =>
      placeless other (List.mem_cons_of_mem _ mem)
    rw [decodeBody_cons, bind_eq_ok_iff, List.forall₂_cons_left_iff]
    simp only [bind_eq_ok_iff, decodeBody_eq_ok_iff later]
    constructor
    · rintro ⟨child, here, rest, others, same⟩
      cases same
      exact ⟨child, rest, (first _ _).1 (decode_of_decodeChild here), others, rfl⟩
    · rintro ⟨child, rest, here, others, rfl⟩
      obtain ⟨fields, rfl, -⟩ := exists_object_of_decode here
      refine ⟨child, ?_, rest, others, rfl⟩
      exact (first (path ++ [Step.child index]) child).2 here

/-- The field for the arguments is read as described. -/
theorem decodeArgsField_eq_ok_iff {path : Path} {fields : List (String × Json)}
    {args : List (String × Arg Outline Value)}
    (placeless : ∀ entries, fields.lookup "args" = some (.object entries) →
      ∀ entry ∈ entries, IsPlaceless entry.2) :
    decodeArgsField path fields = .ok args ↔
      ArgsDescribe ReadsNode ReadsLeaf (fields.lookup "args") args := by
  rw [decodeArgsField_eq]
  cases found : fields.lookup "args" with
  | none =>
    dsimp only
    rw [ArgsDescribe.none_iff, Except.ok.injEq, eq_comm]
  | some value =>
    cases value with
    | null =>
      dsimp only
      rw [ArgsDescribe.null_iff, Except.ok.injEq, eq_comm]
    | object entries =>
      rw [ArgsDescribe.object_iff]
      exact decodeArgs_eq_ok_iff (placeless entries found)
    | _ => exact iff_of_false (fun read => by cases read) fun describes => by cases describes

/-- The field for the body is read as described. -/
theorem decodeBodyField_eq_ok_iff {path : Path} {fields : List (String × Json)}
    {body : List Outline}
    (placeless : ∀ items, fields.lookup "body" = some (.array items) →
      ∀ item ∈ items, IsPlaceless item) :
    decodeBodyField path fields = .ok body ↔
      BodyDescribes ReadsNode (fields.lookup "body") body := by
  rw [decodeBodyField_eq]
  cases found : fields.lookup "body" with
  | none =>
    dsimp only
    rw [BodyDescribes.none_iff, Except.ok.injEq, eq_comm]
  | some value =>
    cases value with
    | null =>
      dsimp only
      rw [BodyDescribes.null_iff, Except.ok.injEq, eq_comm]
    | array items =>
      rw [BodyDescribes.array_iff]
      exact decodeBody_eq_ok_iff (placeless items found)
    | _ => exact iff_of_false (fun read => by cases read) fun describes => by cases describes

/-- Whatever is read as a node is so wherever it stands. -/
theorem isPlaceless (json : Json) : IsPlaceless json := by
  induction json using Json.induct_parts with
  | object fields inArgs inBody =>
    intro path outline
    rw [ofJson, decode_object_eq_ok_iff, decode_object_eq_ok_iff, decodeArgsField_eq_ok_iff inArgs,
      decodeArgsField_eq_ok_iff inArgs, decodeBodyField_eq_ok_iff inBody,
      decodeBodyField_eq_ok_iff inBody]
  | other json noObject =>
    -- No place is one at which such a value is read.
    intro path outline
    have fails : ∀ place, decode place json ≠ .ok outline := by
      intro place read
      obtain ⟨fields, rfl, -⟩ := exists_object_of_decode read
      cases noObject
    exact iff_of_false (fails path) (fails [])

/-- The node that an object describes, wherever parts of it stand. -/
theorem ofJson_object_eq_ok_iff {fields : List (String × Json)} {outline : Outline} :
    ofJson (.object fields) = .ok outline ↔
      fields.lookup "kind" = some (.string outline.kind.name) ∧
      ArgsDescribe ReadsNode ReadsLeaf (fields.lookup "args") outline.args ∧
      BodyDescribes ReadsNode (fields.lookup "body") outline.body ∧
      outline.comment = (fields.lookup "comment").bind Json.text? := by
  rw [ofJson, decode_object_eq_ok_iff,
    decodeArgsField_eq_ok_iff fun _ _ entry _ => isPlaceless entry.2,
    decodeBodyField_eq_ok_iff fun _ _ item _ => isPlaceless item, decodeComment]

end Outline

/-! ## The grammar -/

mutual

/-- A JSON value that describes a node. -/
inductive Json.IsNode : Json → Prop
  | object {fields : List (String × Json)} (kind : Kind) :
      fields.lookup "kind" = some (.string kind.name) → Json.IsArgs (fields.lookup "args") →
      Json.IsBody (fields.lookup "body") → Json.IsNode (.object fields)

/-- What may stand for the arguments of a node: nothing, null, or an object of arguments. -/
inductive Json.IsArgs : Option Json → Prop
  | absent : Json.IsArgs none
  | null : Json.IsArgs (some .null)
  | object {entries : List (String × Json)} :
      (∀ entry ∈ entries, Json.IsArg entry.2) → Json.IsArgs (some (.object entries))

/-- What may stand for one argument: a scalar, an array or object that has no kind, or a node. -/
inductive Json.IsArg : Json → Prop
  | null : Json.IsArg .null
  | boolean (value : Bool) : Json.IsArg (.boolean value)
  | number (value : Json.Number) : Json.IsArg (.number value)
  | string (value : String) : Json.IsArg (.string value)
  | kindless {json : Json} : json.IsKindless → Json.IsArg json
  | node {json : Json} : json.IsNode → Json.IsArg json

/-- What may stand for the body of a node: nothing, null, or an array of nodes. -/
inductive Json.IsBody : Option Json → Prop
  | absent : Json.IsBody none
  | null : Json.IsBody (some .null)
  | array {items : List Json} :
      (∀ item ∈ items, item.IsNode) → Json.IsBody (some (.array items))

end

namespace Outline

variable [Json.Format]

/-- Every value that the grammar has is read. -/
theorem exists_ofJson_of_isNode {json : Json} (isNode : json.IsNode) :
    ∃ outline, ofJson json = .ok outline := by
  induction json using Json.induct_parts with
  | other json noObject =>
    cases isNode
    cases noObject
  | object fields inArgs inBody =>
    cases isNode with
    | object kind named isArgs isBody =>
      -- There is an argument for each field and a child for each item, so there are lists of them.
      have args : ∃ args, ArgsDescribe ReadsNode ReadsLeaf (fields.lookup "args") args := by
        generalize part : fields.lookup "args" = value at isArgs
        cases isArgs with
        | absent => exact ⟨[], .absent⟩
        | null => exact ⟨[], .null⟩
        | object each =>
          rename_i entries
          have entry : ∀ entry ∈ entries, ∃ arg, EntryDescribes ReadsNode ReadsLeaf entry arg := by
            rintro ⟨key, value⟩ mem
            have isArg := each _ mem
            dsimp only at isArg
            cases isArg with
            | null => exact ⟨_, .leaf rfl⟩
            | boolean value => exact ⟨_, .leaf rfl⟩
            | number value => exact ⟨_, .leaf rfl⟩
            | string value => exact ⟨_, .leaf rfl⟩
            | kindless kindless => exact ⟨_, .malformed kindless⟩
            | node isNode =>
              obtain ⟨outline, read⟩ := inArgs entries part _ mem isNode
              exact ⟨_, .node read⟩
          obtain ⟨args, related⟩ := exists_forall₂ entry
          exact ⟨args, .object related⟩
      have body : ∃ body, BodyDescribes ReadsNode (fields.lookup "body") body := by
        generalize part : fields.lookup "body" = value at isBody
        cases isBody with
        | absent => exact ⟨[], .absent⟩
        | null => exact ⟨[], .null⟩
        | array each =>
          obtain ⟨body, related⟩ := exists_forall₂ fun item mem =>
            inBody _ part item mem (each item mem)
          exact ⟨body, .array related⟩
      obtain ⟨args, describesArgs⟩ := args
      obtain ⟨body, describesBody⟩ := body
      exact ⟨⟨kind, args, body, _⟩,
        ofJson_object_eq_ok_iff.2 ⟨named, describesArgs, describesBody, rfl⟩⟩

/-- Every value that is read is one that the grammar has. -/
theorem isNode_of_ofJson {json : Json} {outline : Outline} (read : ofJson json = .ok outline) :
    json.IsNode := by
  induction json using Json.induct_parts generalizing outline with
  | other json noObject =>
    obtain ⟨fields, rfl, -⟩ := exists_object_of_decode read
    cases noObject
  | object fields inArgs inBody =>
    rcases outline with ⟨kind, args, body, comment⟩
    obtain ⟨named, args, body, -⟩ := ofJson_object_eq_ok_iff.1 read
    dsimp only at named args body
    refine .object kind named ?_ ?_
    · generalize part : fields.lookup "args" = value at args
      cases args with
      | absent => exact .absent
      | null => exact .null
      | object related =>
        refine .object fun entry mem => ?_
        obtain ⟨arg, -, describes⟩ := exists_of_forall₂_mem related mem
        cases describes with
        | leaf found =>
          rename_i value scalar
          cases value with
          | null => exact .null
          | boolean value => exact .boolean value
          | number value => exact .number value
          | string value => exact .string value
          | array items => cases found
          | object fields => cases found
        | node inner => exact .node (inArgs _ part _ mem inner)
        | malformed kindless => exact .kindless kindless
    · generalize part : fields.lookup "body" = value at body
      cases body with
      | absent => exact .absent
      | null => exact .null
      | array related =>
        refine .array fun item mem => ?_
        obtain ⟨child, -, inner⟩ := exists_of_forall₂_mem related mem
        exact inBody _ part item mem inner

/-- What can be read is exactly what the grammar has. -/
theorem exists_ofJson_eq_ok_iff {json : Json} :
    (∃ outline, ofJson json = .ok outline) ↔ json.IsNode := by
  constructor
  · rintro ⟨outline, read⟩
    exact isNode_of_ofJson read
  · exact exists_ofJson_of_isNode

end Outline

end SequenceCheck
