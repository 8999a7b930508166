import SequenceCheck.Proofs.Outline.RoundTrip

/-!
# Normal documents

`json.normal` is a document written in the one way in which nodes are written: the fields of a node
in a fixed order, its arguments even if there are none, no empty body, no field that means nothing,
and no integer that does not fit 64 bits with a sign. It is computed from the document alone.

`SameNode json other` says that two documents differ only in what means nothing: the order of the
fields of a node, fields other than the four that are read, null for arguments or a body instead of
leaving them out, and a comment that is no text.

Main statements: the document written for what was read is the normal one (`json_eq_normal`), if no
object of the document that was read has a key twice, and documents that differ only in what means
nothing are read alike (`ofJson_of_sameNode`).
-/

set_option autoImplicit false

namespace SequenceCheck

namespace Json

/-! ## The normal form -/

/-- A JSON value that is no node, as it is written again: an integer that does not fit 64 bits with
a sign is the nearest double precision number. -/
def plain : Json → Json
  | .number (.integer value inRange) =>
    if value < 2 ^ 63 then .number (.integer value inRange)
    else .number (.float (.ofNat value.toNat (Value.toNat_lt_of_inRange inRange)))
  | json => json

/-- The field for a body, unless it is empty. -/
def normalBody (items : List Json) : List (String × Json) :=
  if items.isEmpty then [] else [("body", .array items)]

/-- The field for a comment, if it is a text. -/
def normalComment (fields : List (String × Json)) : List (String × Json) :=
  match fields.lookup "comment" with
  | some (.string text) => [("comment", .string text)]
  | _ => []

mutual

/-- A node written in the one way in which nodes are written. -/
def normal : Json → Json
  | .object fields =>
    .object (("kind", (fields.lookup "kind").getD .null) :: ("args", .object (normalArgs fields)) ::
      (normalBody (normalItems fields) ++ normalComment fields))
  | json => json

/-- The arguments of the node that an object's fields describe. -/
def normalArgs : List (String × Json) → List (String × Json)
  | [] => []
  | (key, value) :: fields =>
    if key = "args" then
      match value with
      | .object entries => normalEntries entries
      | _ => []
    else normalArgs fields

/-- Arguments one by one: nodes in the one way in which they are written, others as they are. -/
def normalEntries : List (String × Json) → List (String × Json)
  | [] => []
  | (key, value) :: entries =>
    (key, if value.NamesKind then value.normal else value.plain) :: normalEntries entries

/-- The body of the node that an object's fields describe. -/
def normalItems : List (String × Json) → List Json
  | [] => []
  | (key, value) :: fields =>
    if key = "body" then
      match value with
      | .array items => normalEach items
      | _ => []
    else normalItems fields

/-- The nodes of a body one by one. -/
def normalEach : List Json → List Json
  | [] => []
  | item :: items => item.normal :: normalEach items

end

/-- An argument in the one way in which it is written. -/
def normalArg (value : Json) : Json :=
  if value.NamesKind then value.normal else value.plain

theorem normalEntries_eq (entries : List (String × Json)) :
    normalEntries entries = entries.map fun entry => (entry.1, entry.2.normalArg) := by
  induction entries with
  | nil => rw [normalEntries, List.map_nil]
  | cons entry entries ih =>
    rcases entry with ⟨key, value⟩
    rw [normalEntries, ih, List.map_cons, normalArg]

theorem normalEach_eq (items : List Json) : normalEach items = items.map normal := by
  induction items with
  | nil => rw [normalEach, List.map_nil]
  | cons item items ih => rw [normalEach, ih, List.map_cons]

/-- The arguments are those of the field `args`, if it is an object. -/
theorem normalArgs_eq (fields : List (String × Json)) :
    normalArgs fields =
      match fields.lookup "args" with
      | some (.object entries) => entries.map fun entry => (entry.1, entry.2.normalArg)
      | _ => [] := by
  induction fields with
  | nil => rw [normalArgs]; rfl
  | cons field rest ih =>
    rcases field with ⟨key, value⟩
    by_cases here : key = "args"
    · subst here
      rw [List.lookup_cons_self]
      cases value <;> simp [normalArgs, normalEntries_eq]
    · have later : ("args" == key) = false := beq_false_of_ne (Ne.symm here)
      rw [List.lookup_cons, later, ← ih]
      cases value <;> simp [normalArgs, here]

/-- The body is that of the field `body`, if it is an array. -/
theorem normalItems_eq (fields : List (String × Json)) :
    normalItems fields =
      match fields.lookup "body" with
      | some (.array items) => items.map normal
      | _ => [] := by
  induction fields with
  | nil => rw [normalItems]; rfl
  | cons field rest ih =>
    rcases field with ⟨key, value⟩
    by_cases here : key = "body"
    · subst here
      rw [List.lookup_cons_self]
      cases value <;> simp [normalItems, normalEach_eq]
    · have later : ("body" == key) = false := beq_false_of_ne (Ne.symm here)
      rw [List.lookup_cons, later, ← ih]
      cases value <;> simp [normalItems, here]

end Json

namespace Outline

/-- What holds of every text, and of an array if it does of its items, holds of the fields of a
node's document if it does of the arguments and of what is written for the children. -/
theorem forall_mem_writtenFields_iff {p q : Json → Prop} {kind : Kind}
    {args : List (String × Arg Outline Value)} {body : List Outline} {comment : Option String}
    (texts : ∀ text, p (.string text))
    (arrays : ∀ items, p (.array items) ↔ ∀ item ∈ items, q item) :
    (∀ field ∈ writtenFields kind args body comment, p field.2) ↔
      p (.object (Keyed.collect (jsonArgs args))) ∧ ∀ child ∈ body, q child.json := by
  have items : (∀ field ∈ bodyField body, p field.2) ↔ ∀ child ∈ body, q child.json := by
    cases body with
    | nil => exact iff_of_true (List.forall_mem_nil _) (List.forall_mem_nil _)
    | cons child rest =>
      rw [bodyField, List.isEmpty_cons, if_neg Bool.false_ne_true, List.forall_mem_singleton,
        arrays, jsonBody_eq, List.forall_mem_map]
  have comments : ∀ field ∈ commentField comment, p field.2 := by
    cases comment with
    | none => exact List.forall_mem_nil _
    | some text => exact List.forall_mem_singleton.2 (texts text)
  simp only [writtenFields, List.forall_mem_cons, List.forall_mem_append, items]
  constructor
  · rintro ⟨-, inArgs, inBody, -⟩
    exact ⟨inArgs, inBody⟩
  · rintro ⟨inArgs, inBody⟩
    exact ⟨texts kind.name, inArgs, inBody, comments⟩

/-- A scalar is written as it was, or as the number that it was read as. -/
theorem json_of_ofJson? {value : Json} {scalar : Value} (read : Value.ofJson? value = some scalar) :
    scalar.json = value.plain := by
  cases value with
  | number number =>
    cases read
    cases number with
    | float x => rfl
    | integer whole inRange =>
      rw [Value.ofNumber, Json.plain]
      split
      · rename_i fits
        rw [Value.json]
        congr
        exact Int64.toInt_ofInt_of_le inRange.1 fits
      · rfl
  | array items => cases read
  | object fields => cases read
  | _ =>
    cases read
    rfl

section Read

variable [Json.Format]

/-- An argument is written in the one way for what describes it. -/
theorem jsonArg_eq_normalArg {field : String × Json} {entry : String × Arg Outline Value}
    (describes : EntryDescribes ReadsNode ReadsLeaf field entry)
    (below : ∀ outline, ofJson field.2 = .ok outline → outline.json = field.2.normal) :
    (field.1, field.2.normalArg) = (entry.1, jsonArg entry.2) := by
  cases describes with
  | leaf read =>
    rename_i key value scalar
    have unnamed : ¬ value.NamesKind := by
      rintro ⟨kind, found⟩
      cases read
    rw [Json.normalArg, if_neg unnamed, jsonArg, json_of_ofJson? read]
  | node read =>
    obtain ⟨fields, rfl, named⟩ := exists_object_of_decode read
    rw [Json.normalArg, if_pos (.object _ named), jsonArg, below _ read]
  | malformed kindless =>
    obtain ⟨-, unnamed⟩ := isMalformed_iff.2 kindless
    rw [Json.normalArg, if_neg (mt namesKind_iff.2 (Bool.eq_false_iff.1 unnamed)), jsonArg]
    cases kindless <;> rfl

/-- The document written for what was read of a document without repeated keys is the normal one. -/
theorem json_eq_normal {json : Json} {outline : Outline} (distinct : json.KeysDistinct)
    (read : ofJson json = .ok outline) : outline.json = json.normal := by
  induction json using Json.induct_parts generalizing outline with
  | other json noObject =>
    obtain ⟨fields, rfl, -⟩ := exists_object_of_decode read
    cases noObject
  | object fields inArgs inBody =>
    obtain ⟨nodup, -, -⟩ := keysDistinct_of_ofJson distinct read
    rcases outline with ⟨kind, args, body, comment⟩
    obtain ⟨argsDistinct, bodyDistinct⟩ := isInherited_keysDistinct fields distinct
    obtain ⟨named, describesArgs, describesBody, rfl⟩ := ofJson_object_eq_ok_iff.1 read
    dsimp only at named describesArgs describesBody
    -- Field by field, what is written for the outline is what the normal form has.
    have writtenArgs : jsonArgs args = Json.normalArgs fields := by
      rw [jsonArgs_eq, Json.normalArgs_eq]
      generalize part : fields.lookup "args" = value at describesArgs
      cases describesArgs with
      | absent => rfl
      | null => rfl
      | object related =>
        exact (map_eq_map_of_forall₂ related fun field mem entry describes =>
          jsonArg_eq_normalArg describes fun _ inner =>
            inArgs _ part field mem (argsDistinct _ part field mem) inner).symm
    have writtenBody : jsonBody body = Json.normalItems fields := by
      rw [jsonBody_eq, Json.normalItems_eq]
      generalize part : fields.lookup "body" = value at describesBody
      cases describesBody with
      | absent => rfl
      | null => rfl
      | array related =>
        exact (map_eq_map_of_forall₂ related fun item mem child inner =>
          (inBody _ part item mem (bodyDistinct _ part item mem) inner).symm).symm
    have writtenComment : commentField ((fields.lookup "comment").bind Json.text?) =
        Json.normalComment fields := by
      rw [Json.normalComment]
      cases fields.lookup "comment" with
      | none => rfl
      | some value => cases value <;> rfl
    have empty : body.isEmpty = (jsonBody body).isEmpty := by
      rw [jsonBody_eq, List.isEmpty_map]
    rw [json_eq, Json.normal, writtenFields, bodyField, empty, collect_jsonArgs nodup, writtenArgs,
      writtenBody, writtenComment, named, Json.normalBody]
    rfl

/-- What was read of a document without repeated keys is read again from the normal document. -/
theorem ofJson_normal {json : Json} {outline : Outline} (distinct : json.KeysDistinct)
    (read : ofJson json = .ok outline) : ofJson json.normal = .ok outline := by
  rw [← json_eq_normal distinct read]
  exact outline.decode_json [] (readable_of_ofJson read) (keysDistinct_of_ofJson distinct read)

end Read

end Outline

/-! ## What means nothing -/

/-- A field for arguments or a body that is left out or null. -/
inductive Json.IsNothing : Option Json → Prop
  | absent : IsNothing none
  | null : IsNothing (some .null)

mutual

/-- Two objects describe a node of the same kind, the same arguments, the same body and the same
comment. -/
inductive SameNode : Json → Json → Prop
  | object {fields others : List (String × Json)} (kind : Kind) :
      fields.lookup "kind" = some (.string kind.name) →
      others.lookup "kind" = some (.string kind.name) →
      SameArgs (fields.lookup "args") (others.lookup "args") →
      SameBody (fields.lookup "body") (others.lookup "body") →
      (fields.lookup "comment").bind Json.text? = (others.lookup "comment").bind Json.text? →
      SameNode (.object fields) (.object others)

/-- Two fields for arguments are both nothing, or have the same arguments in the same order. -/
inductive SameArgs : Option Json → Option Json → Prop
  | nothing {field other : Option Json} :
      Json.IsNothing field → Json.IsNothing other → SameArgs field other
  | object {entries others : List (String × Json)} :
      List.Forall₂ SameEntry entries others →
      SameArgs (some (.object entries)) (some (.object others))

/-- Two arguments are the same, or the same node under the same key. -/
inductive SameEntry : String × Json → String × Json → Prop
  | refl (entry : String × Json) : SameEntry entry entry
  | node {key : String} {value other : Json} :
      SameNode value other → SameEntry (key, value) (key, other)

/-- Two fields for a body are both nothing, or have the same nodes in the same order. -/
inductive SameBody : Option Json → Option Json → Prop
  | nothing {field other : Option Json} :
      Json.IsNothing field → Json.IsNothing other → SameBody field other
  | array {items others : List Json} :
      List.Forall₂ SameNode items others → SameBody (some (.array items)) (some (.array others))

end

/-- A node is the same as itself. -/
theorem sameNode_refl {json : Json} (isNode : json.IsNode) : SameNode json json := by
  induction json using Json.induct_parts with
  | other json noObject =>
    cases isNode
    cases noObject
  | object fields inArgs inBody =>
    cases isNode with
    | object kind named isArgs isBody =>
      refine .object kind named named ?_ ?_ rfl
      · generalize fields.lookup "args" = value at isArgs
        cases isArgs with
        | absent => exact .nothing .absent .absent
        | null => exact .nothing .null .null
        | object each => exact .object (List.forall₂_same.2 fun entry _ => .refl entry)
      · generalize part : fields.lookup "body" = value at isBody
        cases isBody with
        | absent => exact .nothing .absent .absent
        | null => exact .nothing .null .null
        | array each =>
          exact .array (List.forall₂_same.2 fun item mem => inBody _ part item mem (each item mem))

/-- Only four fields of an object say which node it describes. -/
theorem sameNode_of_lookup {fields others : List (String × Json)}
    (isNode : (Json.object fields).IsNode)
    (agree : ∀ key ∈ ["kind", "args", "body", "comment"], others.lookup key = fields.lookup key) :
    SameNode (.object fields) (.object others) := by
  cases sameNode_refl isNode with
  | object kind named _ args body _ =>
    refine .object kind named ((agree "kind" (by decide)).trans named) ?_ ?_ ?_
    · rw [agree "args" (by decide)]
      exact args
    · rw [agree "body" (by decide)]
      exact body
    · rw [agree "comment" (by decide)]

/-- The order of the fields of an object means nothing. -/
theorem sameNode_of_perm {fields others : List (String × Json)}
    (isNode : (Json.object fields).IsNode) (distinct : (Keyed.keys fields).Nodup)
    (reordered : fields.Perm others) : SameNode (.object fields) (.object others) := by
  refine sameNode_of_lookup isNode fun key _ => ?_
  have distinct' : (Keyed.keys others).Nodup := (reordered.map Prod.fst).nodup_iff.1 distinct
  cases found : fields.lookup key with
  | some value =>
    obtain ⟨before, after, rfl, -⟩ := List.lookup_eq_some_iff.1 found
    have mem := reordered.subset (List.mem_append_right before List.mem_cons_self)
    exact Keyed.lookup_of_mem distinct' mem
  | none =>
    rw [List.lookup_eq_none_iff] at found ⊢
    exact fun field mem => found field (reordered.symm.subset mem)

namespace Outline

variable [Json.Format]

/-- Fields for arguments that are the same describe the same arguments. -/
theorem argsDescribe_of_sameArgs {field other : Option Json}
    {args : List (String × Arg Outline Value)} (same : SameArgs field other)
    (describes : ArgsDescribe ReadsNode ReadsLeaf field args)
    (below : ∀ entries, field = some (.object entries) → ∀ entry ∈ entries,
      ∀ value outline, SameNode entry.2 value → ofJson entry.2 = .ok outline →
        ofJson value = .ok outline) :
    ArgsDescribe ReadsNode ReadsLeaf other args := by
  cases same with
  | nothing empty otherEmpty =>
    obtain rfl : args = [] := by cases empty <;> cases describes <;> rfl
    cases otherEmpty with
    | absent => exact .absent
    | null => exact .null
  | object alike =>
    cases describes with
    | object related =>
      refine .object (forall₂_of_forall₂ alike.flip related.flip ?_)
      intro entry _ written mem arg sameEntry describes
      cases sameEntry with
      | refl => exact describes
      | node sameNode =>
        -- What is the same as some node names a kind, so it was read as a node.
        cases describes with
        | node inner => exact .node (below _ rfl _ mem _ _ sameNode inner)
        | leaf read =>
          cases sameNode
          cases read
        | malformed kindless =>
          cases sameNode with
          | object kind named => cases kindless with
            | object unnamed => exact absurd named (unnamed kind)

/-- Fields for a body that are the same describe the same body. -/
theorem bodyDescribes_of_sameBody {field other : Option Json} {body : List Outline}
    (same : SameBody field other) (describes : BodyDescribes ReadsNode field body)
    (below : ∀ items, field = some (.array items) → ∀ item ∈ items,
      ∀ value outline, SameNode item value → ofJson item = .ok outline →
        ofJson value = .ok outline) :
    BodyDescribes ReadsNode other body := by
  cases same with
  | nothing empty otherEmpty =>
    obtain rfl : body = [] := by cases empty <;> cases describes <;> rfl
    cases otherEmpty with
    | absent => exact .absent
    | null => exact .null
  | array alike =>
    cases describes with
    | array related =>
      refine .array (forall₂_of_forall₂ alike.flip related.flip ?_)
      intro value _ item mem child sameNode inner
      exact below _ rfl _ mem _ _ sameNode inner

/-- Documents that differ only in what means nothing are read alike. -/
theorem ofJson_of_sameNode {json other : Json} (same : SameNode json other) {outline : Outline}
    (read : ofJson json = .ok outline) : ofJson other = .ok outline := by
  induction json using Json.induct_parts generalizing other outline with
  | other json noObject =>
    obtain ⟨fields, rfl, -⟩ := exists_object_of_decode read
    cases noObject
  | object fields inArgs inBody =>
    obtain ⟨named, describesArgs, describesBody, comment⟩ := ofJson_object_eq_ok_iff.1 read
    cases same with
    | object kind here there sameArgs sameBody texts =>
      have sameKind := there.trans (here.symm.trans named)
      refine ofJson_object_eq_ok_iff.2 ⟨sameKind, ?_, ?_, comment.trans texts⟩
      · exact argsDescribe_of_sameArgs sameArgs describesArgs fun entries found entry mem _ _ =>
          fun same read => inArgs entries found entry mem same read
      · exact bodyDescribes_of_sameBody sameBody describesBody fun items found item mem _ _ =>
          fun same read => inBody items found item mem same read

end Outline

end SequenceCheck
