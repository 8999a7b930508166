import SequenceCheck.Proofs.Binary64.Nearest
import SequenceCheck.Proofs.Outline.Normal
import SequenceCheck.Proofs.Tree.RoundTrip

/-!
# What a tree holds of its document

`Tree.Describes json node` says that a JSON value describes a node of a tree and everything below
it: the kind, one argument for each field of the arguments in written order, one child for each item
of the body, and the comment. `Json.Spells` says which scalar a leaf then holds.

Main statements: a tree can be read exactly from the values of the grammar, and the value describes
the root of the tree (`ofJson_reads_grammar`). What is written for a tree is the normal form of the
document that it was read from, and what the normal form leaves out has no influence on the tree
(`json_eq_normal_of_ofJson`).
-/

set_option autoImplicit false

namespace SequenceCheck

/-! ## Scalars -/

/-- A JSON value spells a scalar: an integer that fits 64 bits with a sign is itself, a greater one
is the nearest double precision number, and everything else is what it is. -/
inductive Json.Spells : Json → Value → Prop
  | null : Spells .null .null
  | boolean (value : Bool) : Spells (.boolean value) (.boolean value)
  | integer {value : Int} {inRange : -2 ^ 63 ≤ value ∧ value < 2 ^ 64} {held : Int64} :
      held.toInt = value → Spells (.number (.integer value inRange)) (.integer held)
  | large {value : Int} {inRange : -2 ^ 63 ≤ value ∧ value < 2 ^ 64} {x : Binary64.Finite} :
      2 ^ 63 ≤ value → x.negative = false →
      x.IsNearest (value.toNat * 2 ^ Binary64.unitExponent) 1 →
      Spells (.number (.integer value inRange)) (.float (.finite x))
  | float (x : Binary64.Finite) : Spells (.number (.float x)) (.float (.finite x))
  | string (value : String) : Spells (.string value) (.string value)

/-- The scalar that is read is the one that is spelled. -/
theorem Value.spells_of_ofJson? {json : Json} {value : Value} (read : ofJson? json = some value) :
    json.Spells value := by
  cases json with
  | null =>
    cases read
    exact .null
  | boolean held =>
    cases read
    exact .boolean held
  | string held =>
    cases read
    exact .string held
  | number number =>
    cases read
    cases number with
    | float x => exact .float x
    | integer whole inRange =>
      rw [ofNumber]
      split
      · rename_i fits
        exact .integer (Int64.toInt_ofInt_of_le inRange.1 fits)
      · rename_i large
        obtain ⟨sign, nearest⟩ :=
          Binary64.Finite.isNearest_ofNat (toNat_lt_of_inRange inRange)
        exact .large (by omega) sign nearest
  | array items => cases read
  | object fields => cases read

namespace Tree

variable {tree : Tree}

/-! ## Nodes -/

/-- A JSON value describes a node of a tree and everything below it. -/
inductive Describes : Json → tree.NodeAt → Prop
  | object {fields : List (String × Json)} {node : tree.NodeAt}
      (kind : fields.lookup "kind" = some (.string node.kind.name))
      (args : ArgsDescribe Describes (fun json leaf => json.Spells leaf.value)
        (fields.lookup "args") node.args)
      (body : BodyDescribes Describes (fields.lookup "body") node.body)
      (comment : node.comment = (fields.lookup "comment").bind Json.text?) :
      Describes (.object fields) node

section Read

variable [Json.Format]

/-- What describes an argument of an outline describes the argument that stands for it. -/
theorem entryDescribes_of_entryHolds {owner : tree.NodeAt} {field : String × Json}
    {entry : String × tree.ArgAt} {written : String × Arg Outline Value}
    (describes : EntryDescribes Outline.ReadsNode Outline.ReadsLeaf field written)
    (holds : EntryHolds owner entry written)
    (below : ∀ child part, child.Holds (some owner) part → Outline.ofJson field.2 = .ok part →
      Describes field.2 child) :
    EntryDescribes Describes (fun json leaf => json.Spells leaf.value) field entry := by
  cases describes with
  | leaf read =>
    cases holds with
    | leaf stored =>
      refine .leaf ?_
      -- The leaf holds the scalar that was read.
      rw [LeafAt.value, stored]
      exact Value.spells_of_ofJson? read
  | node read =>
    cases holds with
    | node child => exact .node (below _ _ child read)
  | malformed kindless =>
    cases holds with
    | malformed => exact .malformed kindless

/-- What is read as an outline describes every node that the outline stands at. -/
theorem describes_of_ofJson {json : Json} {outline : Outline} {node : tree.NodeAt}
    {parent : Option tree.NodeAt} (read : Outline.ofJson json = .ok outline)
    (holds : node.Holds parent outline) : Describes json node := by
  induction json using Json.induct_parts generalizing outline node parent with
  | other json noObject =>
    obtain ⟨fields, rfl, -⟩ := Outline.exists_object_of_decode read
    cases noObject
  | object fields inArgs inBody =>
    obtain ⟨kind, args, body, comment⟩ := Outline.ofJson_object_eq_ok_iff.1 read
    -- The fields of the object and the parts of the node are both related, one by one, to the parts
    -- of the outline.
    have shownArgs := holds.args
    have shownBody := holds.body
    refine .object (holds.kind ▸ kind) ?_ ?_ (holds.comment.trans comment)
    · generalize outline.args = written at args shownArgs
      generalize part : fields.lookup "args" = value at args
      cases args with
      | absent =>
        rw [List.forall₂_nil_right_iff.1 shownArgs]
        exact .absent
      | null =>
        rw [List.forall₂_nil_right_iff.1 shownArgs]
        exact .null
      | object related =>
        refine .object (forall₂_of_forall₂ related shownArgs fun field mem entry _ shown => ?_)
        intro describes stands
        exact entryDescribes_of_entryHolds describes stands fun child below holds inner =>
          inArgs _ part field mem inner holds
    · generalize outline.body = written at body shownBody
      generalize part : fields.lookup "body" = value at body
      cases body with
      | absent =>
        rw [List.forall₂_nil_right_iff.1 shownBody]
        exact .absent
      | null =>
        rw [List.forall₂_nil_right_iff.1 shownBody]
        exact .null
      | array related =>
        refine .array (forall₂_of_forall₂ related shownBody fun item mem child _ shown => ?_)
        intro inner holds
        exact inBody _ part item mem inner holds

/-- A tree can be read exactly from the values of the grammar, and the value that it is read from
describes its root and all that is below. -/
theorem ofJson_reads_grammar (json : Json) :
    ((∃ tree, ofJson json = .ok tree) ↔ json.IsNode) ∧
      ∀ tree, ofJson json = .ok tree → Describes json tree.root := by
  constructor
  · rw [← Outline.exists_ofJson_eq_ok_iff]
    constructor
    · rintro ⟨tree, read⟩
      obtain ⟨outline, inner, -⟩ := ofJson_eq_ok_iff.1 read
      exact ⟨outline, inner⟩
    · rintro ⟨outline, inner⟩
      exact ⟨ofOutline outline, ofJson_eq_ok_iff.2 ⟨outline, inner, rfl⟩⟩
  · intro tree read
    obtain ⟨outline, inner, rfl⟩ := ofJson_eq_ok_iff.1 read
    exact describes_of_ofJson inner (holds_root outline)

end Read

/-- The document with an argument of each sort is one of the grammar and describes its tree. -/
theorem ofJson_reads_mixedDocument :
    ofJson mixedDocument = .ok (ofOutline mixedOutline) ∧ mixedDocument.IsNode ∧
      Describes mixedDocument (ofOutline mixedOutline).root := by
  have read : ofJson mixedDocument = .ok (ofOutline mixedOutline) :=
    ofJson_eq_ok_iff.2 ⟨mixedOutline, rfl, rfl⟩
  obtain ⟨accepts, describes⟩ := ofJson_reads_grammar mixedDocument
  exact ⟨read, accepts.1 ⟨_, read⟩, describes _ read⟩

/-! ## The document that is written -/

/-- What is written for a tree that was read from a document without repeated keys is the normal
form of the document, and the tree is read again from that. It is read again from every document
that differs only in what means nothing. -/
theorem json_eq_normal_of_ofJson [Json.Format] {json : Json} {tree : Tree}
    (read : ofJson json = .ok tree) :
    (json.KeysDistinct → tree.json = json.normal ∧ ofJson json.normal = .ok tree) ∧
      ∀ other, SameNode json other → ofJson other = .ok tree := by
  obtain ⟨outline, inner, rfl⟩ := ofJson_eq_ok_iff.1 read
  refine ⟨fun distinct => ⟨?_, ?_⟩, fun other same => ?_⟩
  · rw [Tree.json, outline_ofOutline]
    exact Outline.json_eq_normal distinct inner
  · exact ofJson_eq_ok_iff.2 ⟨outline, Outline.ofJson_normal distinct inner, rfl⟩
  · exact ofJson_eq_ok_iff.2 ⟨outline, Outline.ofJson_of_sameNode same inner, rfl⟩

theorem json_eq_normal_of_mixedDocument :
    mixedDocument.KeysDistinct ∧ ofJson mixedDocument = .ok (ofOutline mixedOutline) ∧
      mixedDocument.normal = mixedNormal ∧ (ofOutline mixedOutline).json = mixedNormal ∧
      ofJson mixedNormal = .ok (ofOutline mixedOutline) := by
  have read : ofJson mixedDocument = .ok (ofOutline mixedOutline) :=
    ofJson_eq_ok_iff.2 ⟨mixedOutline, rfl, rfl⟩
  have normal : mixedDocument.normal = mixedNormal := rfl
  obtain ⟨written, again⟩ := (json_eq_normal_of_ofJson read).1 keysDistinct_mixedDocument
  rw [normal] at written again
  exact ⟨keysDistinct_mixedDocument, read, normal, written, again⟩

end Tree

end SequenceCheck
