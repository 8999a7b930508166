import SequenceCheck.Proofs.Outline.Built
import SequenceCheck.Proofs.Tree.Equality
import SequenceCheck.Proofs.Tree.RoundTrip

/-!
# Built trees read back

A tree that was built, rather than read, may hold what no document says: a number that is not
finite, or a malformed value that is a scalar or a node. It is then written as something else. Trees
that are equal hold equal scalars and equal malformed values (`every_of_same`), so the loss shows,
however deep it lies and whatever else is in the tree.

Main statement: a built tree, written and read back, is the same tree exactly if its numbers are
finite and its malformed values have no kind (`ofJson_json_iff_of_built`).
-/

set_option autoImplicit false

namespace SequenceCheck

/-! ## What equality carries over -/

/-- What equals a finite scalar is finite. -/
theorem Value.isFinite_of_same {value other : Value} (same : value.same other = true)
    (finite : value.IsFinite) : other.IsFinite := by
  cases other with
  | float y =>
    cases value with
    | float x =>
      cases x with
      | finite x =>
        cases y with
        | finite y => trivial
        | _ => cases same
      | _ => exact absurd finite id
    | _ => cases same
  | _ => trivial

namespace Json

/-- Every field that has an equal among others is found there under its key. -/
theorem exists_lookup_of_sameFields {others : List (String × Json)} :
    ∀ {fields : List (String × Json)}, sameFields fields others = true → ∀ field ∈ fields,
      ∃ other, others.lookup field.1 = some other ∧ field.2.same other = true
  | (key, value) :: rest, same, field, mem => by
    rw [sameFields, Bool.and_eq_true] at same
    rcases List.mem_cons.1 mem with rfl | later
    · cases found : others.lookup key with
      | some other =>
        rw [found] at same
        exact ⟨other, rfl, same.1⟩
      | none =>
        rw [found] at same
        exact absurd same.1 Bool.false_ne_true
    · exact exists_lookup_of_sameFields same.2 field later

/-- An object without repeated keys that equals another has a field for each field that is found in
the other. -/
theorem exists_lookup_of_same {fields others : List (String × Json)} {key : String} {other : Json}
    (nodup : (Keyed.keys fields).Nodup) (same : (object fields).same (object others) = true)
    (found : others.lookup key = some other) :
    ∃ value, fields.lookup key = some value ∧ value.same other = true := by
  rw [Json.same, Bool.and_eq_true, beq_iff_eq] at same
  obtain ⟨length, equals⟩ := same
  -- The other object has all the keys and no more fields than there are keys, so it has no other.
  have subset : Keyed.keys fields ⊆ Keyed.keys others := by
    intro name mem
    obtain ⟨field, inFields, rfl⟩ := List.mem_map.1 mem
    obtain ⟨value, there, -⟩ := exists_lookup_of_sameFields equals field inFields
    exact Keyed.mem_keys_of_lookup there
  have counts : (Keyed.keys others).length = (Keyed.keys fields).length := by
    rw [Keyed.keys, Keyed.keys, List.length_map, List.length_map, length]
  have perm := (List.subperm_of_subset nodup subset).perm_of_length_le (Nat.le_of_eq counts)
  have there := perm.mem_iff.2 (Keyed.mem_keys_of_lookup found)
  obtain ⟨⟨name, value⟩, inFields, rfl⟩ := List.mem_map.1 there
  obtain ⟨equal, foundAgain, sameValue⟩ := exists_lookup_of_sameFields equals _ inFields
  obtain rfl := Option.some.inj (found.symm.trans foundAgain)
  exact ⟨value, Keyed.lookup_of_mem nodup inFields, sameValue⟩

/-- What equals a value without a kind has none. -/
theorem isKindless_of_same {json other : Json} (distinct : json.KeysDistinct)
    (same : json.same other = true) (kindless : json.IsKindless) : other.IsKindless := by
  cases kindless with
  | array items =>
    cases other with
    | array others => exact .array others
    | _ => simp [Json.same] at same
  | object unnamed =>
    cases other with
    | object others =>
      refine .object fun kind found => ?_
      rw [KeysDistinct] at distinct
      obtain ⟨value, named, sameName⟩ := exists_lookup_of_same distinct.1 same found
      cases value with
      | string name =>
        rw [Json.same, beq_iff_eq] at sameName
        exact unnamed kind (sameName ▸ named)
      | _ => simp [Json.same] at sameName
    | _ => simp [Json.same] at same

end Json

namespace Tree

/-- Equal nodes have equal malformed values. -/
theorem Node.everyRaw_of_same {rawOk rawOk' : Json → Prop} {node other : Node}
    (same : node.same other = true) (every : node.EveryRaw rawOk)
    (carries : ∀ raw raw', raw.same raw' = true → rawOk raw → rawOk' raw') :
    other.EveryRaw rawOk' := by
  simp only [Node.same, Bool.and_eq_true, beq_iff_eq] at same
  obtain ⟨⟨⟨⟨-, args⟩, -⟩, -⟩, -⟩ := same
  intro key raw mem
  obtain ⟨⟨name, arg⟩, inNode, entry⟩ := exists_of_forall₂_mem (sameArgs_iff.1 args).flip mem
  cases entry with
  | entry equal =>
    cases arg with
    | malformed received => exact carries received raw equal (every key received inNode)
    | _ => cases equal

/-- An outline that stands at a node has only what is stored at nodes and leaves. -/
theorem NodeAt.Holds.every {tree : Tree} {scalarOk : Value → Prop} {rawOk : Json → Prop}
    {node : tree.NodeAt} {parent : Option tree.NodeAt} {outline : Outline}
    (h : node.Holds parent outline) (nodes : ∀ node : tree.NodeAt, node.stored.EveryRaw rawOk)
    (leaves : ∀ leaf : tree.LeafAt, scalarOk leaf.stored.value) :
    outline.Every scalarOk rawOk := by
  induction node using NodeAt.induct_children generalizing parent outline with
  | step node ih =>
    refine Outline.every_iff.2 ⟨fun entry mem => ?_, fun part mem => ?_⟩
    · obtain ⟨shown, inArgs, holds⟩ := exists_of_forall₂_mem h.args.flip mem
      cases holds with
      | node below => exact ih _ (NodeAt.mem_children_iff.2 (.inl ⟨_, inArgs⟩)) below
      | leaf stored =>
        rename_i key found value
        have ok := leaves found
        rw [stored] at ok
        exact ok
      | malformed =>
        rename_i key raw
        refine nodes node key raw ?_
        rw [← node.map_numberArg_args]
        exact List.mem_map.2 ⟨_, inArgs, rfl⟩
    · obtain ⟨child, inBody, below⟩ := exists_of_forall₂_mem h.body.flip mem
      exact ih child (NodeAt.mem_children_iff.2 (.inr inBody)) below

/-- If the trees of two outlines are equal, and the first outline can be written, so can the
second. -/
theorem every_of_same {outline other : Outline}
    (same : (ofOutline outline).same (ofOutline other) = true)
    (every : outline.Every Value.IsFinite Outline.IsReceived) :
    other.Every Value.IsFinite Json.IsKindless := by
  obtain ⟨nodes, leaves⟩ := same_iff.1 same
  refine (holds_root other).every (fun node => ?_) fun leaf => ?_
  · have mem : node.stored ∈ (ofOutline other).nodes.toList :=
      Array.mem_toList_iff.2 (Array.mem_of_getElem? node.getElem?_id)
    obtain ⟨stored, inTree, sameNode⟩ := exists_of_forall₂_mem nodes.flip mem
    refine Node.everyRaw_of_same sameNode
      (outline.everyRaw_of_mem_laidNodes every stored inTree) fun raw raw' equal received => ?_
    exact Json.isKindless_of_same received.2 equal (Outline.isMalformed_iff.1 received.1)
  · have mem : leaf.stored ∈ (ofOutline other).leaves.toList :=
      Array.mem_toList_iff.2 (Array.mem_of_getElem? leaf.getElem?_id)
    obtain ⟨stored, inTree, sameLeaf⟩ := exists_of_forall₂_mem leaves.flip mem
    simp only [Leaf.same, Bool.and_eq_true] at sameLeaf
    exact Value.isFinite_of_same sameLeaf.1.2
      (outline.scalar_of_mem_laidLeaves every stored inTree)

/-- A built tree, written and read back, is the same tree exactly if its numbers are finite and its
malformed values have no kind; and exactly then a tree is read that equals it. -/
theorem ofJson_json_iff_of_built [Json.Format] {outline : Outline} (built : outline.Built) :
    (ofJson (ofOutline outline).json = .ok (ofOutline outline) ↔
      outline.Every Value.IsFinite Json.IsKindless) ∧
    ((∃ tree, ofJson (ofOutline outline).json = .ok tree ∧
        tree.same (ofOutline outline) = true) ↔
      outline.Every Value.IsFinite Json.IsKindless) := by
  have distinct := built.keysDistinct_json
  have written : (ofOutline outline).json = outline.json := by
    rw [Tree.json, outline_ofOutline]
  rw [written]
  -- What is read of the document can always be written.
  have back : ∀ tree, ofJson outline.json = .ok tree → tree.same (ofOutline outline) = true →
      outline.Every Value.IsFinite Json.IsKindless := by
    intro tree read same
    obtain ⟨other, inner, rfl⟩ := ofJson_eq_ok_iff.1 read
    exact every_of_same same (Outline.every_of_decode distinct inner)
  have forth : outline.Every Value.IsFinite Json.IsKindless →
      ofJson outline.json = .ok (ofOutline outline) ∧
        (ofOutline outline).same (ofOutline outline) = true := by
    intro every
    have readable : outline.Readable :=
      every.mono (fun _ finite => finite) fun _ kindless => Outline.isMalformed_iff.2 kindless
    have read := outline.decode_json [] readable built.keysDistinct
    have received := Outline.every_of_decode distinct read
    refine ⟨ofJson_eq_ok_iff.2 ⟨outline, read, rfl⟩, same_ofOutline_self ?_⟩
    exact received.mono (fun _ finite => finite.ne_nan) fun _ received => received.2
  refine ⟨⟨fun read => ?_, fun every => (forth every).1⟩, ⟨?_, fun every => ⟨_, forth every⟩⟩⟩
  · obtain ⟨other, inner, same⟩ := ofJson_eq_ok_iff.1 read
    have outlines := congrArg Tree.outline same
    rw [outline_ofOutline, outline_ofOutline] at outlines
    obtain rfl := outlines
    exact (Outline.every_of_decode distinct inner).mono (fun _ finite => finite)
      fun _ received => Outline.isMalformed_iff.1 received.1
  · rintro ⟨tree, read, same⟩
    exact back tree read same

/-- An outline built of parts that can all be written. -/
def soundOutline : Outline :=
  (((Outline.ofKind .sequence).withArg "version" (.leaf (.integer 20))).withArg "label"
    (.malformed (.object [("kind", .boolean true)]))).withComment "sound"

/-- An outline with the sound one among its arguments, and below its body a number that has no JSON
form. -/
def spoiledOutline : Outline :=
  ((Outline.ofKind .sequence).withArg "locals" (.node soundOutline)).withChild
    ((Outline.ofKind .wait).withArg "milliseconds" (.leaf (.float (.infinite true))))

theorem ofJson_json_of_spoiledOutline :
    (soundOutline.Built ∧
      ofJson (ofOutline soundOutline).json = .ok (ofOutline soundOutline)) ∧
    (spoiledOutline.Built ∧
      ¬ ∃ tree, ofJson (ofOutline spoiledOutline).json = .ok tree ∧
        tree.same (ofOutline spoiledOutline) = true) := by
  have sound : soundOutline.Built := by
    refine .withComment "sound" (.withMalformed "label" (.withLeaf "version" _ (.ofKind _)) ?_)
    simp [Json.KeysDistinct, Json.KeysDistinctFields]
  have spoiled : spoiledOutline.Built :=
    .withChild (.withNode "locals" (.ofKind _) sound) (.withLeaf "milliseconds" _ (.ofKind _))
  have finite : soundOutline.Every Value.IsFinite Json.IsKindless := by
    refine ⟨⟨trivial, .object fun kind found => ?_, trivial⟩, trivial⟩
    cases found
  have infinite : ¬ spoiledOutline.Every Value.IsFinite Json.IsKindless :=
    fun every => every.2.1.1.1
  exact ⟨⟨sound, (ofJson_json_iff_of_built sound).1.2 finite⟩, spoiled,
    fun read => infinite ((ofJson_json_iff_of_built spoiled).2.1 read)⟩

end Tree

end SequenceCheck
