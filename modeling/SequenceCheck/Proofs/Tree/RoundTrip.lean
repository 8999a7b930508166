import SequenceCheck.Json.Standard
import SequenceCheck.Tree.Document
import SequenceCheck.Proofs.Outline.RoundTrip
import SequenceCheck.Proofs.Tree.Content

/-!
# Trees read back

What a tree stores for an outline has the scalars and the malformed values of the outline, so a tree
equals itself if these do (`same_ofOutline_self`).

Main statement: a tree that was read from a document, written and read back, is the same tree, and
writing it once more gives the same document (`ofJson_json_of_ofJson`).
-/

set_option autoImplicit false

namespace SequenceCheck

/-! ## What is stored for an outline -/

/-- Every malformed argument that is stored at a node is of a sort. -/
def Tree.Node.EveryRaw (rawOk : Json → Prop) (node : Tree.Node) : Prop :=
  ∀ key raw, (key, Arg.malformed raw) ∈ node.args → rawOk raw

namespace Outline

variable {scalarOk : Value → Prop} {rawOk : Json → Prop}

/-- Numbering arguments keeps the malformed ones. -/
theorem raw_of_mem_numberedArgs : ∀ (args : List (String × Arg Outline Value)) {id leaf : Nat},
    EveryArg scalarOk rawOk args →
      ∀ key raw, (key, Arg.malformed raw) ∈ numberedArgs id leaf args → rawOk raw
  | [], id, leaf, _, key, raw, mem => by
    rw [numberedArgs] at mem
    exact absurd mem List.not_mem_nil
  | (_, .node outline) :: rest, id, leaf, every, key, raw, mem => by
    rw [EveryArg] at every
    rw [numberedArgs] at mem
    rcases List.mem_cons.1 mem with same | later
    · cases congrArg Prod.snd same
    · exact raw_of_mem_numberedArgs rest every.2 key raw later
  | (_, .leaf _) :: rest, id, leaf, every, key, raw, mem => by
    rw [EveryArg] at every
    rw [numberedArgs] at mem
    rcases List.mem_cons.1 mem with same | later
    · cases congrArg Prod.snd same
    · exact raw_of_mem_numberedArgs rest every.2 key raw later
  | (_, .malformed first) :: rest, id, leaf, every, key, raw, mem => by
    rw [EveryArg] at every
    rw [numberedArgs] at mem
    rcases List.mem_cons.1 mem with same | later
    · obtain rfl := Arg.malformed.inj (congrArg Prod.snd same)
      exact every.1
    · exact raw_of_mem_numberedArgs rest every.2 key raw later

mutual

/-- The malformed arguments that are stored for an outline are those of the outline. -/
theorem everyRaw_of_mem_laidNodes : ∀ (outline : Outline) {parent : Option Nat} {id leaf : Nat},
    outline.Every scalarOk rawOk → ∀ node ∈ outline.laidNodes parent id leaf, node.EveryRaw rawOk
  | ⟨kind, args, body, comment⟩, parent, id, leaf, every, node, mem => by
    rw [Every] at every
    rw [laidNodes] at mem
    rcases List.mem_cons.1 mem with rfl | below
    · exact raw_of_mem_numberedArgs args every.1
    · rcases List.mem_append.1 below with inArgs | inBody
      · exact everyRaw_of_mem_laidArgs args every.1 node inArgs
      · exact everyRaw_of_mem_laidBody body every.2 node inBody

theorem everyRaw_of_mem_laidArgs : ∀ (args : List (String × Arg Outline Value))
    {owner id leaf : Nat}, EveryArg scalarOk rawOk args →
      ∀ node ∈ laidArgs owner id leaf args, node.EveryRaw rawOk
  | [], owner, id, leaf, _, node, mem => by
    rw [laidArgs] at mem
    exact absurd mem List.not_mem_nil
  | (_, .node outline) :: rest, owner, id, leaf, every, node, mem => by
    rw [EveryArg] at every
    rw [laidArgs] at mem
    rcases List.mem_append.1 mem with first | later
    · exact everyRaw_of_mem_laidNodes outline every.1 node first
    · exact everyRaw_of_mem_laidArgs rest every.2 node later
  | (_, .leaf _) :: rest, owner, id, leaf, every, node, mem => by
    rw [EveryArg] at every
    rw [laidArgs] at mem
    exact everyRaw_of_mem_laidArgs rest every.2 node mem
  | (_, .malformed _) :: rest, owner, id, leaf, every, node, mem => by
    rw [EveryArg] at every
    rw [laidArgs] at mem
    exact everyRaw_of_mem_laidArgs rest every.2 node mem

theorem everyRaw_of_mem_laidBody : ∀ (body : List Outline) {owner id leaf : Nat},
    EveryChild scalarOk rawOk body →
      ∀ node ∈ laidBody owner id leaf body, node.EveryRaw rawOk
  | [], owner, id, leaf, _, node, mem => by
    rw [laidBody] at mem
    exact absurd mem List.not_mem_nil
  | outline :: rest, owner, id, leaf, every, node, mem => by
    rw [EveryChild] at every
    rw [laidBody] at mem
    rcases List.mem_append.1 mem with first | later
    · exact everyRaw_of_mem_laidNodes outline every.1 node first
    · exact everyRaw_of_mem_laidBody rest every.2 node later

end

mutual

/-- The scalars that are stored for an outline are those of the outline. -/
theorem scalar_of_mem_laidLeaves : ∀ (outline : Outline) {id : Nat},
    outline.Every scalarOk rawOk → ∀ leaf ∈ outline.laidLeaves id, scalarOk leaf.value
  | ⟨kind, args, body, comment⟩, id, every, leaf, mem => by
    rw [Every] at every
    rw [laidLeaves] at mem
    rcases List.mem_append.1 mem with inArgs | inBody
    · exact scalar_of_mem_laidArgLeaves args every.1 leaf inArgs
    · exact scalar_of_mem_laidBodyLeaves body every.2 leaf inBody

theorem scalar_of_mem_laidArgLeaves : ∀ (args : List (String × Arg Outline Value))
    {owner id : Nat}, EveryArg scalarOk rawOk args →
      ∀ leaf ∈ laidArgLeaves owner id args, scalarOk leaf.value
  | [], owner, id, _, leaf, mem => by
    rw [laidArgLeaves] at mem
    exact absurd mem List.not_mem_nil
  | (_, .node outline) :: rest, owner, id, every, leaf, mem => by
    rw [EveryArg] at every
    rw [laidArgLeaves] at mem
    rcases List.mem_append.1 mem with first | later
    · exact scalar_of_mem_laidLeaves outline every.1 leaf first
    · exact scalar_of_mem_laidArgLeaves rest every.2 leaf later
  | (_, .leaf _) :: rest, owner, id, every, leaf, mem => by
    rw [EveryArg] at every
    rw [laidArgLeaves] at mem
    rcases List.mem_cons.1 mem with rfl | later
    · exact every.1
    · exact scalar_of_mem_laidArgLeaves rest every.2 leaf later
  | (_, .malformed _) :: rest, owner, id, every, leaf, mem => by
    rw [EveryArg] at every
    rw [laidArgLeaves] at mem
    exact scalar_of_mem_laidArgLeaves rest every.2 leaf mem

theorem scalar_of_mem_laidBodyLeaves : ∀ (body : List Outline) {id : Nat},
    EveryChild scalarOk rawOk body → ∀ leaf ∈ laidBodyLeaves id body, scalarOk leaf.value
  | [], id, _, leaf, mem => by
    rw [laidBodyLeaves] at mem
    exact absurd mem List.not_mem_nil
  | outline :: rest, id, every, leaf, mem => by
    rw [EveryChild] at every
    rw [laidBodyLeaves] at mem
    rcases List.mem_append.1 mem with first | later
    · exact scalar_of_mem_laidLeaves outline every.1 leaf first
    · exact scalar_of_mem_laidBodyLeaves rest every.2 leaf later

end

end Outline

/-! ## Trees that equal themselves -/

/-- A list goes through a comparison with itself if each of its items does. -/
theorem all_zip_self {α : Type} {items : List α} (same : α × α → Bool)
    (each : ∀ item ∈ items, same (item, item) = true) : (items.zip items).all same = true := by
  induction items with
  | nil => rfl
  | cons item rest ih =>
    rw [List.zip_cons_cons, List.all_cons, each item List.mem_cons_self,
      ih fun other mem => each other (List.mem_cons_of_mem _ mem)]
    rfl

namespace Tree

/-- A stored node equals itself if its malformed values have no repeated keys. -/
theorem Node.same_self {node : Node} (every : node.EveryRaw Json.KeysDistinct) :
    node.same node = true := by
  have args : sameArgs node.args node.args = true := by
    rw [sameArgs, beq_self_eq_true, Bool.true_and]
    apply all_zip_self
    rintro ⟨key, arg⟩ mem
    dsimp only
    rw [beq_self_eq_true, Bool.true_and]
    cases arg with
    | node id => exact beq_self_eq_true id
    | leaf id => exact beq_self_eq_true id
    | malformed raw => exact raw.same_self (every key raw mem)
  rw [Node.same, args]
  simp only [beq_self_eq_true, Bool.and_self]

/-- A stored leaf equals itself unless it holds what is not a number. -/
theorem Leaf.same_self {leaf : Leaf} (number : leaf.value ≠ .float .nan) :
    leaf.same leaf = true := by
  rw [Leaf.same, Value.same_self number]
  simp only [beq_self_eq_true, Bool.and_self]

/-- The tree of an outline equals itself if the outline has nothing that differs from itself. -/
theorem same_ofOutline_self {outline : Outline}
    (every : outline.Every (· ≠ .float .nan) Json.KeysDistinct) :
    (ofOutline outline).same (ofOutline outline) = true := by
  have nodes : ∀ node ∈ outline.laidNodes none 0 0, node.same node = true := by
    intro node mem
    exact Node.same_self (outline.everyRaw_of_mem_laidNodes every node mem)
  have leaves : ∀ leaf ∈ outline.laidLeaves 0, leaf.same leaf = true := by
    intro leaf mem
    exact Leaf.same_self (outline.scalar_of_mem_laidLeaves every leaf mem)
  rw [same, beq_self_eq_true, beq_self_eq_true, Bool.true_and, Bool.true_and]
  refine Bool.and_eq_true_iff.2 ⟨?_, ?_⟩
  · exact all_zip_self _ nodes
  · exact all_zip_self _ leaves

/-! ## Documents -/

section Read

variable [Json.Format]

/-- What is read of a document is the tree of an outline of it. -/
theorem ofJson_eq_ok_iff {json : Json} {tree : Tree} :
    ofJson json = .ok tree ↔
      ∃ outline, Outline.ofJson json = .ok outline ∧ tree = ofOutline outline := by
  rw [ofJson]
  cases Outline.ofJson json with
  | ok outline =>
    constructor
    · intro h
      cases h
      exact ⟨outline, rfl, rfl⟩
    · rintro ⟨_, same, rfl⟩
      cases same
      rfl
  | error e =>
    constructor
    · intro h
      cases h
    · rintro ⟨_, same, _⟩
      cases same

/-- A tree that was read from a document without repeated keys, written and read back, is the same
tree, also by the comparison of trees; and written once more it gives the same document. -/
theorem ofJson_json_of_ofJson {json : Json} (distinct : json.KeysDistinct) {tree : Tree}
    (read : ofJson json = .ok tree) :
    ofJson tree.json = .ok tree ∧ tree.same tree = true ∧
      (ofJson tree.json).map Tree.json = .ok tree.json := by
  obtain ⟨outline, inner, rfl⟩ := ofJson_eq_ok_iff.1 read
  have every := Outline.every_of_decode distinct inner
  have readable := Outline.readable_of_ofJson inner
  have unrepeated := Outline.keysDistinct_of_ofJson distinct inner
  -- The document written for the tree is that of its outline, which is what was read.
  have again : ofJson (ofOutline outline).json = .ok (ofOutline outline) := by
    rw [Tree.json, outline_ofOutline]
    exact ofJson_eq_ok_iff.2 ⟨outline, outline.decode_json [] readable unrepeated, rfl⟩
  refine ⟨again, same_ofOutline_self (every.mono (fun _ h => h.ne_nan) fun _ h => h.2), ?_⟩
  rw [again]
  rfl

end Read

/-- A document with an argument of each sort, a body, fields that mean nothing and null for
arguments. -/
def mixedDocument : Json :=
  .object
    [("comment", .string "mixed"), ("kind", .string "sequence"), ("color", .null),
      ("args", .object
        [("locals", .object [("kind", .string "scope_declaration"), ("args", .null)]),
          ("version", .number (.integer 20 (by decide))),
          ("speed", .number (.integer (2 ^ 63) (by decide))),
          ("label", .object [("kind", .string "unheard_of"), ("args", .array [.null])]),
          ("location", .array [])]),
      ("body", .array [.object [("kind", .string "wait"), ("comment", .boolean true)]])]

/-- The outline that the document describes. -/
def mixedOutline : Outline where
  kind := .sequence
  args :=
    [("locals", .node (.ofKind .scopeDeclaration)), ("version", .leaf (.integer 20)),
      ("speed", .leaf (.ofNumber (.integer (2 ^ 63) (by decide)))),
      ("label", .malformed (.object [("kind", .string "unheard_of"), ("args", .array [.null])])),
      ("location", .malformed (.array []))]
  body := [.ofKind .wait]
  comment := some "mixed"

/-- The document in the one way in which it is written. -/
def mixedNormal : Json :=
  .object
    [("kind", .string "sequence"),
      ("args", .object
        [("locals", .object [("kind", .string "scope_declaration"), ("args", .object [])]),
          ("version", .number (.integer 20 (by decide))),
          ("speed", .number (.float (.ofNat 9223372036854775808 (by decide)))),
          ("label", .object [("kind", .string "unheard_of"), ("args", .array [.null])]),
          ("location", .array [])]),
      ("body", .array [.object [("kind", .string "wait"), ("args", .object [])]]),
      ("comment", .string "mixed")]

theorem keysDistinct_mixedDocument : mixedDocument.KeysDistinct := by
  simp [mixedDocument, Json.KeysDistinct, Json.KeysDistinctFields, Json.KeysDistinctItems]

theorem ofJson_json_of_mixedDocument :
    mixedDocument.KeysDistinct ∧ ofJson mixedDocument = .ok (ofOutline mixedOutline) ∧
      ofJson (ofOutline mixedOutline).json = .ok (ofOutline mixedOutline) ∧
      (ofOutline mixedOutline).same (ofOutline mixedOutline) = true ∧
      (ofJson (ofOutline mixedOutline).json).map Tree.json = .ok (ofOutline mixedOutline).json := by
  have read : ofJson mixedDocument = .ok (ofOutline mixedOutline) :=
    ofJson_eq_ok_iff.2 ⟨mixedOutline, rfl, rfl⟩
  exact ⟨keysDistinct_mixedDocument, read, ofJson_json_of_ofJson keysDistinct_mixedDocument read⟩

end Tree

end SequenceCheck
