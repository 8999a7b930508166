import SequenceCheck.Proofs.Outline.Demands
import SequenceCheck.Tree.Document

/-!
# Documents that are rejected

A document that is no sequence is rejected with the error of the first demand that it does not meet.
The error names a place by the steps that lead there from the root (`Leads`): under `args` to a
value that names a kind, and under `body` to any entry. So an error about a kind is about the root
or an entry of a body, since an argument is entered only if it names a kind.

`e.Blames document` says what is wrong with a document that is rejected with the error `e`.

Main statement: what a rejection says is the first thing that is wrong with the document, at the
place that the error names (`ofJson_rejects_first`).
-/

set_option autoImplicit false

namespace SequenceCheck

namespace Outline

/-! ## Places -/

/-- A path leads from a document to a value that is read as a node or as an entry of a body. -/
inductive Leads (document : Json) : Path → Json → Prop
  | root : Leads document [] document
  | arg {path : Path} {fields entries : List (String × Json)} {key : String} {value : Json} :
    Leads document path (.object fields) → fields.lookup "args" = some (.object entries) →
    (key, value) ∈ entries → value.NamesKind →
    Leads document (path ++ [.arg key]) value
  | child {path : Path} {fields : List (String × Json)} {items : List Json} {index : Nat}
    {item : Json} :
    Leads document path (.object fields) → fields.lookup "body" = some (.array items) →
    items[index]? = some item → Leads document (path ++ [.child index]) item

/-- A path ends at the root or at an entry of a body. -/
def Path.EndsAtEntry (path : Path) : Prop :=
  path = [] ∨ ∃ above index, path = above ++ [Step.child index]

/-- A path is written step by step. -/
theorem Path.text_append_singleton (path : Path) (step : Step) :
    Path.text (path ++ [step]) = path.text ++ step.text := by
  rw [Path.text, Path.text, List.map_append, String.join_append, ← String.append_assoc,
    List.map_singleton, String.join_cons, String.join_nil, String.append_empty]

/-- A value that a path leads to and that names no kind is the root or an entry of a body. -/
theorem Leads.endsAtEntry {document value : Json} {path : Path} (leads : Leads document path value)
    (unnamed : ¬ value.NamesKind) : path.EndsAtEntry := by
  cases leads with
  | root => exact .inl rfl
  | arg _ _ _ names => exact absurd names unnamed
  | child _ _ _ => exact .inr ⟨_, _, rfl⟩

/-! ## Where demands stand -/

/-- What is demanded at a place is demanded of what the place leads to. -/
def Demand.Stands (document : Json) : Demand → Prop
  | .document json => json = document
  | .kind path fields | .args path fields | .body path fields =>
    Leads document path (.object fields)
  | .entry path item => Leads document path item ∧ ∃ above index, path = above ++ [.child index]

/-- The demands on a value that a path leads to stand at or below that path. -/
theorem stands_of_mem_demandsAt {document : Json} (json : Json) :
    ∀ {path : Path}, Leads document path json →
      ∀ demand ∈ demandsAt path json, demand.Stands document := by
  induction json using Json.induct_parts with
  | object fields inArgs inBody =>
    intro path leads demand mem
    rw [demandsAt_object] at mem
    simp only [List.mem_append, List.mem_cons, List.mem_flatMap] at mem
    rcases mem with (rfl | rfl | ⟨entry, inEntries, below⟩) | rfl | ⟨⟨item, index⟩, inItems, below⟩
    · exact leads
    · exact leads
    · have found := lookup_args_of_mem inEntries
      by_cases names : entry.2.NamesKind
      · rw [if_pos names] at below
        exact inArgs _ found entry inEntries (leads.arg found inEntries names) demand below
      · rw [if_neg names] at below
        exact absurd below List.not_mem_nil
    · exact leads
    · have held : (bodyItems fields)[index]? = some item := List.mem_zipIdx_iff_getElem?.1 inItems
      have inBodyItems := List.mem_of_getElem? held
      have found := lookup_body_of_mem inBodyItems
      rcases below with rfl | below
      · exact ⟨leads.child found held, path, index, rfl⟩
      · exact inBody _ found item inBodyItems (leads.child found held) demand below
  | other json noObject =>
    intro path _ demand mem
    cases json with
    | object fields => cases noObject
    | _ =>
      rw [demandsAt] at mem
      · exact absurd mem List.not_mem_nil
      · intro fields same
        cases same

theorem stands_of_mem_demands {document : Json} {demand : Demand}
    (mem : demand ∈ demands document) : demand.Stands document := by
  rcases List.mem_cons.1 mem with rfl | below
  · exact rfl
  · exact stands_of_mem_demandsAt document .root demand below

end Outline

open Outline

/-! ## What an error says -/

/-- What is wrong with a document that is rejected with an error, and where. -/
inductive DecodeError.Blames [Json.Format] (document : Json) : DecodeError → Prop
  | notANode : document.isObject = false → Blames document (.notANode [])
  | missingKind {path : Path} {fields : List (String × Json)} :
    Leads document path (.object fields) → path.EndsAtEntry →
    fields.lookup "kind" = none ∨ fields.lookup "kind" = some .null →
    Blames document (.missingKind path)
  | unknownName {path : Path} {fields : List (String × Json)} {name : String} :
    Leads document path (.object fields) → path.EndsAtEntry →
    fields.lookup "kind" = some (.string name) → (∀ kind : Kind, kind.name ≠ name) →
    Blames document (.unknownKind name)
  | otherKind {path : Path} {fields : List (String × Json)} {other : Json} :
    Leads document path (.object fields) → path.EndsAtEntry →
    fields.lookup "kind" = some other → other ≠ .null → (∀ name, other ≠ .string name) →
    Blames document (.unknownKind other.text)
  | badArgs {path : Path} {fields : List (String × Json)} {other : Json} :
    Leads document path (.object fields) →
    fields.lookup "args" = some other → other ≠ .null → other.isObject = false →
    Blames document (.badArgs path)
  | badBody {path : Path} {fields : List (String × Json)} {other : Json} :
    Leads document path (.object fields) →
    fields.lookup "body" = some other → other ≠ .null → (∀ items, other ≠ .array items) →
    Blames document (.badBody path)
  | badEntry {path : Path} {index : Nat} {item : Json} :
    Leads document (path ++ [.child index]) item → item.isObject = false →
    Blames document (.badBody (path ++ [.child index]))

variable [Json.Format]

/-- An object whose kind is objected to names no kind. -/
theorem Outline.not_namesKind_of_violated {path : Path} {fields : List (String × Json)}
    {e : DecodeError} (violated : Demand.Violated (.kind path fields) e) :
    ¬ (Json.object fields).NamesKind := by
  rw [← errorOf_decodeKind_iff, errorOf_eq_some_iff] at violated
  rintro ⟨kind, found⟩
  rw [decodeKind_eq_ok_iff.2 found] at violated
  cases violated

/-- The error of a demand that stands in a document and is not met says what is wrong there. -/
theorem DecodeError.blames_of_violated {document : Json} {demand : Demand} {e : DecodeError}
    (stands : demand.Stands document) (violated : demand.Violated e) : e.Blames document := by
  have place : ∀ {path : Path} {fields : List (String × Json)},
      Leads document path (.object fields) → Demand.Violated (.kind path fields) e →
        path.EndsAtEntry :=
    fun leads violated => leads.endsAtEntry (not_namesKind_of_violated violated)
  cases violated with
  | notANode noObject =>
    obtain rfl : _ = document := stands
    exact .notANode noObject
  | noKind found => exact .missingKind stands (place stands (.noKind found)) (.inl found)
  | nullKind found => exact .missingKind stands (place stands (.nullKind found)) (.inr found)
  | unknownName found unnamed =>
    exact .unknownName stands (place stands (.unknownName found unnamed)) found unnamed
  | otherKind found notNull notString =>
    exact .otherKind stands (place stands (.otherKind found notNull notString)) found notNull
      notString
  | badArgs found notNull notObject => exact .badArgs stands found notNull notObject
  | badBody found notNull notArray => exact .badBody stands found notNull notArray
  | badEntry noObject =>
    obtain ⟨leads, above, index, rfl⟩ := stands
    exact .badEntry leads noObject

namespace Tree

/-- A document gives no tree exactly if it gives no outline. -/
theorem ofJson_eq_error {document : Json} {e : DecodeError} :
    ofJson document = .error e ↔ Outline.ofJson document = .error e := by
  rw [ofJson]
  cases Outline.ofJson document <;> simp [Except.map]

/-- A document is rejected with the error of the first demand that it does not meet, and that error
says what is wrong at the place to which its path leads. The path is written from the root on, step
by step. -/
theorem ofJson_rejects_first (document : Json) :
    (∀ e, ofJson document = .error e ↔
      ∃ before demand after, demands document = before ++ demand :: after ∧
        (∀ earlier ∈ before, ∀ other, ¬ earlier.Violated other) ∧ demand.Violated e) ∧
    (∀ demand ∈ demands document, demand.Stands document) ∧
    (∀ e, ofJson document = .error e → e.Blames document) ∧
    Path.text [] = "root" ∧
    (∀ (path : Path) (key : String),
      Path.text (path ++ [.arg key]) = path.text ++ (".args." ++ key)) ∧
    ∀ (path : Path) (index : Nat),
      Path.text (path ++ [.child index]) = path.text ++ (".body[" ++ toString index ++ "]") := by
  refine ⟨fun e => ofJson_eq_error.trans Outline.ofJson_eq_error_iff,
    fun demand mem => stands_of_mem_demands mem, fun e rejected => ?_, rfl,
    fun path key => Path.text_append_singleton path (.arg key),
    fun path index => Path.text_append_singleton path (.child index)⟩
  obtain ⟨before, demand, after, split, -, violated⟩ :=
    Outline.ofJson_eq_error_iff.1 (ofJson_eq_error.1 rejected)
  have mem : demand ∈ demands document := by
    rw [split]
    exact List.mem_append_right _ List.mem_cons_self
  exact DecodeError.blames_of_violated (stands_of_mem_demands mem) violated

/-- Arguments come before the body, wherever the two fields are written. -/
example :
    ofJson (.object
      [("body", .array [.null]), ("kind", .string "sequence"),
        ("args", .object
          [("locals", .object [("kind", .string "scope_declaration"),
            ("body", .array [.object []])])])]) =
      .error (.missingKind [.arg "locals", .child 0]) :=
  rfl

end Tree

end SequenceCheck
