import SequenceCheck.Proofs.Json.RoundTrip
import SequenceCheck.Proofs.Outline.Height
import SequenceCheck.Proofs.Tree.RoundTrip

/-!
# Trees read back from their text

A text is read only if its nesting is within the limit. What is written for a tree may be nested
more than the text that the tree was read from: an innermost node may be read without arguments, and
is written with them. All that is used of a format is that it is lawful.

Main statement: a tree that was read from a text is read back from its own text if each of its
nodes leaves room for two containers; otherwise its text is refused (`ofText_text_of_ofText`). There
are such trees in every lawful format (`not_forall_ofText_text`).
-/

set_option autoImplicit false

namespace SequenceCheck.Tree

section Read

variable [Json.Format]

/-- What is read of a text is the tree of an outline of its value. -/
theorem ofText_eq_ok_iff {text : String} {tree : Tree} :
    ofText text = .ok tree ↔ ∃ json outline, Json.ofText? text = some json ∧
      Outline.ofJson json = .ok outline ∧ tree = ofOutline outline := by
  rw [ofText, Outline.ofText]
  cases Json.ofText? text with
  | none =>
    constructor
    · intro read
      cases read
    · rintro ⟨_, _, none, -⟩
      cases none
  | some json =>
    refine ofJson_eq_ok_iff.trans ⟨?_, ?_⟩
    · rintro ⟨outline, read, same⟩
      exact ⟨json, outline, rfl, read, same⟩
    · rintro ⟨_, outline, same, read, tree⟩
      cases same
      exact ⟨outline, read, tree⟩

/-- A text that has no value describes no tree. -/
theorem ofText_eq_invalidJson {text : String} (none : Json.ofText? text = none) :
    ofText text = .error .invalidJson := by
  rw [ofText, Outline.ofText, none]
  rfl

/-- The text of a tree that was read from a document is read back if each node leaves room for two
containers, and refused otherwise, if the document is within the limit. -/
theorem ofText_text_of_ofJson (laws : Json.Format.Lawful) {json : Json} {outline : Outline}
    (distinct : json.KeysDistinct) (within : json.nesting ≤ Json.nestingLimit)
    (read : Outline.ofJson json = .ok outline) :
    ofText (ofOutline outline).text =
      if 2 * outline.height ≤ Json.nestingLimit then .ok (ofOutline outline)
      else .error .invalidJson := by
  have fits := Outline.nesting_json_le_iff_of_ofJson distinct read within
  have again := outline.decode_json [] (Outline.readable_of_ofJson read)
    (Outline.keysDistinct_of_ofJson distinct read)
  have writtenDistinct := Outline.keysDistinct_json_of_ofJson distinct read
  -- What is read back is the document written for the tree, which may be nested more than the one
  -- that was read.
  rw [text, Tree.json, outline_ofOutline]
  by_cases room : 2 * outline.height ≤ Json.nestingLimit
  · rw [if_pos room]
    exact ofText_eq_ok_iff.2 ⟨_, _, laws.readsBack writtenDistinct (fits.2 room), again, rfl⟩
  · rw [if_neg room]
    exact ofText_eq_invalidJson (laws.refuses writtenDistinct (Nat.not_le.1 (mt fits.1 room)))

end Read

/-- In a lawful format a tree that was read from a text is read back from its own text, and equals
itself, if each of its nodes leaves room for two containers; otherwise its text is refused. -/
theorem ofText_text_of_ofText [Json.Format] (laws : Json.Format.Lawful) {source : String}
    {tree : Tree} (read : ofText source = .ok tree) :
    (2 * tree.outline.height ≤ Json.nestingLimit →
      ofText tree.text = .ok tree ∧ tree.same tree = true) ∧
    (Json.nestingLimit < 2 * tree.outline.height →
      ofText tree.text = .error .invalidJson) := by
  obtain ⟨json, outline, value, inner, rfl⟩ := ofText_eq_ok_iff.1 read
  have distinct := laws.keysDistinct value
  have again := ofText_text_of_ofJson laws distinct (laws.nesting_le value) inner
  rw [outline_ofOutline]
  constructor
  · intro room
    rw [if_pos room] at again
    have every := Outline.every_of_decode distinct inner
    exact ⟨again, same_ofOutline_self
      (every.mono (fun _ finite => finite.ne_nan) fun _ received => received.2)⟩
  · intro full
    rwa [if_neg (Nat.not_le.2 full)] at again

/-! ## Deep documents -/

/-- A document with a number of nodes one below the other, and one more at the end that has no
arguments, not even none. -/
def deepDocument : Nat → Json
  | 0 => .object [("kind", .string "nothing")]
  | n + 1 => .object [("kind", .string "sequence"), ("body", .array [deepDocument n])]

/-- The outline of the document. -/
def deepOutline : Nat → Outline
  | 0 => .ofKind .nothing
  | n + 1 => (Outline.ofKind .sequence).withChild (deepOutline n)

theorem ofJson_deepDocument [Json.Format] (n : Nat) :
    Outline.ofJson (deepDocument n) = .ok (deepOutline n) := by
  induction n with
  | zero => exact Outline.ofJson_object_eq_ok_iff.2 ⟨rfl, .absent, .absent, rfl⟩
  | succ n ih =>
    exact Outline.ofJson_object_eq_ok_iff.2 ⟨rfl, .absent, .array (.cons ih .nil), rfl⟩

theorem keysDistinct_deepDocument (n : Nat) : (deepDocument n).KeysDistinct := by
  induction n with
  | zero => simp [deepDocument, Json.KeysDistinct, Json.KeysDistinctFields]
  | succ n ih =>
    simp [deepDocument, Json.KeysDistinct, Json.KeysDistinctFields, Json.KeysDistinctItems, ih]

theorem nesting_deepDocument (n : Nat) : (deepDocument n).nesting = 2 * n + 1 := by
  induction n with
  | zero => simp [deepDocument, Json.nesting, Json.nestingFields]
  | succ n ih =>
    simp [deepDocument, Json.nesting, Json.nestingFields, Json.nestingItems, ih]
    omega

theorem height_deepOutline (n : Nat) : (deepOutline n).height = n + 1 := by
  induction n with
  | zero => rfl
  | succ n ih =>
    change max (Outline.heightArgs []) (Outline.heightBody [deepOutline n]) + 1 = n + 1 + 1
    rw [Outline.heightArgs, Outline.heightBody, Outline.heightBody, ih]
    omega

/-- A deep document is read from its text if its nesting is within the limit. -/
theorem ofText_deepDocument [Json.Format] (laws : Json.Format.Lawful) {n : Nat}
    (within : 2 * n + 1 ≤ Json.nestingLimit) :
    ofText (deepDocument n).text = .ok (ofOutline (deepOutline n)) := by
  rw [← nesting_deepDocument] at within
  have value := laws.readsBack (keysDistinct_deepDocument n) within
  exact ofText_eq_ok_iff.2 ⟨_, _, value, ofJson_deepDocument n, rfl⟩

/-- The text of the tree of the deepest such document is refused. -/
theorem ofText_text_deepOutline [Json.Format] (laws : Json.Format.Lawful) :
    ofText (ofOutline (deepOutline 63)).text = .error .invalidJson := by
  have within : (deepDocument 63).nesting ≤ Json.nestingLimit := by
    rw [nesting_deepDocument]
    decide
  rw [ofText_text_of_ofJson laws (keysDistinct_deepDocument 63) within (ofJson_deepDocument 63),
    height_deepOutline]
  rfl

open Json (lawful_standardFormat)

theorem ofText_text_of_deepDocument :
    Json.Format.Lawful ∧
    (ofText (deepDocument 62).text = .ok (ofOutline (deepOutline 62)) ∧
      ofText (ofOutline (deepOutline 62)).text = .ok (ofOutline (deepOutline 62)) ∧
      (ofOutline (deepOutline 62)).same (ofOutline (deepOutline 62)) = true) ∧
    (ofText (deepDocument 63).text = .ok (ofOutline (deepOutline 63)) ∧
      ofText (ofOutline (deepOutline 63)).text = .error .invalidJson) := by
  have fits := ofText_deepDocument lawful_standardFormat (n := 62) (by decide)
  have deep := ofText_deepDocument lawful_standardFormat (n := 63) (by decide)
  refine ⟨lawful_standardFormat, ⟨fits, (ofText_text_of_ofText lawful_standardFormat fits).1 ?_⟩, deep,
    (ofText_text_of_ofText lawful_standardFormat deep).2 ?_⟩
  · rw [outline_ofOutline, height_deepOutline]
    decide
  · rw [outline_ofOutline, height_deepOutline]
    decide

/-- There are lawful formats, and in none of them is every tree that is read from a text read back
from its own text. -/
theorem not_forall_ofText_text :
    (∃ _ : Json.Format, Json.Format.Lawful) ∧
      ∀ _ : Json.Format, Json.Format.Lawful →
        ¬ ∀ source tree, ofText source = .ok tree → ofText tree.text = .ok tree := by
  refine ⟨⟨Json.standardFormat, lawful_standardFormat⟩, fun _ laws all => ?_⟩
  have again := all _ _ (ofText_deepDocument laws (n := 63) (by decide))
  rw [ofText_text_deepOutline laws] at again
  cases again

end SequenceCheck.Tree
