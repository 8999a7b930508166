import SequenceCheck.Diagnostic
import SequenceCheck.Proofs.Text.Filling
import SequenceCheck.Value

/-!
# Remarks and their wording

A remark is what a check has to say about a tree, as data. Its text has the data as they are. Its
wording is what people are shown: the holes of a message are filled in turn, so that a key with a
later marker in it is garbled.

Main statements: the message of a diagnostic is the wording of the remark (`message_diagnostic`),
and this is the text of the remark exactly if the remark is not garbled (`message_eq_text_iff`).
-/

set_option autoImplicit false

namespace SequenceCheck.Check

open SequenceCheck.Text

/-- What a check has to say about a tree. -/
inductive Remark where
  /-- A node has no argument of a key; those that it has are given. -/
  | missingArg (kind : Kind) (key : String) (present : List String)
  /-- A node has arguments beyond the required ones. -/
  | extraArgs (kind : Kind) (extras required : List String)
  /-- A leaf is not of a type that is allowed under its key. -/
  | strayLeaf (key : String) (parent : Kind) (allowed : List LeafType) (actual : LeafType)
  /-- A node is not of a kind that is allowed under its key. -/
  | strayNode (kind parent : Kind) (allowed : List Kind)
  /-- An argument is neither a node nor a leaf. -/
  | malformed (key : String)
  /-- A node is not of a kind that is allowed in the body that it stands in. -/
  | badBody (parent child : Kind) (index : Nat) (allowed : List Kind)
  /-- An identifier refers to nothing. -/
  | unboundVariable (label : String)

namespace Remark

/-- The text about an absent argument. -/
def missingArgText (kind key present : String) : String :=
  "Expected node '" ++ kind ++ "' to have a '" ++ key ++ "', but got: " ++ present ++ "."

/-- The keys that a node has, in a text. -/
def presentText (present : List String) : String :=
  if present.isEmpty then "nothing" else String.intercalate ", " present

/-- The text about arguments beyond the required ones. -/
def extraArgsText (kind extras allowed : String) : String :=
  "'" ++ kind ++ "' has unexpected arguments: " ++ extras ++ ". Allowed arguments: " ++ allowed

/-- The common text about a value that is not allowed. -/
def commonLeafText (name parent allowed actual : String) : String :=
  "Expected leaf '" ++ name ++ "' within '" ++ parent ++ "' to be one of: " ++ allowed ++
    " but got " ++ actual

/-- A value that nobody filled in. -/
def Unfilled (name : String) (parent : Kind) : Prop :=
  name = "nothing" ∧ parent = .variableDeclaration

instance (name : String) (parent : Kind) : Decidable (Unfilled name parent) :=
  inferInstanceAs (Decidable (_ ∧ _))

/-- The text about a value that is not allowed, friendlier where nobody filled it in. -/
def badLeafText (name : String) (parent : Kind) (allowed actual : String) : String :=
  if Unfilled name parent then "You must provide a value for all parameters"
  else commonLeafText name parent.name allowed actual

/-- The text about an argument that is neither a node nor a leaf. -/
def malformedText (key : String) : String :=
  "Expected '" ++ key ++ "' to be a node or leaf, but it was neither"

/-- The text about a child that is not allowed in a body. -/
def badBodyText (parent child index allowed : String) : String :=
  "Body of '" ++ parent ++ "' node contains '" ++ child ++ "' node at index " ++ index ++
    ". Expected one of: " ++ allowed

/-- The text about an identifier that refers to nothing. -/
def unboundVariableText (label : String) : String :=
  "Unbound variable: " ++ label

/-- The text of a remark, with its data as they are. -/
def text : Remark → String
  | .missingArg kind key present => missingArgText kind.name key (presentText present)
  | .extraArgs kind extras required =>
    extraArgsText kind.name (quotedList extras) (quotedList required)
  | .strayLeaf key parent allowed actual =>
    badLeafText key parent (bareList (allowed.map LeafType.title)) actual.title
  | .strayNode kind parent allowed =>
    badLeafText kind.name parent (quotedList (allowed.map Kind.name)) kind.name
  | .malformed key => malformedText key
  | .badBody parent child index allowed =>
    badBodyText parent.name child.name (toString index) (quotedList (allowed.map Kind.name))
  | .unboundVariable label => unboundVariableText label

/-- What is filled in after the name of a value that is not allowed. -/
def badLeafRest (parent : Kind) (allowed actual : String) : List (String × String) :=
  [("parent_kind", parent.name), ("allowed", allowed), ("actual", actual)]

/-- The wording of a remark: its text, except that what is filled in after a key is filled in in the
key as well. -/
def wording : Remark → String
  | .missingArg kind key present =>
    missingArgText kind.name (replaceAll (marker "present") (presentText present) key)
      (presentText present)
  | .extraArgs kind extras required =>
    extraArgsText kind.name
      (replaceAll (marker "allowed") (quotedList required) (quotedList extras))
      (quotedList required)
  | .strayLeaf key parent allowed actual =>
    if Unfilled key parent then (Remark.strayLeaf key parent allowed actual).text
    else
      commonLeafText
        (fillMarkers (badLeafRest parent (bareList (allowed.map LeafType.title)) actual.title) key)
        parent.name (bareList (allowed.map LeafType.title)) actual.title
  | .strayNode kind parent allowed => (Remark.strayNode kind parent allowed).text
  | .malformed key => (Remark.malformed key).text
  | .badBody parent child index allowed => (Remark.badBody parent child index allowed).text
  | .unboundVariable label => (Remark.unboundVariable label).text

/-- The fault that a remark is about. -/
def fault : Remark → Fault
  | .missingArg _ _ _ => .missingArg
  | .extraArgs _ _ _ => .extraArgs
  | .strayLeaf _ _ _ _ => .badLeaf
  | .strayNode _ _ _ => .badLeaf
  | .malformed _ => .malformed
  | .badBody _ _ _ _ => .badBody
  | .unboundVariable _ => .unboundVariable

/-- A key of a remark has a marker in it that is filled after the key. -/
def Garbled : Remark → Prop
  | .missingArg _ key present => Occurs (marker "present") key ∧ present ≠ [marker "present"]
  | .extraArgs _ extras _ => ∃ key ∈ extras, Occurs (marker "allowed") key
  | .strayLeaf key _ _ _ =>
    Occurs (marker "parent_kind") key ∨ Occurs (marker "allowed") key ∨ Occurs (marker "actual") key
  | .strayNode _ _ _ => False
  | .malformed _ => False
  | .badBody _ _ _ _ => False
  | .unboundVariable _ => False

/-- The diagnostic that a remark is given as. -/
def diagnostic : Remark → Diagnostic
  | .missingArg kind key present => .missingArg kind key present
  | .extraArgs kind extras required => .extraArgs kind extras required
  | .strayLeaf key parent allowed actual =>
    .badLeaf key parent (bareList (allowed.map LeafType.title)) actual.title
  | .strayNode kind parent allowed =>
    .badLeaf kind.name parent (quotedList (allowed.map Kind.name)) kind.name
  | .malformed key => .malformed key
  | .badBody parent child index allowed =>
    .badBody parent child index (quotedList (allowed.map Kind.name))
  | .unboundVariable label => .unboundVariable label

theorem fault_diagnostic (remark : Remark) : remark.diagnostic.fault = remark.fault := by
  cases remark <;> rfl

end Remark

/-! ## Plain texts -/

theorem plain_kind (kind : Kind) : Plain kind.name := by
  cases kind <;> decide

theorem plain_title (type : LeafType) : Plain type.title := by
  cases type <;> decide

theorem plain_toString (index : Nat) : Plain (toString index) := by
  rw [Plain, Nat.toString_eq_repr, Nat.repr, String.toList_ofList]
  intro mem
  have digit := Nat.isDigit_of_mem_toDigits (by decide) (by decide) mem
  exact absurd digit (by decide)

theorem plain_bareList {items : List String} (plain : ∀ item ∈ items, Plain item) :
    Plain (bareList items) := by
  rw [bareList, plain_append_iff, plain_append_iff]
  exact ⟨⟨by decide, plain_intercalate (by decide) plain⟩, by decide⟩

theorem plain_quotedList {items : List String} (plain : ∀ item ∈ items, Plain item) :
    Plain (quotedList items) := by
  apply plain_bareList
  intro quoted mem
  obtain ⟨item, held, rfl⟩ := List.mem_map.1 mem
  rw [plain_append_iff, plain_append_iff]
  exact ⟨⟨by decide, plain item held⟩, by decide⟩

theorem plain_kinds (kinds : List Kind) : Plain (quotedList (kinds.map Kind.name)) := by
  apply plain_quotedList
  intro name mem
  obtain ⟨kind, _, rfl⟩ := List.mem_map.1 mem
  exact plain_kind kind

theorem plain_types (types : List LeafType) : Plain (bareList (types.map LeafType.title)) := by
  apply plain_bareList
  intro title mem
  obtain ⟨type, _, rfl⟩ := List.mem_map.1 mem
  exact plain_title type

/-! ## Messages -/

/-- The keys that are present are filled in after the key, so in this as well. -/
theorem message_missingArg (kind : Kind) (key : String) (present : List String) :
    (Diagnostic.missingArg kind key present).message =
      Remark.missingArgText kind.name
        (replaceAll (marker "present") (Remark.presentText present) key)
        (Remark.presentText present) := by
  have away : ∀ name ∈ ["kind", "key", "present"],
      Diagnostic.missingArgTemplate.apart name = true := by decide
  have spelled : ∀ content, Diagnostic.missingArgTemplate.spell content =
      Remark.missingArgText (content "kind") (content "key") (content "present") := fun _ => rfl
  have filled : (Diagnostic.missingArg kind key present).message =
      Diagnostic.missingArgTemplate.spell fun hole => fillMarkers
        [("kind", kind.name), ("key", key), ("present", Remark.presentText present)]
        (marker hole) := Template.fillInTurn_eq_spell (by exact away)
  rw [filled, spelled, fillMarkers_cons_self, fillMarkers_of_plain (plain_kind kind),
    fillMarkers_cons_of_ne (by decide), fillMarkers_cons_self, fillMarkers_cons_of_ne (by decide),
    fillMarkers_cons_of_ne (by decide), fillMarkers_cons_self, fillMarkers_cons, fillMarkers_nil,
    fillMarkers_nil]

/-- The allowed keys are filled in after the surplus ones, so in these as well. -/
theorem message_extraArgs (kind : Kind) (extras required : List String) :
    (Diagnostic.extraArgs kind extras required).message =
      Remark.extraArgsText kind.name
        (replaceAll (marker "allowed") (quotedList required) (quotedList extras))
        (quotedList required) := by
  have away : ∀ name ∈ ["kind", "extras", "allowed"],
      Diagnostic.extraArgsTemplate.apart name = true := by decide
  have spelled : ∀ content, Diagnostic.extraArgsTemplate.spell content =
      Remark.extraArgsText (content "kind") (content "extras") (content "allowed") := fun _ => rfl
  have filled : (Diagnostic.extraArgs kind extras required).message =
      Diagnostic.extraArgsTemplate.spell fun hole => fillMarkers
        [("kind", kind.name), ("extras", quotedList extras), ("allowed", quotedList required)]
        (marker hole) := Template.fillInTurn_eq_spell (by exact away)
  rw [filled, spelled, fillMarkers_cons_self, fillMarkers_of_plain (plain_kind kind),
    fillMarkers_cons_of_ne (by decide), fillMarkers_cons_self, fillMarkers_cons_of_ne (by decide),
    fillMarkers_cons_of_ne (by decide), fillMarkers_cons_self, fillMarkers_cons, fillMarkers_nil,
    fillMarkers_nil]

/-- The friendly wording has nothing to fill in. -/
theorem message_badLeaf_nothing (allowed actual : String) :
    (Diagnostic.badLeaf "nothing" .variableDeclaration allowed actual).message =
      "You must provide a value for all parameters" :=
  fillMarkers_of_plain (by decide) _

/-- In the common wording everything else is filled in after the name of the value, so in this as
well. -/
theorem message_badLeaf {name : String} {parent : Kind} {allowed : String} (actual : String)
    (common : ¬ Remark.Unfilled name parent) (plain : Plain allowed) :
    (Diagnostic.badLeaf name parent allowed actual).message =
      Remark.commonLeafText (fillMarkers (Remark.badLeafRest parent allowed actual) name)
        parent.name allowed actual := by
  have away : ∀ name ∈ ["kind", "parent_kind", "allowed", "actual"],
      Diagnostic.badLeafTemplate.apart name = true := by decide
  have spelled : ∀ content, Diagnostic.badLeafTemplate.spell content =
      Remark.commonLeafText (content "kind") (content "parent_kind") (content "allowed")
        (content "actual") := fun _ => rfl
  have unknown : Diagnostic.friendlyTemplates.lookup (name, parent) = none := by
    apply List.lookup_eq_none_iff.2
    intro entry mem
    obtain rfl := List.mem_singleton.1 mem
    rw [bne_iff_ne, ne_eq, Prod.mk.injEq]
    exact common
  have filled : (Diagnostic.badLeaf name parent allowed actual).message =
      Diagnostic.badLeafTemplate.spell fun hole => fillMarkers
        (("kind", name) :: Remark.badLeafRest parent allowed actual) (marker hole) := by
    rw [Diagnostic.badLeaf, unknown, Option.getD_none]
    exact Template.fillInTurn_eq_spell (by exact away)
  -- What is filled in later leaves the other values as they are.
  have parentText : fillMarkers (Remark.badLeafRest parent allowed actual) (marker "parent_kind") =
      parent.name := by
    rw [Remark.badLeafRest, fillMarkers_cons_self, fillMarkers_of_plain (plain_kind parent)]
  have allowedText : fillMarkers (Remark.badLeafRest parent allowed actual) (marker "allowed") =
      allowed := by
    rw [Remark.badLeafRest, fillMarkers_cons_of_ne (by decide), fillMarkers_cons_self,
      fillMarkers_of_plain plain]
  have actualText : fillMarkers (Remark.badLeafRest parent allowed actual) (marker "actual") =
      actual := by
    rw [Remark.badLeafRest, fillMarkers_cons_of_ne (by decide), fillMarkers_cons_of_ne (by decide),
      fillMarkers_cons_self, fillMarkers_nil]
  rw [filled, spelled, fillMarkers_cons_self, fillMarkers_cons_of_ne (by decide),
    fillMarkers_cons_of_ne (by decide), fillMarkers_cons_of_ne (by decide), parentText,
    allowedText, actualText]

/-- A key is all there is to fill in. -/
theorem message_malformed (key : String) :
    (Diagnostic.malformed key).message = Remark.malformedText key := by
  have away : ∀ name ∈ ["key"], Diagnostic.malformedTemplate.apart name = true := by decide
  have spelled : ∀ content, Diagnostic.malformedTemplate.spell content =
      Remark.malformedText (content "key") := fun _ => rfl
  have filled : (Diagnostic.malformed key).message =
      Diagnostic.malformedTemplate.spell fun hole => fillMarkers [("key", key)] (marker hole) :=
    Template.fillInTurn_eq_spell (by exact away)
  rw [filled, spelled, fillMarkers_cons_self, fillMarkers_nil]

/-- The names of kinds, and the index, are left as they are by what is filled in later. -/
theorem message_badBody (parent child : Kind) (index : Nat) (allowed : String) :
    (Diagnostic.badBody parent child index allowed).message =
      Remark.badBodyText parent.name child.name (toString index) allowed := by
  have away : ∀ name ∈ ["parent", "child", "index", "allowed"],
      Diagnostic.badBodyTemplate.apart name = true := by decide
  have spelled : ∀ content, Diagnostic.badBodyTemplate.spell content =
      Remark.badBodyText (content "parent") (content "child") (content "index")
        (content "allowed") := fun _ => rfl
  have filled : (Diagnostic.badBody parent child index allowed).message =
      Diagnostic.badBodyTemplate.spell fun hole => fillMarkers
        [("parent", parent.name), ("child", child.name), ("index", toString index),
          ("allowed", allowed)] (marker hole) := Template.fillInTurn_eq_spell (by exact away)
  rw [filled, spelled, fillMarkers_cons_self, fillMarkers_of_plain (plain_kind parent),
    fillMarkers_cons_of_ne (by decide), fillMarkers_cons_self,
    fillMarkers_of_plain (plain_kind child), fillMarkers_cons_of_ne (by decide),
    fillMarkers_cons_of_ne (by decide), fillMarkers_cons_self,
    fillMarkers_of_plain (plain_toString index), fillMarkers_cons_of_ne (by decide),
    fillMarkers_cons_of_ne (by decide), fillMarkers_cons_of_ne (by decide), fillMarkers_cons_self,
    fillMarkers_nil]

/-- A label is all there is to fill in. -/
theorem message_unboundVariable (label : String) :
    (Diagnostic.unboundVariable label).message = Remark.unboundVariableText label := by
  have away : ∀ name ∈ ["label"], Diagnostic.unboundVariableTemplate.apart name = true := by decide
  have spelled : ∀ content, Diagnostic.unboundVariableTemplate.spell content =
      Remark.unboundVariableText (content "label") := fun _ => rfl
  have filled : (Diagnostic.unboundVariable label).message =
      Diagnostic.unboundVariableTemplate.spell fun hole =>
        fillMarkers [("label", label)] (marker hole) :=
    Template.fillInTurn_eq_spell (by exact away)
  rw [filled, spelled, fillMarkers_cons_self, fillMarkers_nil]

/-! ## Garbled or not -/

/-- A marker occurs in an enclosed text where it occurs in the text. -/
theorem occurs_enclosed_iff {name text left right : String} {first last : Char}
    (opening : left.toList = [first]) (closing : right.toList = [last])
    (foreign : first ∉ (marker name).toList) (alien : last ∉ (marker name).toList) :
    Occurs (marker name) (left ++ text ++ right) ↔ Occurs (marker name) text := by
  have none : ¬ (marker name).toList <:+: [] :=
    mt List.infix_nil.1 (toList_marker_ne_nil name)
  rw [Occurs, String.toList_append, String.toList_append, opening, closing,
    infix_append_cons_iff alien, or_iff_left none, ← List.nil_append ([first] ++ _),
    List.singleton_append, infix_append_cons_iff foreign, or_iff_right none, Occurs]

/-- A marker occurs in a list where it occurs in an item. -/
theorem occurs_intercalate_iff {name : String} {items : List String}
    (comma : ',' ∉ (marker name).toList) (blank : ' ' ∉ (marker name).toList) :
    Occurs (marker name) (String.intercalate ", " items) ↔
      ∃ item ∈ items, Occurs (marker name) item := by
  have none : ¬ (marker name).toList <:+: [] :=
    mt List.infix_nil.1 (toList_marker_ne_nil name)
  have between : (", " : String).toList = [',', ' '] := by decide
  induction items with
  | nil => exact iff_of_false none (by simp)
  | cons item rest ih =>
    cases rest with
    | nil => simp [String.intercalate_singleton]
    | cons next later =>
      -- A marker has neither the comma nor the blank, so it does not reach into the next item.
      have here : Occurs (marker name) (item ++ ", " ++ String.intercalate ", " (next :: later)) ↔
          Occurs (marker name) item ∨
            Occurs (marker name) (String.intercalate ", " (next :: later)) := by
        rw [Occurs, String.toList_append, String.toList_append, between, List.append_assoc,
          List.cons_append, infix_append_cons_iff comma, List.singleton_append,
          ← List.nil_append (' ' :: _), infix_append_cons_iff blank, or_iff_right none, Occurs,
          Occurs]
      rw [String.intercalate_cons_cons, List.exists_mem_cons_iff]
      exact here.trans (or_congr_right ih)

/-- A marker occurs in a quoted list where it occurs in an item. -/
theorem occurs_quotedList_iff {name : String} {items : List String}
    (apart : ∀ c ∈ ['[', ']', ',', ' ', '"'], c ∉ (marker name).toList) :
    Occurs (marker name) (quotedList items) ↔ ∃ item ∈ items, Occurs (marker name) item := by
  have opening := apart '[' (by decide)
  have closing := apart ']' (by decide)
  have quote := apart '"' (by decide)
  rw [quotedList, bareList, occurs_enclosed_iff rfl rfl opening closing,
    occurs_intercalate_iff (apart ',' (by decide)) (apart ' ' (by decide))]
  have each : ∀ item, Occurs (marker name) ("\"" ++ item ++ "\"") ↔ Occurs (marker name) item :=
    fun _ => occurs_enclosed_iff rfl rfl quote quote
  simp only [List.mem_map, exists_exists_and_eq_and, each]

/-- The keys that are present are written as a marker only if that is the one key. -/
theorem presentText_eq_marker_iff {present : List String} :
    Remark.presentText present = marker "present" ↔ present = [marker "present"] := by
  cases present with
  | nil => exact iff_of_false (by decide) (by simp)
  | cons key rest =>
    cases rest with
    | nil =>
      rw [Remark.presentText, if_neg (by simp), String.intercalate_singleton, List.cons.injEq]
      simp
    | cons next later =>
      refine iff_of_false ?_ (by simp)
      intro same
      rw [Remark.presentText, if_neg (by simp), String.intercalate_cons_cons] at same
      -- Two keys have a comma between them.
      have comma : ',' ∈ (marker "present").toList := by
        rw [← same, String.toList_append, String.toList_append]
        exact List.mem_append_left _ (List.mem_append_right _ (by decide))
      exact absurd comma (by decide)

/-- A quoted list begins with a bracket, and is no marker. -/
theorem quotedList_ne_marker (items : List String) (name : String) :
    quotedList items ≠ marker name := by
  intro same
  have begins : (quotedList items).toList.head? = some '[' := by
    rw [quotedList, bareList, String.toList_append, String.toList_append]
    rfl
  rw [same, toList_marker, List.head?_cons] at begins
  exact absurd begins (by decide)

theorem missingArgText_inj {kind key other present : String} :
    Remark.missingArgText kind key present = Remark.missingArgText kind other present ↔
      key = other := by
  -- The equation of a text with long literals is slow to make, here and below.
  delta Remark.missingArgText
  rw [String.append_left_inj, String.append_left_inj, String.append_left_inj,
    String.append_right_inj]

theorem extraArgsText_inj {kind extras others allowed : String} :
    Remark.extraArgsText kind extras allowed = Remark.extraArgsText kind others allowed ↔
      extras = others := by
  delta Remark.extraArgsText
  rw [String.append_left_inj, String.append_left_inj, String.append_right_inj]

theorem commonLeafText_inj {name other parent allowed actual : String} :
    Remark.commonLeafText name parent allowed actual =
        Remark.commonLeafText other parent allowed actual ↔ name = other := by
  delta Remark.commonLeafText
  rw [String.append_left_inj, String.append_left_inj, String.append_left_inj,
    String.append_left_inj, String.append_left_inj, String.append_left_inj,
    String.append_right_inj]

/-- The wording of a remark is its text exactly if the remark is not garbled. -/
theorem wording_eq_text_iff (remark : Remark) :
    remark.wording = remark.text ↔ ¬ remark.Garbled := by
  cases remark with
  | missingArg kind key present =>
    rw [Remark.wording, Remark.text, missingArgText_inj, replaceAll_marker_eq_self_iff,
      presentText_eq_marker_iff, Remark.Garbled, not_and_not_right]
  | extraArgs kind extras required =>
    rw [Remark.wording, Remark.text, extraArgsText_inj, replaceAll_marker_eq_self_iff,
      occurs_quotedList_iff (by simp [toList_marker]), Remark.Garbled,
      imp_iff_not (quotedList_ne_marker required "allowed")]
  | strayLeaf key parent allowed actual =>
    rw [Remark.wording, Remark.Garbled]
    by_cases unfilled : Remark.Unfilled key parent
    · rw [if_pos unfilled]
      obtain ⟨rfl, rfl⟩ := unfilled
      have nothing : ∀ name, ¬ Occurs (marker name) "nothing" :=
        fun _ => not_occurs_of_plain (by decide)
      exact iff_of_true rfl (not_or_intro (nothing _) (not_or_intro (nothing _) (nothing _)))
    · -- Everything that is filled in after the key is plain, so no marker comes back.
      have plain : ∀ entry ∈ Remark.badLeafRest parent (bareList (allowed.map LeafType.title))
          actual.title, Plain entry.2 :=
        List.forall_mem_cons.2 ⟨plain_kind parent, List.forall_mem_cons.2
          ⟨plain_types allowed, List.forall_mem_singleton.2 (plain_title actual)⟩⟩
      rw [if_neg unfilled, Remark.text, Remark.badLeafText, if_neg unfilled, commonLeafText_inj,
        fillMarkers_eq_self_iff plain]
      simp [Remark.badLeafRest, not_or]
  | strayNode kind parent allowed => exact iff_of_true rfl not_false
  | malformed key => exact iff_of_true rfl not_false
  | badBody parent child index allowed => exact iff_of_true rfl not_false
  | unboundVariable label => exact iff_of_true rfl not_false

/-! ## Diagnostics -/

/-- The message of a diagnostic is the wording of the remark. -/
theorem message_diagnostic (remark : Remark) : remark.diagnostic.message = remark.wording := by
  cases remark with
  | missingArg kind key present => exact message_missingArg kind key present
  | extraArgs kind extras required => exact message_extraArgs kind extras required
  | strayLeaf key parent allowed actual =>
    rw [Remark.diagnostic, Remark.wording]
    by_cases unfilled : Remark.Unfilled key parent
    · rw [if_pos unfilled, Remark.text, Remark.badLeafText, if_pos unfilled, unfilled.1,
        unfilled.2, message_badLeaf_nothing]
    · rw [if_neg unfilled, message_badLeaf _ unfilled (plain_types allowed)]
  | strayNode kind parent allowed =>
    rw [Remark.diagnostic, Remark.wording, Remark.text, Remark.badLeafText]
    by_cases unfilled : Remark.Unfilled kind.name parent
    · rw [if_pos unfilled, unfilled.1, unfilled.2, message_badLeaf_nothing]
    · rw [message_badLeaf _ unfilled (plain_kinds allowed), if_neg unfilled,
        fillMarkers_of_plain (plain_kind kind)]
  | malformed key => exact message_malformed key
  | badBody parent child index allowed => exact message_badBody parent child index _
  | unboundVariable label => exact message_unboundVariable label

/-- A remark that is located at a node has its fault and its wording, and names the node. -/
theorem located_diagnostic (remark : Remark) (node : Nat) :
    remark.diagnostic.located node = ⟨remark.fault, remark.wording, some node⟩ := by
  rw [Diagnostic.located, message_diagnostic, Remark.fault_diagnostic]
  cases remark <;> rfl

/-- The message of a diagnostic is the text of the remark exactly if the remark is not garbled. -/
theorem message_eq_text_iff (remark : Remark) :
    remark.diagnostic.message = remark.text ↔ ¬ remark.Garbled := by
  rw [message_diagnostic, wording_eq_text_iff]

end SequenceCheck.Check
