import SequenceCheck.Proofs.Grammar.Building

/-!
# Grammars that differ in rules

Two grammars are alike if they have the same entries but for the rules of these: entries for the
same keys and kinds, which say the same as data.

Main statements: attached rules leave a grammar like what it was (`alike_attachAll`), grammars that
are alike have one schema (`Alike.schema_eq`) and define what nodes use or not alike
(`Alike.keysDefined`), and if they have no rules they have the same entries (`Alike.args_eq`,
`Alike.nodes_eq`).
-/

set_option autoImplicit false

namespace SequenceCheck

variable {D : Type}

/-! ## Entries as data -/

/-- What an entry for a key says as data. -/
def ArgEntry.schema (entry : ArgEntry D) : ArgSchema :=
  ⟨entry.name, entry.kinds, entry.types⟩

/-- What an entry for a kind says as data. -/
def NodeEntry.schema (entry : NodeEntry D) : NodeSchema :=
  ⟨entry.kind, entry.keys, entry.children⟩

/-- What is picked out of a complete list says what it was picked by. -/
theorem eq_of_filter_eq {α : Type} {all : List α} (complete : ∀ a, a ∈ all)
    {allows other : α → Bool} (same : all.filter allows = all.filter other) :
    allows = other := by
  funext a
  have picked : a ∈ all.filter allows ↔ a ∈ all.filter other := by rw [same]
  rw [List.mem_filter, List.mem_filter, and_iff_right (complete a), and_iff_right (complete a)]
    at picked
  exact Bool.eq_iff_iff.2 picked

/-- An entry for a key is known by what it says as data and by its rule. -/
theorem ArgEntry.eq_of_schema_eq {entry other : ArgEntry D} (same : entry.schema = other.schema)
    (rules : entry.rule = other.rule) : entry = other := by
  rcases entry with ⟨name, allowsKind, allowsType, rule⟩
  rcases other with ⟨otherName, otherKind, otherType, otherRule⟩
  obtain ⟨names, kinds, types⟩ := ArgSchema.mk.inj same
  have byKind : allowsKind = otherKind := eq_of_filter_eq Kind.mem_all kinds
  have byType : allowsType = otherType := eq_of_filter_eq LeafType.mem_all types
  cases names
  cases byKind
  cases byType
  cases rules
  rfl

/-- An entry for a kind is known by what it says as data and by its rule. -/
theorem NodeEntry.eq_of_schema_eq {entry other : NodeEntry D} (same : entry.schema = other.schema)
    (rules : entry.rule = other.rule) : entry = other := by
  rcases entry with ⟨kind, keys, allowsChild, rule⟩
  rcases other with ⟨otherKind, otherKeys, otherChild, otherRule⟩
  obtain ⟨kinds, required, children⟩ := NodeSchema.mk.inj same
  have byChild : allowsChild = otherChild := eq_of_filter_eq Kind.mem_all children
  cases kinds
  cases required
  cases byChild
  cases rules
  rfl

namespace Grammar

/-- No rule is attached. -/
structure Ruleless (grammar : Grammar D) : Prop where
  args : ∀ (key : String) (entry : ArgEntry D), grammar.args[key]? = some entry →
    entry.rule = none
  nodes : ∀ (kind : Kind) (entry : NodeEntry D), grammar.nodes kind = some entry →
    entry.rule = none

/-- Every key that a node requires has an entry. -/
def KeysDefined (grammar : Grammar D) : Prop :=
  ∀ kind entry, grammar.nodes kind = some entry → ∀ key ∈ entry.keys, grammar.hasArg key = true

theorem hasArg_iff {grammar : Grammar D} {key : String} :
    grammar.hasArg key = true ↔ ∃ entry, grammar.args[key]? = some entry := by
  rw [hasArg, Std.TreeMap.contains_eq_isSome_getElem?, Option.isSome_iff_exists]

/-- Two grammars have the same entries but for rules. -/
structure Alike (grammar other : Grammar D) : Prop where
  args : ∀ key : String,
    grammar.args[key]?.map ArgEntry.schema = other.args[key]?.map ArgEntry.schema
  nodes : ∀ kind : Kind,
    (grammar.nodes kind).map NodeEntry.schema = (other.nodes kind).map NodeEntry.schema

namespace Alike

variable {grammar other third : Grammar D}

theorem refl (grammar : Grammar D) : grammar.Alike grammar :=
  ⟨fun _ => rfl, fun _ => rfl⟩

theorem trans (first : grammar.Alike other) (second : other.Alike third) : grammar.Alike third :=
  ⟨fun key => (first.args key).trans (second.args key),
    fun kind => (first.nodes kind).trans (second.nodes kind)⟩

/-- Grammars that are alike have one schema. -/
theorem schema_eq (alike : grammar.Alike other) : grammar.schema = other.schema := by
  have args : (grammar.args.map fun _ entry => entry.schema).toList =
      (other.args.map fun _ entry => entry.schema).toList := by
    apply Std.TreeMap.Equiv.toList_eq
    apply Std.TreeMap.Equiv.of_forall_constGet?_eq
    intro key
    rw [Std.TreeMap.getElem?_map, Std.TreeMap.getElem?_map]
    exact alike.args key
  -- The maps with the same data under each key list the same entries, in the order of keys.
  rw [Std.TreeMap.toList_map, Std.TreeMap.toList_map] at args
  have listed := congrArg (List.map Prod.snd) args
  rw [List.map_map, List.map_map] at listed
  have nodes : (Kind.all.filterMap grammar.nodes).map NodeEntry.schema =
      (Kind.all.filterMap other.nodes).map NodeEntry.schema := by
    rw [List.map_filterMap, List.map_filterMap]
    congr 1
    funext kind
    exact alike.nodes kind
  change Schema.mk _ _ = Schema.mk _ _
  exact congr (congrArg Schema.mk listed) nodes

/-- Grammars that are alike have entries for the same keys. -/
theorem hasArg_eq (alike : grammar.Alike other) (key : String) :
    grammar.hasArg key = other.hasArg key := by
  have known := congrArg Option.isSome (alike.args key)
  rw [Option.isSome_map, Option.isSome_map] at known
  rw [hasArg, hasArg, Std.TreeMap.contains_eq_isSome_getElem?,
    Std.TreeMap.contains_eq_isSome_getElem?, known]

/-- In grammars that are alike nodes require the same keys. -/
theorem exists_nodes (alike : grammar.Alike other) {kind : Kind} {entry : NodeEntry D}
    (known : grammar.nodes kind = some entry) :
    ∃ twin, other.nodes kind = some twin ∧ twin.schema = entry.schema := by
  have same := alike.nodes kind
  rw [known, Option.map_some] at same
  exact Option.map_eq_some_iff.1 same.symm

theorem keysDefined (alike : grammar.Alike other) (defined : other.KeysDefined) :
    grammar.KeysDefined := by
  intro kind entry known key required
  obtain ⟨twin, found, same⟩ := alike.exists_nodes known
  have keys : twin.keys = entry.keys := congrArg NodeSchema.keys same
  rw [alike.hasArg_eq]
  apply defined kind twin found
  rw [keys]
  exact required

/-- Entries that say the same as data, and have no rules, are equal. -/
theorem eq_of_map_eq {ε σ ρ : Type} {say : ε → σ} {rule : ε → Option ρ}
    (known : ∀ entry other, say entry = say other → rule entry = rule other → entry = other)
    {entry other : Option ε} (same : entry.map say = other.map say)
    (bare : ∀ found, entry = some found → rule found = none)
    (otherBare : ∀ found, other = some found → rule found = none) : entry = other := by
  cases entry with
  | none =>
    rw [Option.map_none, eq_comm, Option.map_eq_none_iff] at same
    exact same.symm
  | some found =>
    rw [Option.map_some, eq_comm] at same
    obtain ⟨twin, rfl, equal⟩ := Option.map_eq_some_iff.1 same
    rw [known found twin equal.symm ((bare found rfl).trans (otherBare twin rfl).symm)]

/-- Grammars that are alike and have no rules have the same entries for keys. -/
theorem args_eq (alike : grammar.Alike other) (bare : grammar.Ruleless)
    (otherBare : other.Ruleless) (key : String) : grammar.args[key]? = other.args[key]? :=
  eq_of_map_eq (fun _ _ => ArgEntry.eq_of_schema_eq) (alike.args key) (bare.args key)
    (otherBare.args key)

/-- Grammars that are alike and have no rules have the same entries for kinds. -/
theorem nodes_eq (alike : grammar.Alike other) (bare : grammar.Ruleless)
    (otherBare : other.Ruleless) (kind : Kind) : grammar.nodes kind = other.nodes kind :=
  eq_of_map_eq (fun _ _ => NodeEntry.eq_of_schema_eq) (alike.nodes kind) (bare.nodes kind)
    (otherBare.nodes kind)

end Alike

/-- An attached rule changes nothing but rules. -/
theorem alike_attach (grammar : Grammar D) (attachment : Attachment D) :
    (grammar.attach attachment).Alike grammar := by
  cases attachment with
  | argRule name rule =>
    refine ⟨fun key => ?_, fun _ => rfl⟩
    rw [attach, args_attachArgRule]
    split
    · rw [Option.map_map]
      rfl
    · rfl
  | nodeRule kind rule =>
    refine ⟨fun _ => rfl, fun other => ?_⟩
    rw [attach, nodes_attachNodeRule]
    split
    · rw [Option.map_map]
      rfl
    · rfl

/-- Attached rules change nothing but rules. -/
theorem alike_attachAll (grammar : Grammar D) (attachments : List (Attachment D)) :
    (grammar.attachAll attachments).Alike grammar := by
  induction attachments generalizing grammar with
  | nil => exact .refl grammar
  | cons attachment rest ih => exact (ih (grammar.attach attachment)).trans (alike_attach _ _)

end Grammar

end SequenceCheck
