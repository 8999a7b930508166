import SequenceCheck.Grammar.Schema
import Std.Data.TreeMap.Lemmas

/-!
# Grammars that are built

A grammar is built from the empty one by operations: an entry for a key or for a kind is defined, or
a rule is attached. `build operations` is the grammar after a whole run of operations.

Main statement: in a built grammar each entry stands under its own key or kind and requires no key
twice (`indexed_build`).
-/

set_option autoImplicit false

namespace SequenceCheck.Grammar

variable {D : Type}

/-! ## Operations -/

/-- A rule that is attached to an entry. -/
inductive Attachment (D : Type) where
  | argRule (name : String) (rule : ArgRule D)
  | nodeRule (kind : Kind) (rule : NodeRule D)

/-- Attach a rule to the entry that it is for. -/
def attach (grammar : Grammar D) : Attachment D → Grammar D
  | .argRule name rule => grammar.attachArgRule name rule
  | .nodeRule kind rule => grammar.attachNodeRule kind rule

/-- Attach some rules in turn. -/
def attachAll (grammar : Grammar D) (attachments : List (Attachment D)) : Grammar D :=
  attachments.foldl attach grammar

/-- A step in the building of a grammar. -/
inductive Operation (D : Type) where
  | defineArg (name : String) (kinds : List Kind) (types : List LeafType)
  | defineNode (kind : Kind) (keys : List String) (children : List Kind)
  | attach (attachment : Attachment D)

/-- Do one step. -/
def apply (grammar : Grammar D) : Operation D → Grammar D
  | .defineArg name kinds types => grammar.defineArg name kinds types
  | .defineNode kind keys children => grammar.defineNode kind keys children
  | .attach attachment => grammar.attach attachment

/-- The grammar that some steps build from the empty one. -/
def build (operations : List (Operation D)) : Grammar D :=
  operations.foldl apply empty

/-- What holds of the empty grammar and is kept by every step holds of every grammar that is
built. -/
theorem build_induction {motive : Grammar D → Prop} (start : motive empty)
    (step : ∀ grammar operation, motive grammar → motive (grammar.apply operation))
    (operations : List (Operation D)) : motive (build operations) := by
  have run : ∀ grammar, motive grammar → motive (operations.foldl apply grammar) := by
    induction operations with
    | nil =>
      intro grammar holds
      exact holds
    | cons operation rest ih =>
      intro grammar holds
      exact ih (grammar.apply operation) (step grammar operation holds)
  exact run empty start

/-! ## Entries after a step -/

section Entries

variable (grammar : Grammar D)

theorem args_empty (key : String) : (empty : Grammar D).args[key]? = none :=
  Std.TreeMap.getElem?_emptyc

theorem args_defineArg (name : String) (kinds : List Kind) (types : List LeafType) (key : String) :
    (grammar.defineArg name kinds types).args[key]? =
      if name = key then some ⟨name, kinds.contains, types.contains, none⟩
      else grammar.args[key]? := by
  rw [defineArg, Std.TreeMap.getElem?_insert]
  simp only [Std.LawfulEqOrd.compare_eq_iff_eq]

theorem args_attachArgRule (name : String) (rule : ArgRule D) (key : String) :
    (grammar.attachArgRule name rule).args[key]? =
      if name = key then grammar.args[key]?.map fun entry => { entry with rule := some rule }
      else grammar.args[key]? := by
  rw [attachArgRule, Std.TreeMap.getElem?_modify]
  simp only [Std.LawfulEqOrd.compare_eq_iff_eq]
  split
  · rename_i same
    rw [same]
  · rfl

theorem nodes_defineNode (kind : Kind) (keys : List String) (children : List Kind) (other : Kind) :
    (grammar.defineNode kind keys children).nodes other =
      if kind = other then some ⟨kind, keys.eraseDups, children.contains, none⟩
      else grammar.nodes other := by
  simp only [defineNode, eq_comm]

theorem nodes_attachNodeRule (kind : Kind) (rule : NodeRule D) (other : Kind) :
    (grammar.attachNodeRule kind rule).nodes other =
      if other = kind then
        (grammar.nodes other).map fun entry => { entry with rule := some rule }
      else grammar.nodes other :=
  rfl

end Entries

/-! ## What a step is about -/

/-- The kind whose entry a step is about. -/
def Operation.kind? : Operation D → Option Kind
  | .defineArg _ _ _ => none
  | .defineNode kind _ _ => some kind
  | .attach (.argRule _ _) => none
  | .attach (.nodeRule kind _) => some kind

/-- The key whose entry a step is about. -/
def Operation.key? : Operation D → Option String
  | .defineArg name _ _ => some name
  | .defineNode _ _ _ => none
  | .attach (.argRule name _) => some name
  | .attach (.nodeRule _ _) => none

section About

variable {grammar : Grammar D} {operation : Operation D}

/-- A step leaves the entries for all other kinds as they are. -/
theorem nodes_apply_of_ne {kind : Kind} (other : operation.kind? ≠ some kind) :
    (grammar.apply operation).nodes kind = grammar.nodes kind := by
  cases operation with
  | defineArg name kinds types => rfl
  | defineNode held keys children =>
    rw [apply, nodes_defineNode, if_neg fun same => other (congrArg some same)]
  | attach attachment =>
    cases attachment with
    | argRule name rule => rfl
    | nodeRule held rule =>
      rw [apply, Grammar.attach, nodes_attachNodeRule,
        if_neg fun same => other (congrArg some same.symm)]

/-- A step leaves the entries for all other keys as they are. -/
theorem args_apply_of_ne {key : String} (other : operation.key? ≠ some key) :
    (grammar.apply operation).args[key]? = grammar.args[key]? := by
  cases operation with
  | defineArg name kinds types =>
    rw [apply, args_defineArg, if_neg fun same => other (congrArg some same)]
  | defineNode kind keys children => rfl
  | attach attachment =>
    cases attachment with
    | argRule name rule =>
      rw [apply, Grammar.attach, args_attachArgRule,
        if_neg fun same => other (congrArg some same)]
    | nodeRule kind rule => rfl

end About

/-! ## What holds of built grammars -/

/-- Of keys that are given several times one stays. -/
theorem nodup_eraseDups : ∀ keys : List String, keys.eraseDups.Nodup
  | [] => List.nodup_nil
  | key :: rest => by
    rw [List.eraseDups_cons, List.nodup_cons]
    refine ⟨?_, nodup_eraseDups _⟩
    rw [List.mem_eraseDups, List.mem_filter]
    simp
termination_by keys => keys.length
decreasing_by exact Nat.lt_succ_of_le (List.length_filter_le _ rest)

/-- Keys that are given once all stay. -/
theorem eraseDups_of_nodup {keys : List String} (nodup : keys.Nodup) : keys.eraseDups = keys := by
  induction keys with
  | nil => rfl
  | cons key rest ih =>
    obtain ⟨absent, nodup⟩ := List.nodup_cons.1 nodup
    have others : (rest.filter fun other => !other == key) = rest := by
      apply List.filter_eq_self.2
      rintro other mem
      simpa using ne_of_mem_of_not_mem mem absent
    rw [List.eraseDups_cons, others, ih nodup]

/-- Each entry stands under its own key or kind, and requires no key twice. -/
structure Indexed (grammar : Grammar D) : Prop where
  name : ∀ (key : String) (entry : ArgEntry D), grammar.args[key]? = some entry → entry.name = key
  kind : ∀ (kind : Kind) (entry : NodeEntry D), grammar.nodes kind = some entry →
    entry.kind = kind
  nodup : ∀ (kind : Kind) (entry : NodeEntry D), grammar.nodes kind = some entry →
    entry.keys.Nodup

theorem indexed_empty : (empty : Grammar D).Indexed where
  name key entry known := by
    rw [args_empty] at known
    cases known
  kind _ _ known := by cases known
  nodup _ _ known := by cases known

namespace Indexed

variable {grammar : Grammar D}

theorem defineArg (indexed : grammar.Indexed) (name : String) (kinds : List Kind)
    (types : List LeafType) : (grammar.defineArg name kinds types).Indexed where
  name key entry known := by
    rw [args_defineArg] at known
    split at known
    · rename_i same
      cases known
      exact same
    · exact indexed.name key entry known
  kind := indexed.kind
  nodup := indexed.nodup

theorem defineNode (indexed : grammar.Indexed) (kind : Kind) (keys : List String)
    (children : List Kind) : (grammar.defineNode kind keys children).Indexed where
  name := indexed.name
  kind other entry known := by
    rw [nodes_defineNode] at known
    split at known
    · rename_i same
      cases known
      exact same
    · exact indexed.kind other entry known
  nodup other entry known := by
    rw [nodes_defineNode] at known
    split at known
    · cases known
      exact nodup_eraseDups keys
    · exact indexed.nodup other entry known

theorem attach (indexed : grammar.Indexed) (attachment : Attachment D) :
    (grammar.attach attachment).Indexed := by
  cases attachment with
  | argRule name rule =>
    refine ⟨fun key entry known => ?_, indexed.kind, indexed.nodup⟩
    rw [Grammar.attach, args_attachArgRule] at known
    split at known
    · obtain ⟨earlier, found, rfl⟩ := Option.map_eq_some_iff.1 known
      exact indexed.name key earlier found
    · exact indexed.name key entry known
  | nodeRule kind rule =>
    refine ⟨indexed.name, fun other entry known => ?_, fun other entry known => ?_⟩
    all_goals
      rw [Grammar.attach, nodes_attachNodeRule] at known
      split at known
    · obtain ⟨earlier, found, rfl⟩ := Option.map_eq_some_iff.1 known
      exact indexed.kind other earlier found
    · exact indexed.kind other entry known
    · obtain ⟨earlier, found, rfl⟩ := Option.map_eq_some_iff.1 known
      exact indexed.nodup other earlier found
    · exact indexed.nodup other entry known

/-- Each step keeps entries under their keys and kinds. -/
theorem apply (indexed : grammar.Indexed) (operation : Operation D) :
    (grammar.apply operation).Indexed := by
  cases operation with
  | defineArg name kinds types => exact indexed.defineArg name kinds types
  | defineNode kind keys children => exact indexed.defineNode kind keys children
  | attach attachment => exact indexed.attach attachment

end Indexed

/-- In a grammar that is built each entry stands under its own key or kind, and requires no key
twice. -/
theorem indexed_build (operations : List (Operation D)) : (build operations).Indexed :=
  build_induction indexed_empty (fun _ operation indexed => indexed.apply operation) operations

end SequenceCheck.Grammar
