import SequenceCheck.Proofs.Grammar.Canonical

/-!
# Grammars after whole runs of steps

What a built grammar says about a key or a kind is settled by the last definition of it in the run:
that gives the entry all but its rule, and the rule is the last one attached after it, if any was.
Steps about other keys and kinds do not matter, in whatever order they come between.

The schema of a grammar depends on its entries alone. They may be listed in any order, and the list
then put in order by names and kinds (`schema_eq_of_listing`).

Main statement: `build_keeps_last_definitions` says this of every run.
-/

set_option autoImplicit false

namespace SequenceCheck

variable {D : Type}

theorem Kind.index_injective : Function.Injective Kind.index :=
  fun kind _ same => (List.idxOf_inj (Kind.mem_all kind)).1 same

/-- An entry for a key with another rule, if one is given. -/
def ArgEntry.withRule (rule? : Option (ArgRule D)) (entry : ArgEntry D) : ArgEntry D :=
  { entry with rule := rule?.or entry.rule }

/-- An entry for a kind with another rule, if one is given. -/
def NodeEntry.withRule (rule? : Option (NodeRule D)) (entry : NodeEntry D) : NodeEntry D :=
  { entry with rule := rule?.or entry.rule }

namespace Grammar

/-! ## Final entries -/

/-- The rule that a step attaches to a key. -/
def Operation.argRule? (key : String) : Operation D → Option (ArgRule D)
  | .defineArg _ _ _ => none
  | .defineNode _ _ _ => none
  | .attach (.argRule name rule) => if name = key then some rule else none
  | .attach (.nodeRule _ _) => none

/-- The rule that a step attaches to a kind. -/
def Operation.nodeRule? (kind : Kind) : Operation D → Option (NodeRule D)
  | .defineArg _ _ _ => none
  | .defineNode _ _ _ => none
  | .attach (.argRule _ _) => none
  | .attach (.nodeRule held rule) => if held = kind then some rule else none

/-- An entry says what the last definition of a key in a run says, and its rule is the last one that
is attached to the key after that. -/
def FinalArg (operations : List (Operation D)) (key : String) (entry : ArgEntry D) : Prop :=
  ∃ before kinds types after,
    operations = before ++ .defineArg key kinds types :: after ∧
    (∀ kinds types, .defineArg key kinds types ∉ after) ∧
    entry.name = key ∧
    (∀ kind, entry.allowsKind kind = true ↔ kind ∈ kinds) ∧
    (∀ type, entry.allowsType type = true ↔ type ∈ types) ∧
    entry.rule = (after.filterMap (Operation.argRule? key)).getLast?

/-- An entry says what the last definition of a kind in a run says, with each required key once, in
the order in which they first come there, and its rule is the last one that is attached to the kind
after that. -/
def FinalNode (operations : List (Operation D)) (kind : Kind) (entry : NodeEntry D) : Prop :=
  ∃ before keys children after,
    operations = before ++ .defineNode kind keys children :: after ∧
    (∀ keys children, .defineNode kind keys children ∉ after) ∧
    entry.kind = kind ∧
    Arranged keys.idxOf keys entry.keys ∧
    (∀ child, entry.allowsChild child = true ↔ child ∈ children) ∧
    entry.rule = (after.filterMap (Operation.nodeRule? kind)).getLast?

/-! ## Runs without a definition -/

/-- No item of a list has a property, or there is a last one that has it. -/
theorem forall_not_or_exists_last {α : Type} (p : α → Prop) (items : List α) :
    (∀ item ∈ items, ¬ p item) ∨
      ∃ before item after, items = before ++ item :: after ∧ p item ∧
        ∀ later ∈ after, ¬ p later := by
  induction items with
  | nil =>
    left
    intro item mem
    exact absurd mem List.not_mem_nil
  | cons item rest ih =>
    rcases ih with none | ⟨before, last, after, rfl, holds, none⟩
    · by_cases here : p item
      · exact .inr ⟨[], item, rest, rfl, here, none⟩
      · exact .inl (List.forall_mem_cons.2 ⟨here, none⟩)
    · exact .inr ⟨item :: before, last, after, rfl, holds, none⟩

section Entry

variable {ε ρ : Type} (get : Grammar D → Option ε) {withRule : Option ρ → ε → ε}
  {rule? : Operation D → Option ρ}

/-- Steps that do no more to an entry than attach rules leave it with the last one of these. -/
theorem get_foldl_apply (without : ∀ entry, withRule none entry = entry)
    (twice : ∀ new old entry, withRule new (withRule old entry) = withRule (new.or old) entry)
    {after : List (Operation D)}
    (attach : ∀ operation ∈ after, ∀ grammar : Grammar D,
      get (grammar.apply operation) = (get grammar).map (withRule (rule? operation)))
    (grammar : Grammar D) :
    get (after.foldl apply grammar) =
      (get grammar).map (withRule (after.filterMap rule?).getLast?) := by
  induction after using List.reverseRecOn with
  | nil =>
    have same : withRule (none : Option ρ) = id := funext without
    rw [List.foldl_nil, List.filterMap_nil, List.getLast?_nil, same, Option.map_id_apply]
  | append_singleton before operation ih =>
    obtain ⟨earlier, last⟩ := List.forall_mem_append.1 attach
    have one : ([operation].filterMap rule?).getLast? = rule? operation := by
      cases found : rule? operation with
      | none => rw [List.filterMap_cons_none found, List.filterMap_nil, List.getLast?_nil]
      | some rule =>
        rw [List.filterMap_cons_some found, List.filterMap_nil, List.getLast?_singleton]
    rw [List.foldl_append, List.foldl_cons, List.foldl_nil, last operation List.mem_cons_self,
      ih earlier, Option.map_map, List.filterMap_append, List.getLast?_append, one]
    congr 1
    funext entry
    exact twice _ _ entry

/-- Steps that are not about an entry may be left out of a run. -/
theorem get_foldl_filter {about : Operation D → Bool}
    (congr : ∀ {grammar other : Grammar D}, get grammar = get other →
      ∀ operation, get (grammar.apply operation) = get (other.apply operation))
    (frame : ∀ operation, about operation = false →
      ∀ grammar : Grammar D, get (grammar.apply operation) = get grammar)
    (operations : List (Operation D)) {grammar other : Grammar D}
    (same : get grammar = get other) :
    get (operations.foldl apply grammar) = get ((operations.filter about).foldl apply other) := by
  induction operations generalizing grammar other with
  | nil => exact same
  | cons operation rest ih =>
    cases here : about operation with
    | true =>
      rw [List.filter_cons_of_pos here]
      exact ih (congr same operation)
    | false =>
      rw [List.filter_cons_of_neg (Bool.eq_false_iff.1 here)]
      exact ih ((frame operation here grammar).trans same)

end Entry

/-! ## Entries for keys -/

section Args

variable {operations before after : List (Operation D)} {key : String} {kinds : List Kind}
  {types : List LeafType} {entry : ArgEntry D}

theorem args_apply_of_not_definition {operation : Operation D}
    (other : ∀ kinds types, operation ≠ .defineArg key kinds types) (grammar : Grammar D) :
    (grammar.apply operation).args[key]? =
      grammar.args[key]?.map (ArgEntry.withRule (operation.argRule? key)) := by
  have without : ArgEntry.withRule (none : Option (ArgRule D)) = id := rfl
  cases operation with
  | defineArg name kinds types =>
    have different : name ≠ key := by
      rintro rfl
      exact other kinds types rfl
    rw [apply, args_defineArg, if_neg different, Operation.argRule?, without, Option.map_id_apply]
  | defineNode kind keys children =>
    rw [Operation.argRule?, without, Option.map_id_apply]
    rfl
  | attach attachment =>
    cases attachment with
    | argRule name rule =>
      rw [apply, Grammar.attach, args_attachArgRule, Operation.argRule?]
      split
      · rfl
      · rw [without, Option.map_id_apply]
    | nodeRule kind rule =>
      rw [Operation.argRule?, without, Option.map_id_apply]
      rfl

/-- Without definitions of a key its entry is kept, with the last rule that is attached. -/
theorem args_foldl_apply (none : ∀ kinds types, .defineArg key kinds types ∉ after)
    (grammar : Grammar D) :
    (after.foldl apply grammar).args[key]? =
      grammar.args[key]?.map
        (ArgEntry.withRule (after.filterMap (Operation.argRule? key)).getLast?) := by
  apply get_foldl_apply fun grammar : Grammar D => grammar.args[key]?
  · intro entry
    rfl
  · intro new old entry
    cases new <;> rfl
  · intro operation mem grammar
    apply args_apply_of_not_definition
    rintro kinds types rfl
    exact none kinds types mem

/-- A key that is never defined has no entry. -/
theorem args_build_of_forall (none : ∀ kinds types, .defineArg key kinds types ∉ operations) :
    (build operations).args[key]? = Option.none := by
  rw [build, args_foldl_apply none, args_empty, Option.map_none]

/-- The last definition of a key gives its entry. -/
theorem args_build_of_last (none : ∀ kinds types, .defineArg key kinds types ∉ after) :
    (build (before ++ .defineArg key kinds types :: after)).args[key]? =
      some ⟨key, kinds.contains, types.contains,
        (after.filterMap (Operation.argRule? key)).getLast?⟩ := by
  rw [build, List.foldl_append, List.foldl_cons, args_foldl_apply none, apply, args_defineArg,
    if_pos rfl, Option.map_some, ArgEntry.withRule, Option.or_none]

/-- A key that is defined is defined a last time. -/
theorem exists_last_defineArg (defined : ∃ kinds types, .defineArg key kinds types ∈ operations) :
    ∃ before kinds types after, operations = before ++ .defineArg key kinds types :: after ∧
      ∀ kinds types, .defineArg key kinds types ∉ after := by
  rcases forall_not_or_exists_last (fun operation : Operation D =>
      ∃ kinds types, operation = .defineArg key kinds types) operations with
    none | ⟨before, operation, after, split, ⟨kinds, types, rfl⟩, none⟩
  · obtain ⟨kinds, types, mem⟩ := defined
    exact absurd ⟨kinds, types, rfl⟩ (none _ mem)
  · refine ⟨before, kinds, types, after, split, ?_⟩
    intro kinds types mem
    exact none _ mem ⟨kinds, types, rfl⟩

/-- A key has an entry exactly if a step defines it. -/
theorem hasArg_build_iff :
    (build operations).hasArg key = true ↔
      ∃ kinds types, .defineArg key kinds types ∈ operations := by
  rw [hasArg_iff]
  constructor
  · rintro ⟨entry, known⟩
    by_contra never
    push Not at never
    cases (args_build_of_forall never).symm.trans known
  · intro defined
    obtain ⟨before, kinds, types, after, rfl, none⟩ := exists_last_defineArg defined
    exact ⟨_, args_build_of_last none⟩

/-- The entry for a key is the final one in the run. -/
theorem args_build_iff :
    (build operations).args[key]? = some entry ↔ FinalArg operations key entry := by
  constructor
  · intro known
    obtain ⟨before, kinds, types, after, rfl, none⟩ :=
      exists_last_defineArg (hasArg_build_iff.1 (hasArg_iff.2 ⟨entry, known⟩))
    obtain rfl := Option.some.inj ((args_build_of_last none).symm.trans known)
    exact ⟨before, kinds, types, after, rfl, none, rfl, fun _ => List.contains_iff_mem,
      fun _ => List.contains_iff_mem, rfl⟩
  · rintro ⟨before, kinds, types, after, rfl, none, name, allowedKinds, allowedTypes, rule⟩
    have byKind : entry.allowsKind = kinds.contains := by
      funext kind
      rw [Bool.eq_iff_iff, allowedKinds, List.contains_iff_mem]
    have byType : entry.allowsType = types.contains := by
      funext type
      rw [Bool.eq_iff_iff, allowedTypes, List.contains_iff_mem]
    rw [args_build_of_last none, ← rule, ← byKind, ← byType, ← name]

theorem args_apply_congr {grammar other : Grammar D} (same : grammar.args[key]? = other.args[key]?)
    (operation : Operation D) :
    (grammar.apply operation).args[key]? = (other.apply operation).args[key]? := by
  cases operation with
  | defineArg name kinds types =>
    rw [apply, apply, args_defineArg, args_defineArg, same]
  | defineNode kind keys children => exact same
  | attach attachment =>
    cases attachment with
    | argRule name rule =>
      rw [apply, apply, Grammar.attach, Grammar.attach, args_attachArgRule, args_attachArgRule,
        same]
    | nodeRule kind rule => exact same

/-- The entry for a key depends on the steps about the key alone. -/
theorem args_build_congr {others : List (Operation D)}
    (same : operations.filter (·.key? = some key) = others.filter (·.key? = some key)) :
    (build operations).args[key]? = (build others).args[key]? := by
  have filtered : ∀ run : List (Operation D), (build run).args[key]? =
      (build (run.filter (·.key? = some key))).args[key]? := by
    intro run
    refine get_foldl_filter (fun grammar : Grammar D => grammar.args[key]?) args_apply_congr ?_ run
      rfl
    intro operation other grammar
    exact args_apply_of_ne (of_decide_eq_false other)
  rw [filtered operations, filtered others, same]

end Args

/-! ## Entries for kinds -/

section Nodes

variable {operations before after : List (Operation D)} {kind : Kind} {keys : List String}
  {children : List Kind} {entry : NodeEntry D}

theorem nodes_apply_of_not_definition {operation : Operation D}
    (other : ∀ keys children, operation ≠ .defineNode kind keys children) (grammar : Grammar D) :
    (grammar.apply operation).nodes kind =
      (grammar.nodes kind).map (NodeEntry.withRule (operation.nodeRule? kind)) := by
  have without : NodeEntry.withRule (none : Option (NodeRule D)) = id := rfl
  cases operation with
  | defineArg name kinds types =>
    rw [Operation.nodeRule?, without, Option.map_id_apply]
    rfl
  | defineNode held keys children =>
    have different : held ≠ kind := by
      rintro rfl
      exact other keys children rfl
    rw [apply, nodes_defineNode, if_neg different, Operation.nodeRule?, without,
      Option.map_id_apply]
  | attach attachment =>
    cases attachment with
    | argRule name rule =>
      rw [Operation.nodeRule?, without, Option.map_id_apply]
      rfl
    | nodeRule held rule =>
      rw [apply, Grammar.attach, nodes_attachNodeRule, Operation.nodeRule?]
      by_cases same : held = kind
      · rw [if_pos same, if_pos same.symm]
        rfl
      · rw [if_neg same, if_neg (Ne.symm same), without, Option.map_id_apply]

/-- Without definitions of a kind its entry is kept, with the last rule that is attached. -/
theorem nodes_foldl_apply (none : ∀ keys children, .defineNode kind keys children ∉ after)
    (grammar : Grammar D) :
    (after.foldl apply grammar).nodes kind =
      (grammar.nodes kind).map
        (NodeEntry.withRule (after.filterMap (Operation.nodeRule? kind)).getLast?) := by
  apply get_foldl_apply fun grammar : Grammar D => grammar.nodes kind
  · intro entry
    rfl
  · intro new old entry
    cases new <;> rfl
  · intro operation mem grammar
    apply nodes_apply_of_not_definition
    rintro keys children rfl
    exact none keys children mem

/-- A kind that is never defined has no entry. -/
theorem nodes_build_of_forall
    (none : ∀ keys children, .defineNode kind keys children ∉ operations) :
    (build operations).nodes kind = Option.none := by
  rw [build, nodes_foldl_apply none, empty, Option.map_none]

/-- The last definition of a kind gives its entry. -/
theorem nodes_build_of_last (none : ∀ keys children, .defineNode kind keys children ∉ after) :
    (build (before ++ .defineNode kind keys children :: after)).nodes kind =
      some ⟨kind, keys.eraseDups, children.contains,
        (after.filterMap (Operation.nodeRule? kind)).getLast?⟩ := by
  rw [build, List.foldl_append, List.foldl_cons, nodes_foldl_apply none, apply, nodes_defineNode,
    if_pos rfl, Option.map_some, NodeEntry.withRule, Option.or_none]

/-- A kind that is defined is defined a last time. -/
theorem exists_last_defineNode
    (defined : ∃ keys children, .defineNode kind keys children ∈ operations) :
    ∃ before keys children after, operations = before ++ .defineNode kind keys children :: after ∧
      ∀ keys children, .defineNode kind keys children ∉ after := by
  rcases forall_not_or_exists_last (fun operation : Operation D =>
      ∃ keys children, operation = .defineNode kind keys children) operations with
    none | ⟨before, operation, after, split, ⟨keys, children, rfl⟩, none⟩
  · obtain ⟨keys, children, mem⟩ := defined
    exact absurd ⟨keys, children, rfl⟩ (none _ mem)
  · refine ⟨before, keys, children, after, split, ?_⟩
    intro keys children mem
    exact none _ mem ⟨keys, children, rfl⟩

/-- A kind has an entry exactly if a step defines it. -/
theorem hasNode_build_iff :
    (build operations).hasNode kind = true ↔
      ∃ keys children, .defineNode kind keys children ∈ operations := by
  rw [hasNode, Option.isSome_iff_exists]
  constructor
  · rintro ⟨entry, known⟩
    by_contra never
    push Not at never
    cases (nodes_build_of_forall never).symm.trans known
  · intro defined
    obtain ⟨before, keys, children, after, rfl, none⟩ := exists_last_defineNode defined
    exact ⟨_, nodes_build_of_last none⟩

/-- The entry for a kind is the final one in the run. -/
theorem nodes_build_iff :
    (build operations).nodes kind = some entry ↔ FinalNode operations kind entry := by
  constructor
  · intro known
    obtain ⟨before, keys, children, after, rfl, none⟩ :=
      exists_last_defineNode (hasNode_build_iff.1 (Option.isSome_of_eq_some known))
    obtain rfl := Option.some.inj ((nodes_build_of_last none).symm.trans known)
    exact ⟨before, keys, children, after, rfl, none, rfl, .eraseDups,
      fun _ => List.contains_iff_mem, rfl⟩
  · rintro ⟨before, keys, children, after, rfl, none, same, arranged, allowed, rule⟩
    have byChild : entry.allowsChild = children.contains := by
      funext child
      rw [Bool.eq_iff_iff, allowed, List.contains_iff_mem]
    rw [nodes_build_of_last none, ← rule, ← byChild, ← same, Arranged.eraseDups.eq arranged]

theorem nodes_apply_congr {grammar other : Grammar D} (same : grammar.nodes kind = other.nodes kind)
    (operation : Operation D) :
    (grammar.apply operation).nodes kind = (other.apply operation).nodes kind := by
  cases operation with
  | defineArg name kinds types => exact same
  | defineNode held keys children =>
    rw [apply, apply, nodes_defineNode, nodes_defineNode, same]
  | attach attachment =>
    cases attachment with
    | argRule name rule => exact same
    | nodeRule held rule =>
      rw [apply, apply, Grammar.attach, Grammar.attach, nodes_attachNodeRule, nodes_attachNodeRule,
        same]

/-- The entry for a kind depends on the steps about the kind alone. -/
theorem nodes_build_congr {others : List (Operation D)}
    (same : operations.filter (·.kind? = some kind) = others.filter (·.kind? = some kind)) :
    (build operations).nodes kind = (build others).nodes kind := by
  have filtered : ∀ run : List (Operation D), (build run).nodes kind =
      (build (run.filter (·.kind? = some kind))).nodes kind := by
    intro run
    refine get_foldl_filter (fun grammar : Grammar D => grammar.nodes kind) nodes_apply_congr ?_ run
      rfl
    intro operation other grammar
    exact nodes_apply_of_ne (of_decide_eq_false other)
  rw [filtered operations, filtered others, same]

end Nodes

/-! ## Steps in another order -/

/-- Two grammars have the same entries. -/
structure SameEntries (grammar other : Grammar D) : Prop where
  args : ∀ key : String, grammar.args[key]? = other.args[key]?
  nodes : ∀ kind : Kind, grammar.nodes kind = other.nodes kind

/-- Two steps are not about the same key, and not about the same kind. -/
structure Operation.Distant (first second : Operation D) : Prop where
  keys : ∀ key, first.key? = some key → second.key? ≠ some key
  kinds : ∀ kind, first.kind? = some kind → second.kind? ≠ some kind

/-- Items of which one is left out may be exchanged. -/
theorem filter_swap {α : Type} {p : α → Bool} {first second : α}
    (one : p first = true → p second = false) (before after : List α) :
    (before ++ first :: second :: after).filter p =
      (before ++ second :: first :: after).filter p := by
  rw [List.filter_append, List.filter_append]
  congr 1
  cases here : p first with
  | true => rw [List.filter_cons_of_pos here, List.filter_cons_of_neg, List.filter_cons_of_neg,
      List.filter_cons_of_pos here] <;> simp [one here]
  | false => simp [List.filter_cons, here]

/-- Steps about different keys or kinds may be exchanged in a run. -/
theorem sameEntries_of_distant {first second : Operation D} (distant : first.Distant second)
    (before after : List (Operation D)) :
    (build (before ++ first :: second :: after)).SameEntries
      (build (before ++ second :: first :: after)) where
  args key := by
    apply args_build_congr
    apply filter_swap
    intro about
    exact decide_eq_false (distant.keys key (of_decide_eq_true about))
  nodes kind := by
    apply nodes_build_congr
    apply filter_swap
    intro about
    exact decide_eq_false (distant.kinds kind (of_decide_eq_true about))

/-! ## Entries in any order -/

/-- Grammars with the same entries have the same schema. -/
theorem SameEntries.schema_eq {grammar other : Grammar D} (same : grammar.SameEntries other) :
    grammar.schema = other.schema := by
  have alike : grammar.Alike other :=
    ⟨fun key => congrArg _ (same.args key), fun kind => congrArg _ (same.nodes kind)⟩
  exact alike.schema_eq

/-- The entries of a grammar under their keys and kinds, each listed once, in any order. -/
structure Listing (grammar : Grammar D) (args : List (String × ArgEntry D))
    (nodes : List (Kind × NodeEntry D)) : Prop where
  keys : (args.map Prod.fst).Nodup
  mem_args : ∀ key entry, (key, entry) ∈ args ↔ grammar.args[key]? = some entry
  kinds : (nodes.map Prod.fst).Nodup
  mem_nodes : ∀ kind entry, (kind, entry) ∈ nodes ↔ grammar.nodes kind = some entry

/-- Listed entries as a schema, put in order by names and kinds. -/
def sortedSchema (args : List (String × ArgEntry D)) (nodes : List (Kind × NodeEntry D)) :
    Schema where
  args := (args.map fun listed => listed.2.schema).mergeSort fun arg other =>
    (compare arg.name other.name).isLE
  nodes := (nodes.map fun listed => listed.2.schema).mergeSort fun node other =>
    decide (node.kind.index ≤ other.kind.index)

/-- Sorted by ranks that are all different, a list is the one with its members by increasing
rank. -/
theorem mergeSort_eq_of_increasing {α β : Type} [LinearOrder β] (rank : α → β)
    {le : α → α → Bool} (le_iff : ∀ a b, le a b = true ↔ rank a ≤ rank b) {items sorted : List α}
    (once : (items.map rank).Nodup) (increasing : sorted.Pairwise fun a b => rank a < rank b)
    (same : ∀ a, a ∈ items ↔ a ∈ sorted) : items.mergeSort le = sorted := by
  have perm := List.mergeSort_perm items le
  have ordered : (items.mergeSort le).Pairwise fun a b => rank a ≤ rank b := by
    refine (List.pairwise_mergeSort ?_ ?_ items).imp fun less => (le_iff _ _).1 less
    · intro a b c first second
      rw [le_iff] at first second ⊢
      exact first.trans second
    · intro a b
      rw [Bool.or_eq_true, le_iff, le_iff]
      exact le_total _ _
  have apart : (items.mergeSort le).Pairwise fun a b => rank a ≠ rank b :=
    List.pairwise_map.1 ((perm.map rank).nodup_iff.2 once)
  have strict : (items.mergeSort le).Pairwise fun a b => rank a < rank b :=
    (ordered.and apart).imp fun both => lt_of_le_of_ne both.1 both.2
  exact eq_of_increasing strict increasing fun a => perm.mem_iff.trans (same a)

/-- However the entries of a grammar are listed, in order they are its schema. -/
theorem schema_eq_of_listing {grammar : Grammar D} (indexed : grammar.Indexed)
    {args : List (String × ArgEntry D)} {nodes : List (Kind × NodeEntry D)}
    (listing : grammar.Listing args nodes) : sortedSchema args nodes = grammar.schema := by
  have names : (args.map fun listed => listed.2.schema).map ArgSchema.name = args.map Prod.fst := by
    rw [List.map_map]
    apply List.map_congr_left
    rintro ⟨key, entry⟩ mem
    exact indexed.name key entry ((listing.mem_args key entry).1 mem)
  have held : (nodes.map fun listed => listed.2.schema).map NodeSchema.kind =
      nodes.map Prod.fst := by
    rw [List.map_map]
    apply List.map_congr_left
    rintro ⟨kind, entry⟩ mem
    exact indexed.kind kind entry ((listing.mem_nodes kind entry).1 mem)
  have sortedArgs : (sortedSchema args nodes).args = grammar.schema.args := by
    refine mergeSort_eq_of_increasing ArgSchema.name (fun _ _ => Std.LawfulBCmp.isLE_iff_le) ?_
      (pairwise_args_schema indexed) ?_
    · rw [names]
      exact listing.keys
    · intro arg
      rw [mem_args_schema_iff, List.mem_map]
      constructor
      · rintro ⟨⟨key, entry⟩, mem, rfl⟩
        exact ⟨key, entry, (listing.mem_args key entry).1 mem, rfl⟩
      · rintro ⟨key, entry, known, rfl⟩
        exact ⟨(key, entry), (listing.mem_args key entry).2 known, rfl⟩
  have sortedNodes : (sortedSchema args nodes).nodes = grammar.schema.nodes := by
    refine mergeSort_eq_of_increasing (fun node : NodeSchema => node.kind.index)
      (fun _ _ => decide_eq_true_iff) ?_ (pairwise_nodes_schema indexed) ?_
    · have once := listing.kinds.map Kind.index_injective
      rw [← held, List.map_map] at once
      exact once
    · intro node
      rw [mem_nodes_schema_iff, List.mem_map]
      constructor
      · rintro ⟨⟨kind, entry⟩, mem, rfl⟩
        exact ⟨kind, entry, (listing.mem_nodes kind entry).1 mem, rfl⟩
      · rintro ⟨kind, entry, known, rfl⟩
        exact ⟨(kind, entry), (listing.mem_nodes kind entry).2 known, rfl⟩
  exact congr (congrArg Schema.mk sortedArgs) sortedNodes

/-- In a built grammar the keys and kinds that some step defines have entries, and each has the
final one of the run. Steps about other keys and kinds do not matter to an entry, so two steps that
follow each other and are about different ones may be exchanged. Grammars with the same entries have
the same schema, and in whatever order the entries are listed, they are put in that same order. -/
theorem build_keeps_last_definitions (operations : List (Operation D)) :
    (∀ key,
      ((build operations).hasArg key = true ↔
        ∃ kinds types, .defineArg key kinds types ∈ operations) ∧
      (∀ entry, (build operations).args[key]? = some entry ↔ FinalArg operations key entry) ∧
      ∀ others : List (Operation D),
        operations.filter (·.key? = some key) = others.filter (·.key? = some key) →
        (build operations).args[key]? = (build others).args[key]?) ∧
    (∀ kind,
      ((build operations).hasNode kind = true ↔
        ∃ keys children, .defineNode kind keys children ∈ operations) ∧
      (∀ entry, (build operations).nodes kind = some entry ↔ FinalNode operations kind entry) ∧
      ∀ others : List (Operation D),
        operations.filter (·.kind? = some kind) = others.filter (·.kind? = some kind) →
        (build operations).nodes kind = (build others).nodes kind) ∧
    (∀ before first second after, operations = before ++ first :: second :: after →
      first.Distant second →
      (build operations).SameEntries (build (before ++ second :: first :: after))) ∧
    (∀ other : Grammar D, (build operations).SameEntries other →
      other.schema = (build operations).schema) ∧
    ∀ args nodes, (build operations).Listing args nodes →
      sortedSchema args nodes = (build operations).schema := by
  refine ⟨fun key => ⟨hasArg_build_iff, fun _ => args_build_iff, fun _ => args_build_congr⟩,
    fun kind => ⟨hasNode_build_iff, fun _ => nodes_build_iff, fun _ => nodes_build_congr⟩,
    ?_, fun _ same => same.schema_eq.symm, ?_⟩
  · rintro before first second after rfl distant
    exact sameEntries_of_distant distant before after
  · intro args nodes listing
    exact schema_eq_of_listing (indexed_build operations) listing

/-! ## A run in which definitions are replaced -/

/-- A rule that objects to every label. -/
def refuseLabel : ArgRule Unit := fun _ _ _ => .error (Diagnostic.unknownArg "label")

/-- A rule that accepts every label. -/
def acceptLabel : ArgRule Unit := fun _ _ _ => .ok ()

/-- A rule is attached to labels before they are defined, and they are defined twice. -/
def labelRun : List (Operation Unit) :=
  [.attach (.argRule "label" refuseLabel), .defineArg "label" [.nothing] [.integer],
    .attach (.argRule "label" refuseLabel), .defineNode .identifier ["label", "label"] [],
    .defineArg "label" [] [.string, .string], .attach (.argRule "label" acceptLabel),
    .attach (.nodeRule .wait fun _ _ _ => .ok ())]

/-- The entry for labels after the run. -/
def labelEntry : ArgEntry Unit :=
  ⟨"label", [].contains, [LeafType.string].contains, some acceptLabel⟩

/-- The entry for identifiers after the run. -/
def identifierEntry : NodeEntry Unit :=
  ⟨.identifier, ["label"], [].contains, none⟩

theorem finalArg_labelRun : FinalArg labelRun "label" labelEntry := by
  refine ⟨labelRun.take 4, [], [.string, .string], labelRun.drop 5, rfl, ?_, rfl, ?_, ?_, ?_⟩
  · simp [labelRun]
  · simp [labelEntry]
  · simp [labelEntry]
  · rfl

theorem finalNode_labelRun : FinalNode labelRun .identifier identifierEntry := by
  refine ⟨labelRun.take 3, ["label", "label"], [], labelRun.drop 4, rfl, ?_, rfl, .eraseDups, ?_,
    ?_⟩
  · simp [labelRun]
  · simp [identifierEntry]
  · rfl

/-- After the run labels are texts that are all accepted, identifiers have one label, and nothing
else is defined; a listing of the two entries gives the schema. -/
theorem build_labelRun :
    (build labelRun).args["label"]? = some labelEntry ∧
    (build labelRun).nodes .identifier = some identifierEntry ∧
    (build labelRun).hasNode .wait = false ∧
    (build labelRun).schema =
      { args := [⟨"label", [], [.string]⟩], nodes := [⟨.identifier, ["label"], []⟩] } := by
  obtain ⟨args, nodes, _, _, listed⟩ := build_keeps_last_definitions labelRun
  have label := ((args "label").2.1 labelEntry).2 finalArg_labelRun
  have identifier := ((nodes .identifier).2.1 identifierEntry).2 finalNode_labelRun
  have wait : (build labelRun).hasNode .wait = false := by
    rw [Bool.eq_false_iff, ne_eq, (nodes .wait).1]
    simp [labelRun]
  have listing : (build labelRun).Listing [("label", labelEntry)]
      [(.identifier, identifierEntry)] := by
    refine ⟨List.nodup_singleton _, fun key entry => ?_, List.nodup_singleton _,
      fun kind entry => ?_⟩
    · rw [List.mem_singleton, Prod.mk.injEq]
      constructor
      · rintro ⟨rfl, rfl⟩
        exact label
      · intro known
        obtain ⟨kinds, types, defined⟩ := (args key).1.1 (hasArg_iff.2 ⟨entry, known⟩)
        obtain rfl : key = "label" := by
          simp only [labelRun, List.mem_cons] at defined
          grind
        exact ⟨rfl, Option.some.inj (known.symm.trans label)⟩
    · rw [List.mem_singleton, Prod.mk.injEq]
      constructor
      · rintro ⟨rfl, rfl⟩
        exact identifier
      · intro known
        obtain ⟨keys, children, defined⟩ := (nodes kind).1.1 (Option.isSome_of_eq_some known)
        obtain rfl : kind = .identifier := by
          simp only [labelRun, List.mem_cons] at defined
          grind
        exact ⟨rfl, Option.some.inj (known.symm.trans identifier)⟩
  refine ⟨label, identifier, wait, ?_⟩
  rw [← listed _ _ listing, sortedSchema, List.map_singleton, List.map_singleton,
    List.mergeSort_singleton, List.mergeSort_singleton]
  rfl

end Grammar

end SequenceCheck
