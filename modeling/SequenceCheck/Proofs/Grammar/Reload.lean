import SequenceCheck.Proofs.Check.Consulted
import SequenceCheck.Proofs.Grammar.Admission
import SequenceCheck.Proofs.Grammar.Text

/-!
# Grammars that are loaded again

The schema of a built grammar lists its entries, each once. Loaded again, it gives a grammar
that is like the one it came from, if that one defines every key that its nodes require; otherwise
the first undefined key of the smallest kind that requires one is the error.

Main statement: `ofSchema_schema_build` says this together with what follows, that the schema of the
loaded grammar is the same, that it checks every tree alike if the first grammar has no rules, and
that all this holds for the text of the schema as well.
-/

set_option autoImplicit false

namespace SequenceCheck

variable {D : Type}

/-! ## Entries loaded again -/

/-- What is picked out of a list is picked again by being in what was picked. -/
theorem filter_contains_filter {α : Type} [BEq α] [LawfulBEq α] (all : List α) (allows : α → Bool) :
    all.filter (all.filter allows).contains = all.filter allows := by
  apply List.filter_congr
  intro a mem
  rw [Bool.eq_iff_iff, List.contains_iff_mem, List.mem_filter, and_iff_right mem]

/-- An entry for a key says the same when it is defined from what it says. -/
theorem ArgEntry.schema_entry (entry : ArgEntry D) :
    (entry.schema.entry : ArgEntry D).schema = entry.schema := by
  change ArgSchema.mk _ (Kind.all.filter (Kind.all.filter entry.allowsKind).contains)
    (LeafType.all.filter (LeafType.all.filter entry.allowsType).contains) = _
  rw [filter_contains_filter, filter_contains_filter]
  rfl

/-- An entry for a kind that requires no key twice says the same when it is defined from what it
says. -/
theorem NodeEntry.schema_entry {entry : NodeEntry D} (nodup : entry.keys.Nodup) :
    (entry.schema.entry : NodeEntry D).schema = entry.schema := by
  change NodeSchema.mk _ entry.keys.eraseDups
    (Kind.all.filter (Kind.all.filter entry.allowsChild).contains) = _
  rw [filter_contains_filter, Grammar.eraseDups_of_nodup nodup]
  rfl

namespace Grammar

variable {grammar : Grammar D}

/-! ## The entries of a schema -/

theorem mem_args_schema_iff {arg : ArgSchema} :
    arg ∈ grammar.schema.args ↔
      ∃ (key : String) (entry : ArgEntry D), grammar.args[key]? = some entry ∧
        entry.schema = arg := by
  constructor
  · intro mem
    obtain ⟨⟨key, entry⟩, listed, same⟩ := List.mem_map.1 mem
    exact ⟨key, entry, Std.TreeMap.mem_toList_iff_getElem?_eq_some.1 listed, same⟩
  · rintro ⟨key, entry, known, same⟩
    exact List.mem_map.2 ⟨(key, entry), Std.TreeMap.mem_toList_iff_getElem?_eq_some.2 known, same⟩

theorem mem_nodes_schema_iff {node : NodeSchema} :
    node ∈ grammar.schema.nodes ↔
      ∃ kind entry, grammar.nodes kind = some entry ∧ entry.schema = node := by
  constructor
  · intro mem
    obtain ⟨entry, listed, same⟩ := List.mem_map.1 mem
    obtain ⟨kind, _, known⟩ := List.mem_filterMap.1 listed
    exact ⟨kind, entry, known, same⟩
  · rintro ⟨kind, entry, known, same⟩
    exact List.mem_map.2 ⟨entry, List.mem_filterMap.2 ⟨kind, Kind.mem_all kind, known⟩, same⟩

/-- The schema lists each key once, in the order of keys. -/
theorem map_name_schema (indexed : grammar.Indexed) :
    grammar.schema.args.map ArgSchema.name = grammar.args.keys := by
  rw [← Std.TreeMap.map_fst_toList_eq_keys]
  change (grammar.args.toList.map _).map _ = _
  rw [List.map_map]
  apply List.map_congr_left
  rintro ⟨key, entry⟩ mem
  exact indexed.name key entry (Std.TreeMap.mem_toList_iff_getElem?_eq_some.1 mem)

/-- The schema lists each kind once, in the order of kinds. -/
theorem map_kind_schema (indexed : grammar.Indexed) :
    grammar.schema.nodes.map NodeSchema.kind = grammar.definedKinds := by
  change ((Kind.all.filterMap grammar.nodes).map _).map _ = Kind.all.filter _
  rw [List.map_map, List.map_filterMap, ← List.filterMap_eq_filter]
  congr 1
  funext kind
  cases known : grammar.nodes kind with
  | none => simp [hasNode, known, Option.guard]
  | some entry =>
    have same := indexed.kind kind entry known
    simp [hasNode, known, Option.guard, same]

theorem distinct_schema (indexed : grammar.Indexed) : grammar.schema.Distinct where
  args := by
    rw [map_name_schema indexed]
    exact Std.TreeMap.nodup_keys
  nodes := by
    rw [map_kind_schema indexed]
    exact Kind.nodup_all.filter _

/-- The schema declares the keys that have an entry. -/
theorem declares_schema_iff (indexed : grammar.Indexed) {key : String} :
    grammar.schema.Declares key ↔ grammar.hasArg key = true := by
  rw [hasArg_iff]
  constructor
  · rintro ⟨arg, mem, name⟩
    obtain ⟨held, entry, known, rfl⟩ := mem_args_schema_iff.1 mem
    obtain rfl : held = key := (indexed.name held entry known).symm.trans name
    exact ⟨entry, known⟩
  · rintro ⟨entry, known⟩
    exact ⟨entry.schema, mem_args_schema_iff.2 ⟨key, entry, known, rfl⟩,
      indexed.name key entry known⟩

/-! ## What is loaded -/

/-- The grammar that is defined by the schema of another one. -/
def reloaded (grammar : Grammar D) : Grammar D :=
  (empty.defineArgs grammar.schema.args).defineNodes grammar.schema.nodes

theorem args_reloaded (key : String) :
    grammar.reloaded.args[key]? =
      (empty.defineArgs grammar.schema.args : Grammar D).args[key]? := by
  rw [reloaded, args_defineNodes]

/-- A grammar that is loaded from the schema of another one is like that one. -/
theorem alike_reloaded (indexed : grammar.Indexed) : grammar.reloaded.Alike grammar where
  args key := by
    rw [args_reloaded]
    cases known : grammar.args[key]? with
    | some entry =>
      have listed : entry.schema ∈ grammar.schema.args :=
        mem_args_schema_iff.2 ⟨key, entry, known, rfl⟩
      have found := args_defineArgs_of_mem (empty : Grammar D)
        (distinct_schema indexed).args listed
      have name : entry.schema.name = key := indexed.name key entry known
      rw [name] at found
      rw [found, Option.map_some, Option.map_some, ArgEntry.schema_entry]
    | none =>
      -- The schema lists nothing that the grammar has no entry for.
      have others : ∀ arg ∈ grammar.schema.args, arg.name ≠ key := by
        intro arg mem same
        obtain ⟨entry, found⟩ := hasArg_iff.1 ((declares_schema_iff indexed).1 ⟨arg, mem, same⟩)
        cases known.symm.trans found
      rw [args_defineArgs_of_forall_ne _ others, args_empty]
  nodes kind := by
    cases known : grammar.nodes kind with
    | some entry =>
      have listed : entry.schema ∈ grammar.schema.nodes :=
        mem_nodes_schema_iff.2 ⟨kind, entry, known, rfl⟩
      have found := nodes_defineNodes_of_mem
        (empty.defineArgs grammar.schema.args : Grammar D) (distinct_schema indexed).nodes listed
      have same : entry.schema.kind = kind := indexed.kind kind entry known
      rw [same] at found
      rw [reloaded, found, Option.map_some, Option.map_some,
        NodeEntry.schema_entry (indexed.nodup kind entry known)]
    | none =>
      have others : ∀ node ∈ grammar.schema.nodes, node.kind ≠ kind := by
        intro node mem same
        obtain ⟨held, entry, found, rfl⟩ := mem_nodes_schema_iff.1 mem
        obtain rfl : held = kind := (indexed.kind held entry found).symm.trans same
        cases known.symm.trans found
      rw [reloaded, nodes_defineNodes_of_forall_ne _ others, nodes_defineArgs]
      rfl

/-- A key is the first one without an entry among those that a kind requires, and the kind is the
smallest one that requires such a key. -/
structure FirstUndefined (grammar : Grammar D) (kind : Kind) (key : String) : Prop where
  first : ∃ entry before after, grammar.nodes kind = some entry ∧
    entry.keys = before ++ key :: after ∧ ∀ earlier ∈ before, grammar.hasArg earlier = true
  undefined : grammar.hasArg key = false
  smallest : ∀ other entry, grammar.nodes other = some entry → other.index < kind.index →
    ∀ used ∈ entry.keys, grammar.hasArg used = true

/-- Smaller kinds come earlier in the list of kinds. -/
theorem mem_before_of_index_lt {kind other : Kind} {before after : List Kind}
    (split : Kind.all = before ++ kind :: after) (smaller : other.index < kind.index) :
    other ∈ before := by
  have once := Kind.nodup_all
  rw [split, List.nodup_append] at once
  have absent : kind ∉ before := by
    intro mem
    exact once.2.2 kind mem kind List.mem_cons_self rfl
  by_contra later
  rw [Kind.index, Kind.index, split, List.idxOf_append, List.idxOf_append, if_neg later,
    if_neg absent, List.idxOf_cons_self] at smaller
  omega

/-- The schema of a grammar that defines what its nodes require is loaded. -/
theorem ofSchema_schema_of_defined (indexed : grammar.Indexed) (defined : grammar.KeysDefined) :
    ofSchema grammar.schema = .ok grammar.reloaded := by
  have distinct := distinct_schema indexed
  refine ofSchema_eq_ok_iff.2 ⟨distinct.args, ⟨distinct.nodes, ?_⟩, rfl⟩
  intro node mem key required
  obtain ⟨kind, entry, known, rfl⟩ := mem_nodes_schema_iff.1 mem
  exact (declares_schema_iff indexed).2 (defined kind entry known key required)

/-- Otherwise loading ends at the first undefined key. -/
theorem ofSchema_schema_of_undefined (indexed : grammar.Indexed)
    (undefined : ¬ grammar.KeysDefined) :
    ∃ kind key, grammar.FirstUndefined kind key ∧
      (ofSchema grammar.schema : Except SchemaError (Grammar D)) =
        .error (.undeclaredArg kind key) := by
  rcases Check.forall_or_exists_first
      (fun kind => ∀ entry, grammar.nodes kind = some entry →
        ∀ key ∈ entry.keys, grammar.hasArg key = true) Kind.all with
    all | ⟨before, kind, after, split, fine, stray⟩
  · exact absurd (fun kind entry known => all kind (Kind.mem_all kind) entry known) undefined
  push Not at stray
  -- The first kind that is not fine is the smallest one, as kinds are listed in their order.
  obtain ⟨entry, known, used, required, missing⟩ := stray
  rcases Check.forall_or_exists_first (fun key => grammar.hasArg key = true) entry.keys with
    all | ⟨earlier, key, later, keys, present, absent⟩
  · exact absurd (all used required) missing
  refine ⟨kind, key, ⟨⟨entry, earlier, later, known, keys, present⟩, ?_, ?_⟩, ?_⟩
  · exact Bool.eq_false_iff.2 absent
  · intro other otherEntry found smaller
    exact fine other (mem_before_of_index_lt split smaller) otherEntry found
  -- Loading gets as far as this kind, because the kinds listed before it are fine.
  · have listed : grammar.schema.nodes =
        (before.filterMap grammar.nodes).map NodeEntry.schema ++
          entry.schema :: (after.filterMap grammar.nodes).map NodeEntry.schema := by
      change (Kind.all.filterMap grammar.nodes).map NodeEntry.schema = _
      rw [split, List.filterMap_append, List.map_append, List.filterMap_cons_some known,
        List.map_cons]
    have declared : ∀ node ∈ (before.filterMap grammar.nodes).map NodeEntry.schema,
        ∀ key ∈ node.keys, grammar.schema.Declares key := by
      intro node mem key required
      obtain ⟨held, inBefore, rfl⟩ := List.mem_map.1 mem
      obtain ⟨other, isBefore, found⟩ := List.mem_filterMap.1 inBefore
      exact (declares_schema_iff indexed).2 (fine other isBefore held found key required)
    have same : entry.schema.kind = kind := indexed.kind kind entry known
    have distinct := distinct_schema indexed
    have once := distinct.nodes
    rw [listed, List.map_append, List.map_cons, List.nodup_append] at once
    have new : entry.schema.kind ∉
        ((before.filterMap grammar.nodes).map NodeEntry.schema).map NodeSchema.kind := by
      intro mem
      exact once.2.2 _ mem _ List.mem_cons_self rfl
    rw [← same]
    apply ofSchema_eq_error_iff.2
    refine .undeclaredArg distinct.args listed ⟨once.1, declared⟩ new keys ?_ ?_
    · intro key mem
      exact (declares_schema_iff indexed).2 (present key mem)
    · exact mt (declares_schema_iff indexed).1 absent

/-! ## What is checked -/

/-- Grammars that are alike and have no rules check every tree alike. -/
theorem Alike.check_eq {other : Grammar D} (alike : grammar.Alike other) (bare : grammar.Ruleless)
    (otherBare : other.Ruleless) (device : D) (tree : Tree) :
    check grammar device tree = check other device tree := by
  apply Check.checkNode_congr
  · intro obligation _ kind _
    exact alike.nodes_eq bare otherBare kind
  · intro obligation _ key _
    exact alike.args_eq bare otherBare key

/-- The schema of a grammar that was built can be loaded exactly if the grammar defines every key
that its nodes require; otherwise the first undefined key of the smallest kind that requires one is
the error. What is loaded has the same schema, and checks every tree alike if the grammar has no
rules. The text of the schema is loaded just as the schema, in every format that reads back what it
prints. -/
theorem ofSchema_schema_build (operations : List (Operation D)) :
    ((∃ loaded : Grammar D, ofSchema (build operations).schema = .ok loaded) ↔
      (build operations).KeysDefined) ∧
    (¬ (build operations).KeysDefined → ∃ kind key, (build operations).FirstUndefined kind key ∧
      (ofSchema (build operations).schema : Except SchemaError (Grammar D)) =
        .error (.undeclaredArg kind key)) ∧
    (∀ loaded : Grammar D, ofSchema (build operations).schema = .ok loaded →
      loaded.schema = (build operations).schema ∧
      ((build operations).Ruleless → ∀ device tree,
        check loaded device tree = check (build operations) device tree)) ∧
    ∀ [Schema.Format], Schema.Format.ReadsBack →
      (ofText (build operations).schema.text : Except SchemaError (Grammar D)) =
        ofSchema (build operations).schema := by
  have indexed := indexed_build operations
  have defined_of_ok : ∀ loaded : Grammar D, ofSchema (build operations).schema = .ok loaded →
      (build operations).KeysDefined := by
    intro loaded ok
    by_contra undefined
    obtain ⟨kind, key, _, error⟩ := ofSchema_schema_of_undefined indexed undefined
    cases error.symm.trans ok
  refine ⟨⟨?_, ?_⟩, ofSchema_schema_of_undefined indexed, ?_,
    fun readsBack => ofText_text readsBack _⟩
  · rintro ⟨loaded, ok⟩
    exact defined_of_ok loaded ok
  · intro defined
    exact ⟨_, ofSchema_schema_of_defined indexed defined⟩
  · intro loaded ok
    have reloads := ofSchema_schema_of_defined indexed (defined_of_ok loaded ok)
    obtain rfl : (build operations).reloaded = loaded := Except.ok.inj (reloads.symm.trans ok)
    have alike := alike_reloaded indexed
    refine ⟨alike.schema_eq, ?_⟩
    intro bare device tree
    exact alike.check_eq (ruleless_of_ofSchema ok) bare device tree

/-! ## A grammar that is loaded again, and one that is not -/

/-- Identifiers have a label, which is given twice. -/
def labelOperations : List (Operation Unit) :=
  [.defineArg "label" [] [.string], .defineNode .identifier ["label", "label"] []]

/-- Identifiers have a label, and labels are not defined. -/
def labellessOperations : List (Operation Unit) :=
  [.defineNode .identifier ["label"] []]

theorem keysDefined_labelOperations : (build labelOperations).KeysDefined := by
  apply (keysDefined_empty.defineArg "label" [] [.string]).defineNode
  intro key mem
  rw [hasArg_defineArg]
  simp_all

theorem not_keysDefined_labellessOperations : ¬ (build labellessOperations).KeysDefined := by
  intro defined
  obtain ⟨entry, known⟩ := hasArg_iff.1 (defined .identifier _ rfl "label" List.mem_cons_self)
  cases (args_empty "label").symm.trans known

/-- The first grammar is loaded from its schema and from the text of its schema; the label is the
error for the second one. -/
theorem ofSchema_schema_labelOperations :
    Schema.Format.ReadsBack ∧
    (∃ loaded : Grammar Unit, ofSchema (build labelOperations).schema = .ok loaded ∧
      ofText (build labelOperations).schema.text = .ok loaded ∧
      loaded.schema = (build labelOperations).schema ∧
      ∀ device tree, check loaded device tree = check (build labelOperations) device tree) ∧
    (ofSchema (build labellessOperations).schema : Except SchemaError (Grammar Unit)) =
      .error (.undeclaredArg .identifier "label") := by
  refine ⟨Schema.readsBack_standardFormat, ?_, ?_⟩
  · obtain ⟨loads, _, same, texts⟩ := ofSchema_schema_build labelOperations
    obtain ⟨loaded, ok⟩ := loads.2 keysDefined_labelOperations
    obtain ⟨schema, checks⟩ := same loaded ok
    have bare : (build labelOperations).Ruleless :=
      (ruleless_empty.defineArg "label" [] [.string]).defineNode .identifier ["label", "label"] []
    have text := texts Schema.readsBack_standardFormat
    exact ⟨loaded, ok, text.trans ok, schema, checks bare⟩
  · obtain ⟨_, fails, _, _⟩ := ofSchema_schema_build labellessOperations
    obtain ⟨kind, key, first, error⟩ := fails not_keysDefined_labellessOperations
    obtain ⟨entry, before, after, known, keys, _⟩ := first.first
    change (empty.defineNode Kind.identifier ["label"] []).nodes kind = _ at known
    rw [nodes_defineNode] at known
    split at known
    · rename_i same
      cases known
      -- The label is the only key there is.
      have mem : key ∈ ["label"] := by
        change ["label"] = _ at keys
        rw [keys]
        exact List.mem_append_cons_self
      rw [error, ← same, List.mem_singleton.1 mem]
    · cases known

end Grammar

end SequenceCheck
