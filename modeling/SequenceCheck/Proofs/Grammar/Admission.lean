import Mathlib.Data.List.Induction
import Mathlib.Data.List.Nodup
import SequenceCheck.Proofs.Check.Failures
import SequenceCheck.Proofs.Grammar.Loading

/-!
# Schemas that are loaded, and schemas that are not

A schema is loaded exactly if it defines no key and no kind twice and declares every key that its
nodes use. If it is not loaded, an entry for a key that repeats an earlier one is the error before
any other; failing that, the first entry for a kind that repeats an earlier one or uses an
undeclared key is.

Main statements: the schemas that are loaded (`exists_ofSchema_eq_ok_iff`) and the error of every
other one (`ofSchema_eq_error_iff`).
-/

set_option autoImplicit false

namespace SequenceCheck

variable {D : Type}

namespace Schema

/-- Entries for kinds that repeat no kind and use declared keys only. -/
structure Admits (schema : Schema) (nodes : List NodeSchema) : Prop where
  once : (nodes.map NodeSchema.kind).Nodup
  declared : ∀ node ∈ nodes, ∀ key ∈ node.keys, schema.Declares key

/-- The offence of a schema that is looked at first. -/
inductive FirstOffence (schema : Schema) : SchemaError → Prop
  /-- An entry for a key repeats an earlier one, and none before it does. -/
  | duplicateArg {before after : List ArgSchema} {arg : ArgSchema} :
      schema.args = before ++ arg :: after → (before.map ArgSchema.name).Nodup →
      arg.name ∈ before.map ArgSchema.name →
      FirstOffence schema (.duplicateArg arg.name)
  /-- An entry for a kind repeats an earlier one, and those before it are fine. -/
  | duplicateNode {before after : List NodeSchema} {node : NodeSchema} :
      (schema.args.map ArgSchema.name).Nodup →
      schema.nodes = before ++ node :: after → schema.Admits before →
      node.kind ∈ before.map NodeSchema.kind →
      FirstOffence schema (.duplicateNode node.kind)
  /-- An entry for a new kind uses a key that is not declared; the entries before it, and the keys
  it uses before this one, are fine. -/
  | undeclaredArg {before after : List NodeSchema} {node : NodeSchema}
      {earlier later : List String} {key : String} :
      (schema.args.map ArgSchema.name).Nodup →
      schema.nodes = before ++ node :: after → schema.Admits before →
      node.kind ∉ before.map NodeSchema.kind →
      node.keys = earlier ++ key :: later → (∀ used ∈ earlier, schema.Declares used) →
      ¬ schema.Declares key →
      FirstOffence schema (.undeclaredArg node.kind key)

end Schema

namespace Grammar

variable {grammar : Grammar D} {schema : Schema}

/-! ## Runs -/

section Runs

variable {σ α ε : Type} {step : σ → α → Except ε σ}

/-- A run that goes on after some items ends where the run of the rest ends. -/
theorem foldlM_append_of_ok {before : List α} {state reached : σ}
    (run : before.foldlM step state = .ok reached) (rest : List α) :
    (before ++ rest).foldlM step state = rest.foldlM step reached := by
  rw [List.foldlM_append, run]
  rfl

/-- A run ends in an error exactly if one of its steps does, after a run that does not. -/
theorem foldlM_eq_error_iff {items : List α} {state : σ} {error : ε} :
    items.foldlM step state = .error error ↔
      ∃ before item after reached, items = before ++ item :: after ∧
        before.foldlM step state = .ok reached ∧ step reached item = .error error := by
  constructor
  · intro run
    induction items generalizing state with
    | nil => cases run
    | cons item rest ih =>
      rw [List.foldlM_cons] at run
      cases first : step state item with
      | error found =>
        rw [first] at run
        cases run
        exact ⟨[], item, rest, state, rfl, rfl, first⟩
      | ok next =>
        rw [first] at run
        obtain ⟨before, later, after, reached, rfl, runs, fails⟩ := ih run
        refine ⟨item :: before, later, after, reached, rfl, ?_, fails⟩
        rw [List.foldlM_cons, first]
        exact runs
  · rintro ⟨before, item, after, reached, rfl, runs, fails⟩
    rw [foldlM_append_of_ok runs, List.foldlM_cons, fails]
    rfl

/-- A run over some items and one more is the run over these and then one step. -/
theorem exists_of_foldlM_append_singleton {items : List α} {item : α} {state last : σ}
    (run : (items ++ [item]).foldlM step state = .ok last) :
    ∃ reached, items.foldlM step state = .ok reached ∧ step reached item = .ok last := by
  cases first : items.foldlM step state with
  | error error =>
    rw [List.foldlM_append, first] at run
    cases run
  | ok reached =>
    rw [foldlM_append_of_ok first, List.foldlM_cons] at run
    refine ⟨reached, rfl, ?_⟩
    cases second : step reached item with
    | error error =>
      rw [second] at run
      cases run
    | ok next =>
      rw [second] at run
      exact congrArg Except.ok (Except.ok.inj run)

end Runs

/-- A list with one more item has no item twice exactly if the item is new to it. -/
theorem nodup_map_append_singleton {α β : Type} {f : α → β} {items : List α} {item : α} :
    ((items ++ [item]).map f).Nodup ↔ (items.map f).Nodup ∧ f item ∉ items.map f := by
  rw [List.map_append, List.map_singleton, ← List.concat_eq_append, List.nodup_concat, and_comm]

/-! ## Entries for keys -/

theorem hasArg_defineArgs_empty (args : List ArgSchema) (key : String) :
    (empty.defineArgs args : Grammar D).hasArg key = true ↔ key ∈ args.map ArgSchema.name := by
  rw [hasArg_defineArgs, List.mem_map]
  exact or_iff_left Bool.false_ne_true

/-- The keys of a schema are the ones that it declares. -/
theorem hasArg_defineArgs_schema {key : String} :
    (empty.defineArgs schema.args : Grammar D).hasArg key = true ↔ schema.Declares key := by
  rw [hasArg_defineArgs]
  exact or_iff_left Bool.false_ne_true

theorem addArg_eq_error_iff {arg : ArgSchema} {error : SchemaError} :
    grammar.addArg arg = .error error ↔
      grammar.hasArg arg.name = true ∧ error = .duplicateArg arg.name := by
  cases known : grammar.hasArg arg.name with
  | true =>
    rw [addArg_of_known known, Except.error.injEq, and_iff_right rfl, eq_comm]
  | false =>
    rw [addArg_of_new known]
    simp

/-- Only entries for keys that repeat none are added. -/
theorem nodup_of_foldlM_addArg {args : List ArgSchema} {reached : Grammar D}
    (run : args.foldlM addArg empty = .ok reached) :
    (args.map ArgSchema.name).Nodup ∧ reached = empty.defineArgs args := by
  induction args using List.reverseRecOn generalizing reached with
  | nil => exact ⟨List.nodup_nil, (Except.ok.inj run).symm⟩
  | append_singleton before arg ih =>
    obtain ⟨state, first, added⟩ := exists_of_foldlM_append_singleton run
    obtain ⟨once, rfl⟩ := ih first
    have new : arg.name ∉ before.map ArgSchema.name := by
      rw [← hasArg_defineArgs_empty (D := D)]
      intro known
      cases (addArg_of_known known).symm.trans added
    refine ⟨nodup_map_append_singleton.2 ⟨once, new⟩, ?_⟩
    rw [addArg_eq_ok added, defineArgs, defineArgs, List.foldl_append]
    rfl

/-- The entries for keys are added exactly if none is repeated. -/
theorem foldlM_addArg_eq_ok_iff {args : List ArgSchema} {reached : Grammar D} :
    args.foldlM addArg empty = .ok reached ↔
      (args.map ArgSchema.name).Nodup ∧ reached = empty.defineArgs args := by
  refine ⟨nodup_of_foldlM_addArg, ?_⟩
  rintro ⟨once, rfl⟩
  exact foldlM_addArg once fun arg _ => rfl

/-- The first entry for a key that repeats an earlier one is the error. -/
theorem foldlM_addArg_eq_error_iff {args : List ArgSchema} {error : SchemaError} :
    (args.foldlM addArg empty : Except SchemaError (Grammar D)) = .error error ↔
      ∃ before arg after, args = before ++ arg :: after ∧ (before.map ArgSchema.name).Nodup ∧
        arg.name ∈ before.map ArgSchema.name ∧ error = .duplicateArg arg.name := by
  rw [foldlM_eq_error_iff]
  constructor
  · rintro ⟨before, arg, after, reached, split, run, fails⟩
    obtain ⟨once, rfl⟩ := foldlM_addArg_eq_ok_iff.1 run
    obtain ⟨known, rfl⟩ := addArg_eq_error_iff.1 fails
    exact ⟨before, arg, after, split, once, (hasArg_defineArgs_empty before _).1 known, rfl⟩
  · rintro ⟨before, arg, after, split, once, again, rfl⟩
    refine ⟨before, arg, after, empty.defineArgs before, split,
      foldlM_addArg_eq_ok_iff.2 ⟨once, rfl⟩, addArg_eq_error_iff.2 ⟨?_, rfl⟩⟩
    exact (hasArg_defineArgs_empty before _).2 again

/-! ## Entries for kinds -/

theorem hasNode_defineNodes (schema : Schema) (nodes : List NodeSchema) (kind : Kind) :
    ((empty.defineArgs schema.args).defineNodes nodes : Grammar D).hasNode kind = true ↔
      kind ∈ nodes.map NodeSchema.kind := by
  induction nodes using List.reverseRecOn with
  | nil =>
    rw [defineNodes, List.foldl_nil, hasNode, nodes_defineArgs]
    simp [empty]
  | append_singleton before node ih =>
    rw [defineNodes, List.foldl_append, List.foldl_cons, List.foldl_nil, ← defineNodes, hasNode,
      nodes_defineNode, List.map_append, List.mem_append, ← ih, hasNode]
    split
    · rename_i same
      simp [same]
    · rename_i other
      simp [Ne.symm other]

/-- Entries for kinds define no keys. -/
theorem hasArg_defineNodes (schema : Schema) (nodes : List NodeSchema) (key : String) :
    ((empty.defineArgs schema.args).defineNodes nodes : Grammar D).hasArg key = true ↔
      schema.Declares key := by
  rw [hasArg, args_defineNodes, ← hasArg]
  exact hasArg_defineArgs_schema

theorem addNode_eq_error_iff {node : NodeSchema} {error : SchemaError} :
    grammar.addNode node = .error error ↔
      grammar.hasNode node.kind = true ∧ error = .duplicateNode node.kind ∨
      grammar.hasNode node.kind = false ∧ ∃ earlier key later,
        node.keys = earlier ++ key :: later ∧ (∀ used ∈ earlier, grammar.hasArg used = true) ∧
        grammar.hasArg key = false ∧ error = .undeclaredArg node.kind key := by
  constructor
  · intro fails
    cases known : grammar.hasNode node.kind with
    | true => exact .inl ⟨rfl, Except.error.inj (fails.symm.trans (addNode_of_known known))⟩
    | false =>
      refine .inr ⟨rfl, ?_⟩
      rcases Check.forall_or_exists_first (fun key => grammar.hasArg key = true) node.keys with
        all | ⟨earlier, key, later, split, fine, stray⟩
      · cases (addNode_of_defined known all).symm.trans fails
      · have undefined := Bool.eq_false_iff.2 stray
        have error := addNode_of_undefined known split fine undefined
        exact ⟨earlier, key, later, split, fine, undefined,
          Except.error.inj (fails.symm.trans error)⟩
  · rintro (⟨known, rfl⟩ | ⟨new, earlier, key, later, split, fine, undefined, rfl⟩)
    · exact addNode_of_known known
    · exact addNode_of_undefined new split fine undefined

/-- Only entries for kinds that repeat none and use declared keys are added. -/
theorem admits_of_foldlM_addNode {nodes : List NodeSchema} {reached : Grammar D}
    (run : nodes.foldlM addNode (empty.defineArgs schema.args) = .ok reached) :
    schema.Admits nodes ∧ reached = (empty.defineArgs schema.args).defineNodes nodes := by
  induction nodes using List.reverseRecOn generalizing reached with
  | nil => exact ⟨⟨List.nodup_nil, by simp⟩, (Except.ok.inj run).symm⟩
  | append_singleton before node ih =>
    obtain ⟨state, first, added⟩ := exists_of_foldlM_append_singleton run
    obtain ⟨fine, rfl⟩ := ih first
    obtain ⟨defined, rfl⟩ := addNode_eq_ok added
    have new : node.kind ∉ before.map NodeSchema.kind := by
      intro mem
      have known := (hasNode_defineNodes (D := D) schema before node.kind).2 mem
      cases (addNode_of_known known).symm.trans added
    have declared : ∀ key ∈ node.keys, schema.Declares key := by
      intro key used
      exact (hasArg_defineNodes (D := D) schema before key).1 (defined key used)
    refine ⟨⟨nodup_map_append_singleton.2 ⟨fine.once, new⟩, ?_⟩, ?_⟩
    · exact List.forall_mem_append.2 ⟨fine.declared, List.forall_mem_singleton.2 declared⟩
    · rw [defineNodes, defineNodes, List.foldl_append]
      rfl

/-- The entries for kinds are added exactly if none is repeated and they use declared keys. -/
theorem foldlM_addNode_eq_ok_iff {nodes : List NodeSchema} {reached : Grammar D} :
    nodes.foldlM addNode (empty.defineArgs schema.args) = .ok reached ↔
      schema.Admits nodes ∧ reached = (empty.defineArgs schema.args).defineNodes nodes := by
  refine ⟨admits_of_foldlM_addNode, ?_⟩
  rintro ⟨fine, rfl⟩
  apply foldlM_addNode fine.once
  · intro node _
    rw [hasNode, nodes_defineArgs]
    rfl
  · intro node mem key used
    exact hasArg_defineArgs_schema.2 (fine.declared node mem key used)

/-! ## A whole schema -/

/-- Loading adds the entries for keys, and then those for kinds. -/
theorem ofSchema_eq_of_foldlM_addArg {reached : Grammar D}
    (run : schema.args.foldlM addArg empty = .ok reached) :
    ofSchema schema = schema.nodes.foldlM addNode reached := by
  rw [ofSchema, run]
  rfl

theorem ofSchema_eq_ok_iff {loaded : Grammar D} :
    ofSchema schema = .ok loaded ↔
      (schema.args.map ArgSchema.name).Nodup ∧ schema.Admits schema.nodes ∧
        loaded = (empty.defineArgs schema.args).defineNodes schema.nodes := by
  constructor
  · intro ok
    cases run : schema.args.foldlM addArg (empty : Grammar D) with
    | error error =>
      rw [ofSchema, run] at ok
      cases ok
    | ok reached =>
      rw [ofSchema_eq_of_foldlM_addArg run] at ok
      obtain ⟨once, rfl⟩ := foldlM_addArg_eq_ok_iff.1 run
      exact ⟨once, foldlM_addNode_eq_ok_iff.1 ok⟩
  · rintro ⟨once, fine⟩
    rw [ofSchema_eq_of_foldlM_addArg (foldlM_addArg_eq_ok_iff.2 ⟨once, rfl⟩)]
    exact foldlM_addNode_eq_ok_iff.2 fine

/-- A schema is loaded exactly if it repeats nothing and declares what its nodes use. -/
theorem exists_ofSchema_eq_ok_iff :
    (∃ loaded : Grammar D, ofSchema schema = .ok loaded) ↔
      schema.Distinct ∧ ∀ node ∈ schema.nodes, ∀ key ∈ node.keys, schema.Declares key := by
  constructor
  · rintro ⟨loaded, ok⟩
    obtain ⟨once, fine, _⟩ := ofSchema_eq_ok_iff.1 ok
    exact ⟨⟨once, fine.once⟩, fine.declared⟩
  · rintro ⟨distinct, declared⟩
    exact ⟨_, ofSchema_eq_ok_iff.2 ⟨distinct.args, ⟨distinct.nodes, declared⟩, rfl⟩⟩

/-- The error of a schema is its first offence. -/
theorem ofSchema_eq_error_iff {error : SchemaError} :
    (ofSchema schema : Except SchemaError (Grammar D)) = .error error ↔
      schema.FirstOffence error := by
  constructor
  · intro fails
    cases run : schema.args.foldlM addArg (empty : Grammar D) with
    | error found =>
      rw [ofSchema, run] at fails
      obtain rfl : found = error := Except.error.inj fails
      obtain ⟨before, arg, after, split, once, again, rfl⟩ := foldlM_addArg_eq_error_iff.1 run
      exact .duplicateArg split once again
    | ok reached =>
      obtain ⟨once, rfl⟩ := foldlM_addArg_eq_ok_iff.1 run
      rw [ofSchema_eq_of_foldlM_addArg run, foldlM_eq_error_iff] at fails
      obtain ⟨before, node, after, state, split, runs, step⟩ := fails
      obtain ⟨fine, rfl⟩ := foldlM_addNode_eq_ok_iff.1 runs
      rcases addNode_eq_error_iff.1 step with
        ⟨known, rfl⟩ | ⟨new, earlier, key, later, keys, defined, undefined, rfl⟩
      · exact .duplicateNode once split fine ((hasNode_defineNodes schema before _).1 known)
      · refine .undeclaredArg once split fine ?_ keys ?_ ?_
        · exact mt (hasNode_defineNodes (D := D) schema before _).2 (Bool.eq_false_iff.1 new)
        · intro used mem
          exact (hasArg_defineNodes (D := D) schema before used).1 (defined used mem)
        · exact mt (hasArg_defineNodes (D := D) schema before key).2 (Bool.eq_false_iff.1 undefined)
  · intro offence
    cases offence with
    | duplicateArg split once again =>
      rw [ofSchema, foldlM_addArg_eq_error_iff.2 ⟨_, _, _, split, once, again, rfl⟩]
      rfl
    | duplicateNode once split fine again =>
      rw [ofSchema_eq_of_foldlM_addArg (foldlM_addArg_eq_ok_iff.2 ⟨once, rfl⟩),
        foldlM_eq_error_iff]
      refine ⟨_, _, _, _, split, foldlM_addNode_eq_ok_iff.2 ⟨fine, rfl⟩, ?_⟩
      exact addNode_of_known ((hasNode_defineNodes schema _ _).2 again)
    | undeclaredArg once split fine new keys declared undeclared =>
      rw [ofSchema_eq_of_foldlM_addArg (foldlM_addArg_eq_ok_iff.2 ⟨once, rfl⟩),
        foldlM_eq_error_iff]
      refine ⟨_, _, _, _, split, foldlM_addNode_eq_ok_iff.2 ⟨fine, rfl⟩, ?_⟩
      apply addNode_of_undefined _ keys
      · intro used mem
        exact (hasArg_defineNodes schema _ used).2 (declared used mem)
      · exact Bool.eq_false_iff.2 (mt (hasArg_defineNodes schema _ _).1 undeclared)
      · exact Bool.eq_false_iff.2 (mt (hasNode_defineNodes schema _ _).1 new)

end Grammar

end SequenceCheck
