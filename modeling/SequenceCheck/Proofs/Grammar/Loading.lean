import SequenceCheck.Proofs.Grammar.Alike

/-!
# Loading schemas

Loading a schema defines its entries one after the other, unless one of them repeats a key or a kind
or uses a key that is not defined. So what holds of the empty grammar and is kept by definitions of
new entries, whose keys are defined, holds of every grammar that is loaded (`ofSchema_induction`).

Main statements: a grammar that is loaded has no rules (`ruleless_of_ofSchema`), and it defines
every key that its nodes require, whatever rules are attached to it afterwards
(`keysDefined_of_ofSchema`). Entries that repeat nothing are all added (`foldlM_addArg`,
`foldlM_addNode`).
-/

set_option autoImplicit false

namespace SequenceCheck

variable {D : Type}

namespace Grammar

variable {grammar : Grammar D}

/-! ## One entry -/

theorem addArg_of_new {arg : ArgSchema} (new : grammar.hasArg arg.name = false) :
    grammar.addArg arg = .ok (grammar.defineArg arg.name arg.kinds arg.types) := by
  rw [addArg, if_neg (Bool.eq_false_iff.1 new)]

theorem addArg_of_known {arg : ArgSchema} (known : grammar.hasArg arg.name = true) :
    grammar.addArg arg = .error (.duplicateArg arg.name) := by
  rw [addArg, if_pos known]

theorem addNode_of_known {node : NodeSchema} (known : grammar.hasNode node.kind = true) :
    grammar.addNode node = .error (.duplicateNode node.kind) := by
  rw [addNode, if_pos known]

theorem addNode_of_defined {node : NodeSchema} (new : grammar.hasNode node.kind = false)
    (defined : ∀ key ∈ node.keys, grammar.hasArg key = true) :
    grammar.addNode node = .ok (grammar.defineNode node.kind node.keys node.children) := by
  have none : (node.keys.find? fun key => !grammar.hasArg key) = none := by
    apply List.find?_eq_none.2
    intro key mem
    simp [defined key mem]
  rw [addNode, if_neg (Bool.eq_false_iff.1 new), none]

/-- The first key that is not defined is the error. -/
theorem addNode_of_undefined {node : NodeSchema} {before after : List String} {key : String}
    (new : grammar.hasNode node.kind = false) (split : node.keys = before ++ key :: after)
    (defined : ∀ earlier ∈ before, grammar.hasArg earlier = true)
    (undefined : grammar.hasArg key = false) :
    grammar.addNode node = .error (.undeclaredArg node.kind key) := by
  have first : (node.keys.find? fun key => !grammar.hasArg key) = some key := by
    apply List.find?_eq_some_iff_append.2
    refine ⟨by simp [undefined], before, after, split, ?_⟩
    intro earlier mem
    simp [defined earlier mem]
  rw [addNode, if_neg (Bool.eq_false_iff.1 new), first]

theorem addArg_eq_ok {arg : ArgSchema} {next : Grammar D} (added : grammar.addArg arg = .ok next) :
    next = grammar.defineArg arg.name arg.kinds arg.types := by
  cases known : grammar.hasArg arg.name with
  | true => cases (addArg_of_known known).symm.trans added
  | false => exact (Except.ok.inj ((addArg_of_new known).symm.trans added)).symm

/-- Only a node that uses defined keys is added. -/
theorem addNode_eq_ok {node : NodeSchema} {next : Grammar D}
    (added : grammar.addNode node = .ok next) :
    (∀ key ∈ node.keys, grammar.hasArg key = true) ∧
      next = grammar.defineNode node.kind node.keys node.children := by
  cases known : grammar.hasNode node.kind with
  | true => cases (addNode_of_known known).symm.trans added
  | false =>
    rw [addNode, if_neg (Bool.eq_false_iff.1 known)] at added
    split at added
    · cases added
    · rename_i none
      refine ⟨?_, (Except.ok.inj added).symm⟩
      intro key required
      simpa using List.find?_eq_none.1 none key required

/-! ## A whole schema -/

/-- What is kept by every step of a run holds at its end, if there is one. -/
theorem foldlM_induction {σ α ε : Type} {step : σ → α → Except ε σ} {motive : σ → Prop}
    (keeps : ∀ state item next, step state item = .ok next → motive state → motive next) :
    ∀ (items : List α) (state last : σ), items.foldlM step state = .ok last →
      motive state → motive last := by
  intro items
  induction items with
  | nil =>
    intro state last run holds
    obtain rfl := Except.ok.inj run
    exact holds
  | cons item rest ih =>
    intro state last run holds
    rw [List.foldlM_cons] at run
    cases first : step state item with
    | error error =>
      rw [first] at run
      cases run
    | ok next =>
      rw [first] at run
      exact ih next last run (keeps state item next first holds)

/-- What holds of the empty grammar, and is kept by definitions whose keys are defined, holds of
every grammar that is loaded. -/
theorem ofSchema_induction {motive : Grammar D → Prop} (start : motive empty)
    (arg : ∀ (grammar : Grammar D) name kinds types,
      motive grammar → motive (grammar.defineArg name kinds types))
    (node : ∀ (grammar : Grammar D) kind keys children,
      (∀ key ∈ keys, grammar.hasArg key = true) →
      motive grammar → motive (grammar.defineNode kind keys children))
    {schema : Schema} {loaded : Grammar D} (ok : ofSchema schema = .ok loaded) :
    motive loaded := by
  rw [ofSchema] at ok
  -- All keys are defined before the first kind, and each part of the run keeps what holds.
  cases args : schema.args.foldlM addArg (empty : Grammar D) with
  | error error =>
    rw [args] at ok
    cases ok
  | ok grammar =>
    rw [args] at ok
    have defined : motive grammar := by
      apply foldlM_induction _ _ _ _ args start
      intro state item next added holds
      rw [addArg_eq_ok added]
      exact arg state _ _ _ holds
    apply foldlM_induction _ _ _ _ ok defined
    intro state item next added holds
    obtain ⟨keys, rfl⟩ := addNode_eq_ok added
    exact node state _ _ _ keys holds

theorem hasArg_defineArg (grammar : Grammar D) (name : String) (kinds : List Kind)
    (types : List LeafType) (key : String) :
    (grammar.defineArg name kinds types).hasArg key = (name == key || grammar.hasArg key) := by
  rw [hasArg, defineArg, Std.TreeMap.contains_insert, hasArg]
  congr 1
  rw [Bool.eq_iff_iff, beq_iff_eq, beq_iff_eq, Std.LawfulEqOrd.compare_eq_iff_eq]

theorem ruleless_empty : (empty : Grammar D).Ruleless where
  args key entry known := by
    rw [args_empty] at known
    cases known
  nodes _ _ known := by cases known

theorem Ruleless.defineArg (bare : grammar.Ruleless) (name : String) (kinds : List Kind)
    (types : List LeafType) : (grammar.defineArg name kinds types).Ruleless where
  args key entry known := by
    rw [args_defineArg] at known
    split at known
    · cases known
      rfl
    · exact bare.args key entry known
  nodes := bare.nodes

theorem Ruleless.defineNode (bare : grammar.Ruleless) (kind : Kind) (keys : List String)
    (children : List Kind) : (grammar.defineNode kind keys children).Ruleless where
  args := bare.args
  nodes other entry known := by
    rw [nodes_defineNode] at known
    split at known
    · cases known
      rfl
    · exact bare.nodes other entry known

/-- A grammar that is loaded has no rules. -/
theorem ruleless_of_ofSchema {schema : Schema} {loaded : Grammar D}
    (ok : ofSchema schema = .ok loaded) : loaded.Ruleless := by
  apply ofSchema_induction ruleless_empty _ _ ok
  · intro grammar name kinds types bare
    exact bare.defineArg name kinds types
  · intro grammar kind keys children _ bare
    exact bare.defineNode kind keys children

theorem keysDefined_empty : (empty : Grammar D).KeysDefined := by
  intro kind entry known
  cases known

theorem KeysDefined.defineArg (defined : grammar.KeysDefined) (name : String) (kinds : List Kind)
    (types : List LeafType) : (grammar.defineArg name kinds types).KeysDefined := by
  intro kind entry known key required
  rw [hasArg_defineArg, defined kind entry known key required, Bool.or_true]

theorem KeysDefined.defineNode (defined : grammar.KeysDefined) {kind : Kind} {keys : List String}
    {children : List Kind} (here : ∀ key ∈ keys, grammar.hasArg key = true) :
    (grammar.defineNode kind keys children).KeysDefined := by
  intro other entry known key required
  rw [nodes_defineNode] at known
  split at known
  · cases known
    exact here key (List.mem_eraseDups.1 required)
  · exact defined other entry known key required

/-- A grammar that is loaded defines every key that its nodes require. -/
theorem keysDefined_of_ofSchema {schema : Schema} {loaded : Grammar D}
    (ok : ofSchema schema = .ok loaded) : loaded.KeysDefined := by
  apply ofSchema_induction keysDefined_empty _ _ ok
  · intro grammar name kinds types defined
    exact defined.defineArg name kinds types
  · intro grammar kind keys children here defined
    exact defined.defineNode here

/-! ## Schemas that repeat nothing -/

section Lookup

variable {σ κ ε α : Type} [DecidableEq κ] (get : σ → κ → Option ε) {put : σ → α → σ} {key : α → κ}
  {entry : α → ε}

/-- What is put under other keys does not matter for a key. -/
theorem get_foldl_of_forall_ne
    (get_put : ∀ state item k,
      get (put state item) k = if key item = k then some (entry item) else get state k)
    {k : κ} {items : List α} (others : ∀ item ∈ items, key item ≠ k) (state : σ) :
    get (items.foldl put state) k = get state k := by
  induction items generalizing state with
  | nil => rfl
  | cons item rest ih =>
    obtain ⟨other, others⟩ := List.forall_mem_cons.1 others
    rw [List.foldl_cons, ih others, get_put, if_neg other]

/-- What is put under a key once is found there. -/
theorem get_foldl_of_mem
    (get_put : ∀ state item k,
      get (put state item) k = if key item = k then some (entry item) else get state k)
    {items : List α} (once : (items.map key).Nodup) {item : α} (mem : item ∈ items) (state : σ) :
    get (items.foldl put state) (key item) = some (entry item) := by
  induction items generalizing state with
  | nil => exact absurd mem List.not_mem_nil
  | cons first rest ih =>
    obtain ⟨absent, once⟩ := List.nodup_cons.1 once
    rw [List.foldl_cons]
    rcases List.mem_cons.1 mem with rfl | later
    · -- What is put later has another key, so this entry is not replaced.
      have others : ∀ other ∈ rest, key other ≠ key item := by
        intro other inRest same
        exact absent (List.mem_map.2 ⟨other, inRest, same⟩)
      rw [get_foldl_of_forall_ne get get_put others, get_put, if_pos rfl]
    · exact ih once later (put state first)

end Lookup

end Grammar

/-- The entry for a key that is defined from data. -/
def ArgSchema.entry {D : Type} (arg : ArgSchema) : ArgEntry D :=
  ⟨arg.name, arg.kinds.contains, arg.types.contains, none⟩

/-- The entry for a kind that is defined from data. -/
def NodeSchema.entry {D : Type} (node : NodeSchema) : NodeEntry D :=
  ⟨node.kind, node.keys.eraseDups, node.children.contains, none⟩

/-- No key and no kind is defined twice. -/
structure Schema.Distinct (schema : Schema) : Prop where
  args : (schema.args.map ArgSchema.name).Nodup
  nodes : (schema.nodes.map NodeSchema.kind).Nodup

/-- A schema defines a key. -/
def Schema.Declares (schema : Schema) (key : String) : Prop :=
  ∃ arg ∈ schema.args, arg.name = key

namespace Grammar

variable {grammar : Grammar D}

/-- Define what entries for keys say, in turn. -/
def defineArgs (grammar : Grammar D) (args : List ArgSchema) : Grammar D :=
  args.foldl (fun grammar arg => grammar.defineArg arg.name arg.kinds arg.types) grammar

/-- Define what entries for kinds say, in turn. -/
def defineNodes (grammar : Grammar D) (nodes : List NodeSchema) : Grammar D :=
  nodes.foldl (fun grammar node => grammar.defineNode node.kind node.keys node.children) grammar

theorem nodes_defineArgs (grammar : Grammar D) (args : List ArgSchema) :
    (grammar.defineArgs args).nodes = grammar.nodes := by
  induction args generalizing grammar with
  | nil => rfl
  | cons arg rest ih => exact ih (grammar.defineArg arg.name arg.kinds arg.types)

theorem args_defineNodes (grammar : Grammar D) (nodes : List NodeSchema) :
    (grammar.defineNodes nodes).args = grammar.args := by
  induction nodes generalizing grammar with
  | nil => rfl
  | cons node rest ih => exact ih (grammar.defineNode node.kind node.keys node.children)

/-- The entry that is defined for a key is the one from the data. -/
theorem args_defineArgs_of_mem (grammar : Grammar D) {args : List ArgSchema}
    (once : (args.map ArgSchema.name).Nodup) {arg : ArgSchema} (mem : arg ∈ args) :
    (grammar.defineArgs args).args[arg.name]? = some arg.entry :=
  get_foldl_of_mem (fun grammar key => grammar.args[key]?)
    (fun grammar arg key => args_defineArg grammar arg.name arg.kinds arg.types key)
    once mem grammar

theorem args_defineArgs_of_forall_ne (grammar : Grammar D) {args : List ArgSchema} {key : String}
    (others : ∀ arg ∈ args, arg.name ≠ key) :
    (grammar.defineArgs args).args[key]? = grammar.args[key]? :=
  get_foldl_of_forall_ne (fun grammar key => grammar.args[key]?)
    (fun grammar arg key => args_defineArg grammar arg.name arg.kinds arg.types key)
    others grammar

/-- The entry that is defined for a kind is the one from the data. -/
theorem nodes_defineNodes_of_mem (grammar : Grammar D) {nodes : List NodeSchema}
    (once : (nodes.map NodeSchema.kind).Nodup) {node : NodeSchema} (mem : node ∈ nodes) :
    (grammar.defineNodes nodes).nodes node.kind = some node.entry :=
  get_foldl_of_mem Grammar.nodes
    (fun grammar node kind => nodes_defineNode grammar node.kind node.keys node.children kind)
    once mem grammar

theorem nodes_defineNodes_of_forall_ne (grammar : Grammar D) {nodes : List NodeSchema} {kind : Kind}
    (others : ∀ node ∈ nodes, node.kind ≠ kind) :
    (grammar.defineNodes nodes).nodes kind = grammar.nodes kind :=
  get_foldl_of_forall_ne Grammar.nodes
    (fun grammar node kind => nodes_defineNode grammar node.kind node.keys node.children kind)
    others grammar

/-- The keys that are defined are those of the entries, and those that were defined before. -/
theorem hasArg_defineArgs (args : List ArgSchema) (key : String) :
    (grammar.defineArgs args).hasArg key = true ↔
      (∃ arg ∈ args, arg.name = key) ∨ grammar.hasArg key = true := by
  induction args generalizing grammar with
  | nil => simp [defineArgs]
  | cons arg rest ih =>
    have step : (grammar.defineArgs (arg :: rest)) =
        (grammar.defineArg arg.name arg.kinds arg.types).defineArgs rest := rfl
    rw [step, ih, hasArg_defineArg, Bool.or_eq_true, beq_iff_eq]
    simp only [List.mem_cons, exists_eq_or_imp, or_assoc, or_left_comm]

/-- Entries for new keys are all added. -/
theorem foldlM_addArg {args : List ArgSchema} (once : (args.map ArgSchema.name).Nodup)
    (new : ∀ arg ∈ args, grammar.hasArg arg.name = false) :
    args.foldlM addArg grammar = .ok (grammar.defineArgs args) := by
  induction args generalizing grammar with
  | nil => rfl
  | cons arg rest ih =>
    obtain ⟨absent, once⟩ := List.nodup_cons.1 once
    obtain ⟨here, new⟩ := List.forall_mem_cons.1 new
    rw [List.foldlM_cons, addArg_of_new here]
    apply ih once
    intro other mem
    have different : arg.name ≠ other.name := by
      intro same
      exact absent (List.mem_map.2 ⟨other, mem, same.symm⟩)
    rw [hasArg_defineArg, new other mem, Bool.or_false, beq_eq_false_iff_ne]
    exact different

/-- Entries for new kinds that use defined keys are all added. -/
theorem foldlM_addNode {nodes : List NodeSchema} (once : (nodes.map NodeSchema.kind).Nodup)
    (new : ∀ node ∈ nodes, grammar.hasNode node.kind = false)
    (defined : ∀ node ∈ nodes, ∀ key ∈ node.keys, grammar.hasArg key = true) :
    nodes.foldlM addNode grammar = .ok (grammar.defineNodes nodes) := by
  induction nodes generalizing grammar with
  | nil => rfl
  | cons node rest ih =>
    obtain ⟨absent, once⟩ := List.nodup_cons.1 once
    obtain ⟨here, new⟩ := List.forall_mem_cons.1 new
    obtain ⟨keys, defined⟩ := List.forall_mem_cons.1 defined
    rw [List.foldlM_cons, addNode_of_defined here keys]
    refine ih once ?_ defined
    intro other mem
    have different : node.kind ≠ other.kind := by
      intro same
      exact absent (List.mem_map.2 ⟨other, mem, same.symm⟩)
    rw [hasNode, nodes_defineNode, if_neg different]
    exact new other mem

end Grammar

end SequenceCheck
