import Mathlib.Data.List.Sort
import Mathlib.Data.String.Basic
import SequenceCheck.Proofs.Grammar.Admission
import SequenceCheck.Proofs.Grammar.Reload
import SequenceCheck.Proofs.RelatedLists

/-!
# Schemas in canonical form

A schema has one canonical form (`Schema.CanonicalForm`): entries for keys by name, entries for
kinds in the order of kinds, and in each entry the kinds and types in their order and the keys in
the order in which they first came, nothing twice.

Main statement: `ofSchema_loads_canonically` says which schemas are loaded, what the error is
otherwise, that a loaded grammar has the canonical form of the schema as its own schema, and that
the order of entries, and order and repetition of kinds and types in them, make no difference to it.
-/

set_option autoImplicit false

namespace SequenceCheck

variable {D : Type}

/-! ## Lists by rank -/

/-- A list has the members of another one, each once, by increasing rank. -/
structure Arranged {α : Type} (rank : α → Nat) (given listed : List α) : Prop where
  mem_iff : ∀ a, a ∈ listed ↔ a ∈ given
  increasing : listed.Pairwise fun a b => rank a < rank b

/-- Lists by increasing rank that have the same members are equal. -/
theorem eq_of_increasing {α β : Type} [Preorder β] {rank : α → β} {as bs : List α}
    (increasing : as.Pairwise fun a b => rank a < rank b)
    (others : bs.Pairwise fun a b => rank a < rank b) (same : ∀ a, a ∈ as ↔ a ∈ bs) : as = bs := by
  have irrefl : Std.Irrefl fun a b => rank a < rank b := ⟨fun a => lt_irrefl (rank a)⟩
  have antisymm : Std.Antisymm fun a b => rank a < rank b :=
    ⟨fun _ _ less greater => absurd greater (lt_asymm less)⟩
  exact increasing.eq_of_mem_iff others same

/-- A list without repetition increases by the places in it. -/
theorem pairwise_idxOf {α : Type} [BEq α] [LawfulBEq α] {items : List α} (once : items.Nodup) :
    items.Pairwise fun a b => items.idxOf a < items.idxOf b := by
  rw [List.pairwise_iff_getElem]
  intro i j inRange inLater less
  rw [once.idxOf_getElem, once.idxOf_getElem]
  exact less

namespace Arranged

variable {α : Type} {rank : α → Nat} {given other listed : List α}

/-- There is one way to arrange the members of a list. -/
theorem eq (arranged : Arranged rank given listed) (again : Arranged rank given other) :
    listed = other :=
  eq_of_increasing arranged.increasing again.increasing fun a =>
    (arranged.mem_iff a).trans (again.mem_iff a).symm

/-- Lists with the same members are arranged alike. -/
theorem of_same (arranged : Arranged rank other listed) (same : ∀ a, a ∈ given ↔ a ∈ other) :
    Arranged rank given listed where
  mem_iff a := (arranged.mem_iff a).trans (same a).symm
  increasing := arranged.increasing

variable [BEq α] [LawfulBEq α]

/-- Picked out of a list of all there is, members are in its order. -/
theorem filter_contains {all : List α} (complete : ∀ a, a ∈ all) (once : all.Nodup) :
    Arranged all.idxOf given (all.filter given.contains) where
  mem_iff a := by
    rw [List.mem_filter, and_iff_right (complete a), List.contains_iff_mem]
  increasing := (pairwise_idxOf once).filter _

/-- Without its repetitions a list is in the order in which its members first came. -/
theorem eraseDups : Arranged given.idxOf given given.eraseDups where
  mem_iff _ := List.mem_eraseDups
  increasing := by
    induction given using List.reverseRecOn with
    | nil => exact .nil
    | append_singleton before last ih =>
      -- What came before keeps its place when one more item comes.
      have earlier : before.eraseDups.Pairwise fun a b =>
          (before ++ [last]).idxOf a < (before ++ [last]).idxOf b := by
        apply ih.imp_of_mem
        intro a b first second less
        rw [List.idxOf_append, if_pos (List.mem_eraseDups.1 first), List.idxOf_append,
          if_pos (List.mem_eraseDups.1 second)]
        exact less
      rw [List.eraseDups_append]
      by_cases known : last ∈ before
      · have none : [last].removeAll before = [] := by simp [List.removeAll, known]
        rw [none, List.eraseDups_nil, List.append_nil]
        exact earlier
      · have one : [last].removeAll before = [last] := by simp [List.removeAll, known]
        rw [one, List.eraseDups_cons, List.filter_nil, List.eraseDups_nil]
        refine List.pairwise_append.2 ⟨earlier, List.pairwise_singleton _ _, ?_⟩
        intro a first b second
        obtain rfl := List.mem_singleton.1 second
        have held := List.mem_eraseDups.1 first
        have place := List.idxOf_lt_length_of_mem held
        rw [List.idxOf_append, if_pos held, List.idxOf_append, if_neg known]
        omega

end Arranged

/-! ## Canonical forms -/

namespace LeafType

/-- The place of a type in `all`, counted from zero. -/
def index (type : LeafType) : Nat :=
  all.idxOf type

theorem nodup_all : all.Nodup := by
  decide

end LeafType

/-- An entry for a key says the same as another one, with kinds and types in order, none twice. -/
structure ArgSchema.CanonicalForm (arg form : ArgSchema) : Prop where
  name : form.name = arg.name
  kinds : Arranged Kind.index arg.kinds form.kinds
  types : Arranged LeafType.index arg.types form.types

/-- An entry for a kind says the same as another one, with keys in the order in which they first
came there and children in the order of kinds, none twice. -/
structure NodeSchema.CanonicalForm (node form : NodeSchema) : Prop where
  kind : form.kind = node.kind
  keys : Arranged node.keys.idxOf node.keys form.keys
  children : Arranged Kind.index node.children form.children

/-- A schema says the same as another one: its entries are the canonical forms of the other's,
those for keys by name and those for kinds in the order of kinds. -/
structure Schema.CanonicalForm (schema form : Schema) : Prop where
  args : form.args.Pairwise fun arg other => arg.name < other.name
  nodes : form.nodes.Pairwise fun node other => node.kind.index < other.kind.index
  formOfArg : ∀ arg ∈ schema.args, ∃ entry ∈ form.args, arg.CanonicalForm entry
  argOfForm : ∀ entry ∈ form.args, ∃ arg ∈ schema.args, arg.CanonicalForm entry
  formOfNode : ∀ node ∈ schema.nodes, ∃ entry ∈ form.nodes, node.CanonicalForm entry
  nodeOfForm : ∀ entry ∈ form.nodes, ∃ node ∈ schema.nodes, node.CanonicalForm entry

theorem ArgSchema.CanonicalForm.eq {arg form other : ArgSchema} (canonical : arg.CanonicalForm form)
    (again : arg.CanonicalForm other) : form = other := by
  rcases form with ⟨name, kinds, types⟩
  rcases other with ⟨otherName, otherKinds, otherTypes⟩
  rw [ArgSchema.mk.injEq]
  exact ⟨canonical.name.trans again.name.symm, canonical.kinds.eq again.kinds,
    canonical.types.eq again.types⟩

theorem NodeSchema.CanonicalForm.eq {node form other : NodeSchema}
    (canonical : node.CanonicalForm form) (again : node.CanonicalForm other) : form = other := by
  rcases form with ⟨kind, keys, children⟩
  rcases other with ⟨otherKind, otherKeys, otherChildren⟩
  rw [NodeSchema.mk.injEq]
  exact ⟨canonical.kind.trans again.kind.symm, canonical.keys.eq again.keys,
    canonical.children.eq again.children⟩

/-- A schema has one canonical form. -/
theorem Schema.CanonicalForm.eq {schema form other : Schema} (canonical : schema.CanonicalForm form)
    (again : schema.CanonicalForm other) : form = other := by
  -- An entry of one form comes from an entry of the schema, and that has an entry in the other.
  have args : ∀ {form other : Schema}, schema.CanonicalForm form → schema.CanonicalForm other →
      ∀ entry ∈ form.args, entry ∈ other.args := by
    intro form other canonical again entry mem
    obtain ⟨arg, given, here⟩ := canonical.argOfForm entry mem
    obtain ⟨twin, found, there⟩ := again.formOfArg arg given
    rw [here.eq there]
    exact found
  have nodes : ∀ {form other : Schema}, schema.CanonicalForm form → schema.CanonicalForm other →
      ∀ entry ∈ form.nodes, entry ∈ other.nodes := by
    intro form other canonical again entry mem
    obtain ⟨node, given, here⟩ := canonical.nodeOfForm entry mem
    obtain ⟨twin, found, there⟩ := again.formOfNode node given
    rw [here.eq there]
    exact found
  have sameArgs : form.args = other.args := eq_of_increasing canonical.args again.args fun entry =>
    ⟨args canonical again entry, args again canonical entry⟩
  have sameNodes : form.nodes = other.nodes :=
    eq_of_increasing canonical.nodes again.nodes fun entry =>
      ⟨nodes canonical again entry, nodes again canonical entry⟩
  rcases form with ⟨formArgs, formNodes⟩
  rcases other with ⟨otherArgs, otherNodes⟩
  exact congr (congrArg Schema.mk sameArgs) sameNodes

/-! ## Rearranged schemas -/

/-- Two entries for a key allow the same kinds and types. -/
structure ArgSchema.SameSets (arg other : ArgSchema) : Prop where
  name : arg.name = other.name
  kinds : ∀ kind, kind ∈ arg.kinds ↔ kind ∈ other.kinds
  types : ∀ type, type ∈ arg.types ↔ type ∈ other.types

/-- Two entries for a kind require the same keys, and allow the same children. -/
structure NodeSchema.SameSets (node other : NodeSchema) : Prop where
  kind : node.kind = other.kind
  keys : node.keys = other.keys
  children : ∀ kind, kind ∈ node.children ↔ kind ∈ other.children

/-- Two schemas differ in the order of their entries only, and in these in the order and repetition
of kinds and types. -/
structure Schema.Rearranged (schema other : Schema) : Prop where
  args : ∃ ordered, schema.args.Perm ordered ∧ List.Forall₂ ArgSchema.SameSets ordered other.args
  nodes : ∃ ordered, schema.nodes.Perm ordered ∧
    List.Forall₂ NodeSchema.SameSets ordered other.nodes

theorem ArgSchema.CanonicalForm.of_sameSets {arg other form : ArgSchema}
    (canonical : other.CanonicalForm form) (same : arg.SameSets other) :
    arg.CanonicalForm form where
  name := canonical.name.trans same.name.symm
  kinds := canonical.kinds.of_same same.kinds
  types := canonical.types.of_same same.types

theorem NodeSchema.CanonicalForm.of_sameSets {node other form : NodeSchema}
    (canonical : other.CanonicalForm form) (same : node.SameSets other) :
    node.CanonicalForm form where
  kind := canonical.kind.trans same.kind.symm
  keys := by
    rw [same.keys]
    exact canonical.keys
  children := canonical.children.of_same same.children

/-- Each item of a list has a related one in a list that is related to a reordering, and the other
way about. -/
theorem exists_of_perm_forall₂ {α β : Type} {R : α → β → Prop} {as ordered : List α} {bs : List β}
    (perm : as.Perm ordered) (related : List.Forall₂ R ordered bs) :
    (∀ a ∈ as, ∃ b ∈ bs, R a b) ∧ ∀ b ∈ bs, ∃ a ∈ as, R a b := by
  constructor
  · intro a mem
    exact exists_of_forall₂_mem related (perm.mem_iff.1 mem)
  · intro b mem
    obtain ⟨a, found, here⟩ := exists_of_forall₂_mem related.flip mem
    exact ⟨a, perm.mem_iff.2 found, here⟩

namespace Schema.Rearranged

variable {schema other form : Schema} (rearranged : schema.Rearranged other)

include rearranged

theorem exists_args : (∀ arg ∈ schema.args, ∃ twin ∈ other.args, arg.SameSets twin) ∧
    ∀ twin ∈ other.args, ∃ arg ∈ schema.args, arg.SameSets twin := by
  obtain ⟨ordered, perm, related⟩ := rearranged.args
  exact exists_of_perm_forall₂ perm related

theorem exists_nodes : (∀ node ∈ schema.nodes, ∃ twin ∈ other.nodes, node.SameSets twin) ∧
    ∀ twin ∈ other.nodes, ∃ node ∈ schema.nodes, node.SameSets twin := by
  obtain ⟨ordered, perm, related⟩ := rearranged.nodes
  exact exists_of_perm_forall₂ perm related

/-- What is defined once is defined once in another order. -/
theorem distinct (distinct : schema.Distinct) : other.Distinct where
  args := by
    obtain ⟨ordered, perm, related⟩ := rearranged.args
    rw [← map_eq_map_of_forall₂ related fun _ _ _ same => same.name]
    exact (perm.map _).nodup_iff.1 distinct.args
  nodes := by
    obtain ⟨ordered, perm, related⟩ := rearranged.nodes
    rw [← map_eq_map_of_forall₂ related fun _ _ _ same => same.kind]
    exact (perm.map _).nodup_iff.1 distinct.nodes

theorem declares {key : String} (declares : schema.Declares key) : other.Declares key := by
  obtain ⟨arg, mem, rfl⟩ := declares
  obtain ⟨twin, found, same⟩ := rearranged.exists_args.1 arg mem
  exact ⟨twin, found, same.name.symm⟩

/-- The canonical form of a rearranged schema is that of the schema. -/
theorem canonicalForm (canonical : other.CanonicalForm form) : schema.CanonicalForm form where
  args := canonical.args
  nodes := canonical.nodes
  formOfArg arg mem := by
    obtain ⟨twin, found, same⟩ := rearranged.exists_args.1 arg mem
    obtain ⟨entry, listed, here⟩ := canonical.formOfArg twin found
    exact ⟨entry, listed, here.of_sameSets same⟩
  argOfForm entry listed := by
    obtain ⟨twin, found, here⟩ := canonical.argOfForm entry listed
    obtain ⟨arg, mem, same⟩ := rearranged.exists_args.2 twin found
    exact ⟨arg, mem, here.of_sameSets same⟩
  formOfNode node mem := by
    obtain ⟨twin, found, same⟩ := rearranged.exists_nodes.1 node mem
    obtain ⟨entry, listed, here⟩ := canonical.formOfNode twin found
    exact ⟨entry, listed, here.of_sameSets same⟩
  nodeOfForm entry listed := by
    obtain ⟨twin, found, here⟩ := canonical.nodeOfForm entry listed
    obtain ⟨node, mem, same⟩ := rearranged.exists_nodes.2 twin found
    exact ⟨node, mem, here.of_sameSets same⟩

end Schema.Rearranged

/-! ## Loaded grammars -/

/-- The entry that is defined for a key says what the data says, in canonical form. -/
theorem ArgSchema.canonicalForm_entry (arg : ArgSchema) :
    arg.CanonicalForm (arg.entry : ArgEntry D).schema where
  name := rfl
  kinds := .filter_contains Kind.mem_all Kind.nodup_all
  types := .filter_contains LeafType.mem_all LeafType.nodup_all

/-- The entry that is defined for a kind says what the data says, in canonical form. -/
theorem NodeSchema.canonicalForm_entry (node : NodeSchema) :
    node.CanonicalForm (node.entry : NodeEntry D).schema where
  kind := rfl
  keys := .eraseDups
  children := .filter_contains Kind.mem_all Kind.nodup_all

namespace Grammar

variable {schema : Schema} {loaded : Grammar D}

theorem indexed_of_ofSchema (ok : ofSchema schema = .ok loaded) : loaded.Indexed :=
  ofSchema_induction indexed_empty (fun _ name kinds types indexed =>
    indexed.defineArg name kinds types) (fun _ kind keys children _ indexed =>
    indexed.defineNode kind keys children) ok

/-- The entries for keys of a schema come from those of the grammar, by name. -/
theorem pairwise_args_schema (indexed : loaded.Indexed) :
    loaded.schema.args.Pairwise fun arg other => arg.name < other.name := by
  have ordered := Std.TreeMap.ordered_keys (t := loaded.args)
  rw [← map_name_schema indexed, List.pairwise_map] at ordered
  exact ordered.imp fun less => compareOfLessAndEq_eq_lt.1 less

/-- The entries for kinds of a schema come from those of the grammar, in the order of kinds. -/
theorem pairwise_nodes_schema (indexed : loaded.Indexed) :
    loaded.schema.nodes.Pairwise fun node other => node.kind.index < other.kind.index := by
  have ordered : loaded.definedKinds.Pairwise fun kind other => kind.index < other.index :=
    (pairwise_idxOf Kind.nodup_all).filter _
  rw [← map_kind_schema indexed, List.pairwise_map] at ordered
  exact ordered

/-- A loaded grammar has the entries of the schema for keys. -/
theorem args_of_ofSchema (ok : ofSchema schema = .ok loaded) :
    (∀ arg ∈ schema.args, loaded.args[arg.name]? = some arg.entry) ∧
      ∀ (key : String) (entry : ArgEntry D), loaded.args[key]? = some entry →
        ∃ arg ∈ schema.args, entry = arg.entry := by
  obtain ⟨once, _, rfl⟩ := ofSchema_eq_ok_iff.1 ok
  rw [args_defineNodes]
  have found : ∀ arg ∈ schema.args,
      (empty.defineArgs schema.args : Grammar D).args[arg.name]? = some arg.entry :=
    fun _ mem => args_defineArgs_of_mem empty once mem
  refine ⟨found, ?_⟩
  intro key entry known
  obtain ⟨arg, mem, rfl⟩ := hasArg_defineArgs_schema.1 (hasArg_iff.2 ⟨entry, known⟩)
  exact ⟨arg, mem, Option.some.inj (known.symm.trans (found arg mem))⟩

/-- A loaded grammar has the entries of the schema for kinds. -/
theorem nodes_of_ofSchema (ok : ofSchema schema = .ok loaded) :
    (∀ node ∈ schema.nodes, loaded.nodes node.kind = some node.entry) ∧
      ∀ kind entry, loaded.nodes kind = some entry →
        ∃ node ∈ schema.nodes, entry = node.entry := by
  obtain ⟨_, fine, rfl⟩ := ofSchema_eq_ok_iff.1 ok
  have found : ∀ node ∈ schema.nodes,
      ((empty.defineArgs schema.args).defineNodes schema.nodes : Grammar D).nodes node.kind =
        some node.entry :=
    fun _ mem => nodes_defineNodes_of_mem _ fine.once mem
  refine ⟨found, ?_⟩
  intro kind entry known
  have defined := Option.isSome_of_eq_some known
  obtain ⟨node, mem, rfl⟩ :=
    List.mem_map.1 ((hasNode_defineNodes schema schema.nodes kind).1 defined)
  exact ⟨node, mem, Option.some.inj (known.symm.trans (found node mem))⟩

/-- The schema of a loaded grammar is the canonical form of the schema that it was loaded from. -/
theorem canonicalForm_of_ofSchema (ok : ofSchema schema = .ok loaded) :
    schema.CanonicalForm loaded.schema where
  args := pairwise_args_schema (indexed_of_ofSchema ok)
  nodes := pairwise_nodes_schema (indexed_of_ofSchema ok)
  formOfArg arg mem := by
    have known := (args_of_ofSchema ok).1 arg mem
    exact ⟨_, mem_args_schema_iff.2 ⟨_, _, known, rfl⟩, arg.canonicalForm_entry⟩
  argOfForm form listed := by
    obtain ⟨key, entry, known, rfl⟩ := mem_args_schema_iff.1 listed
    obtain ⟨arg, mem, rfl⟩ := (args_of_ofSchema ok).2 key entry known
    exact ⟨arg, mem, arg.canonicalForm_entry⟩
  formOfNode node mem := by
    have known := (nodes_of_ofSchema ok).1 node mem
    exact ⟨_, mem_nodes_schema_iff.2 ⟨_, _, known, rfl⟩, node.canonicalForm_entry⟩
  nodeOfForm form listed := by
    obtain ⟨kind, entry, known, rfl⟩ := mem_nodes_schema_iff.1 listed
    obtain ⟨node, mem, rfl⟩ := (nodes_of_ofSchema ok).2 kind entry known
    exact ⟨node, mem, node.canonicalForm_entry⟩

/-- A rearrangement of a schema that is loaded is loaded too, as a grammar of the same schema. -/
theorem ofSchema_of_rearranged {other : Schema} (rearranged : schema.Rearranged other)
    (ok : ofSchema schema = .ok loaded) :
    ∃ twin : Grammar D, ofSchema other = .ok twin ∧ twin.schema = loaded.schema := by
  obtain ⟨distinct, declared⟩ := exists_ofSchema_eq_ok_iff.1 ⟨loaded, ok⟩
  have loads : ∃ twin : Grammar D, ofSchema other = .ok twin := by
    apply exists_ofSchema_eq_ok_iff.2
    refine ⟨rearranged.distinct distinct, ?_⟩
    intro twin found key used
    obtain ⟨node, mem, same⟩ := rearranged.exists_nodes.2 twin found
    rw [← same.keys] at used
    exact rearranged.declares (declared node mem key used)
  obtain ⟨twin, okTwin⟩ := loads
  have canonical := rearranged.canonicalForm (canonicalForm_of_ofSchema okTwin)
  exact ⟨twin, okTwin, canonical.eq (canonicalForm_of_ofSchema ok)⟩

/-- A schema is loaded exactly if it repeats no key and no kind and declares every key that its
nodes use; otherwise its first offence is the error. The schema of a loaded grammar is the canonical
form of the schema it was loaded from, and a rearrangement of that schema is loaded as well, as a
grammar with the same schema. -/
theorem ofSchema_loads_canonically (schema : Schema) :
    ((∃ loaded : Grammar D, ofSchema schema = .ok loaded) ↔
      schema.Distinct ∧ ∀ node ∈ schema.nodes, ∀ key ∈ node.keys, schema.Declares key) ∧
    (∀ error, (ofSchema schema : Except SchemaError (Grammar D)) = .error error ↔
      schema.FirstOffence error) ∧
    ∀ loaded : Grammar D, ofSchema schema = .ok loaded →
      (∀ form, schema.CanonicalForm form ↔ form = loaded.schema) ∧
      ∀ other, schema.Rearranged other →
        ∃ twin : Grammar D, ofSchema other = .ok twin ∧ twin.schema = loaded.schema := by
  refine ⟨exists_ofSchema_eq_ok_iff, fun _ => ofSchema_eq_error_iff, ?_⟩
  intro loaded ok
  have canonical := canonicalForm_of_ofSchema ok
  refine ⟨fun form => ⟨fun other => other.eq canonical, ?_⟩,
    fun other rearranged => ofSchema_of_rearranged rearranged ok⟩
  rintro rfl
  exact canonical

/-! ## A schema that is loaded, and one that is not -/

/-- Pins are read by number and label; entries, kinds and keys are in no order, some twice. -/
def pinSchema : Schema where
  args := [⟨"pin_number", [.identifier, .namedPin, .identifier], [.integer]⟩,
    ⟨"label", [], [.string, .null]⟩]
  nodes := [⟨.readPin, ["pin_number", "label", "pin_number"], []⟩,
    ⟨.wait, [], [.readPin, .wait]⟩]

/-- The same with entries and kinds in another order. -/
def turnedPinSchema : Schema where
  args := [⟨"label", [], [.null, .string, .null]⟩,
    ⟨"pin_number", [.identifier, .namedPin], [.integer]⟩]
  nodes := [⟨.wait, [], [.wait, .readPin]⟩,
    ⟨.readPin, ["pin_number", "label", "pin_number"], []⟩]

/-- The same in canonical form. -/
def pinSchemaForm : Schema where
  args := [⟨"label", [], [.null, .string]⟩, ⟨"pin_number", [.namedPin, .identifier], [.integer]⟩]
  nodes := [⟨.wait, [], [.wait, .readPin]⟩, ⟨.readPin, ["pin_number", "label"], []⟩]

/-- Pins are read by number and label, and labels are not declared. -/
def labellessPinSchema : Schema where
  args := [⟨"pin_number", [], [.integer]⟩]
  nodes := [⟨.wait, [], []⟩, ⟨.readPin, ["pin_number", "label"], []⟩, ⟨.wait, ["speed"], []⟩]

theorem canonicalForm_pinSchema : pinSchema.CanonicalForm pinSchemaForm := by
  have number : ArgSchema.CanonicalForm
      ⟨"pin_number", [.identifier, .namedPin, .identifier], [.integer]⟩
      ⟨"pin_number", [.namedPin, .identifier], [.integer]⟩ :=
    ⟨rfl, ⟨by grind, by decide⟩, ⟨by grind, by decide⟩⟩
  have label : ArgSchema.CanonicalForm ⟨"label", [], [.string, .null]⟩
      ⟨"label", [], [.null, .string]⟩ :=
    ⟨rfl, ⟨by grind, by decide⟩, ⟨by grind, by decide⟩⟩
  have read : NodeSchema.CanonicalForm ⟨.readPin, ["pin_number", "label", "pin_number"], []⟩
      ⟨.readPin, ["pin_number", "label"], []⟩ :=
    ⟨rfl, ⟨by grind, by decide⟩, ⟨by grind, by decide⟩⟩
  have wait : NodeSchema.CanonicalForm ⟨.wait, [], [.readPin, .wait]⟩
      ⟨.wait, [], [.wait, .readPin]⟩ :=
    ⟨rfl, ⟨by grind, by decide⟩, ⟨by grind, by decide⟩⟩
  constructor
  case args => decide
  case nodes => decide
  all_goals simp [pinSchema, pinSchemaForm, number, label, read, wait]

theorem rearranged_pinSchema : pinSchema.Rearranged turnedPinSchema where
  args := by
    refine ⟨_, .swap _ _ _, .cons ⟨rfl, fun _ => Iff.rfl, ?_⟩
      (.cons ⟨rfl, ?_, fun _ => Iff.rfl⟩ .nil)⟩
    · grind
    · grind
  nodes := by
    refine ⟨_, .swap _ _ _, .cons ⟨rfl, rfl, ?_⟩ (.cons ⟨rfl, rfl, fun _ => Iff.rfl⟩ .nil)⟩
    grind

/-- The first two schemas are loaded and have the third as their canonical form; the label is the
error for the last one. -/
theorem ofSchema_pinSchema :
    (∃ loaded twin : Grammar Unit, ofSchema pinSchema = .ok loaded ∧
      ofSchema turnedPinSchema = .ok twin ∧ loaded.schema = pinSchemaForm ∧
      twin.schema = pinSchemaForm) ∧
    (ofSchema labellessPinSchema : Except SchemaError (Grammar Unit)) =
      .error (.undeclaredArg .readPin "label") := by
  constructor
  · obtain ⟨loads, _, canonical⟩ := ofSchema_loads_canonically (D := Unit) pinSchema
    have fine : pinSchema.Distinct ∧
        ∀ node ∈ pinSchema.nodes, ∀ key ∈ node.keys, pinSchema.Declares key :=
      ⟨⟨by decide, by decide⟩, by simp [pinSchema, Schema.Declares]⟩
    obtain ⟨loaded, ok⟩ := loads.2 fine
    obtain ⟨unique, turned⟩ := canonical loaded ok
    obtain ⟨twin, okTwin, same⟩ := turned turnedPinSchema rearranged_pinSchema
    have form := (unique pinSchemaForm).1 canonicalForm_pinSchema
    exact ⟨loaded, twin, ok, okTwin, form.symm, same.trans form.symm⟩
  · obtain ⟨_, fails, _⟩ := ofSchema_loads_canonically (D := Unit) labellessPinSchema
    rw [fails]
    -- The label comes before the second entry for a kind that is already defined.
    have wait : labellessPinSchema.Admits [⟨.wait, [], []⟩] := ⟨by decide, by simp⟩
    have number : ∀ used ∈ ["pin_number"], labellessPinSchema.Declares used := by
      simp [Schema.Declares, labellessPinSchema]
    have label : ¬ labellessPinSchema.Declares "label" := by
      simp [Schema.Declares, labellessPinSchema]
    have once : (labellessPinSchema.args.map ArgSchema.name).Nodup := by decide
    have new : Kind.readPin ∉ [NodeSchema.mk .wait [] []].map NodeSchema.kind := by decide
    exact .undeclaredArg once rfl wait new rfl number label

end Grammar

end SequenceCheck
