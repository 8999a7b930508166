import SequenceCheck.Proofs.Json.Objects
import SequenceCheck.Proofs.Outline.Grammar

/-!
# What a document must satisfy

A document is read as a sequence if it meets a list of demands, which its form determines: the
document is an object, a node has a kind, arguments are an object, a body is an array, and its
entries are objects. `demands json` lists them in written order, each with its place. The demands of
a node are those on its kind, on its field `args`, on each argument that names a kind, on its field
`body` and on each entry of the body.

`demand.Violated e` says that a demand is not met, with the error that blames it.

Main statement: a document is rejected with the error of the first demand that it does not meet
(`ofJson_eq_error_iff`).
-/

set_option autoImplicit false

namespace SequenceCheck.Outline

/-! ## Demands -/

/-- What is demanded of a document at a place. -/
inductive Demand where
  /-- The document is an object. -/
  | document (json : Json)
  /-- The fields of a node have a kind. -/
  | kind (path : Path) (fields : List (String × Json))
  /-- The arguments of a node, if it has any, are an object. -/
  | args (path : Path) (fields : List (String × Json))
  /-- The body of a node, if it has one, is an array. -/
  | body (path : Path) (fields : List (String × Json))
  /-- The entry of a body is an object. -/
  | entry (path : Path) (item : Json)

/-- A demand is not met, and an error blames it. -/
inductive Demand.Violated [Json.Format] : Demand → DecodeError → Prop
  | notANode {json : Json} : json.isObject = false → Violated (.document json) (.notANode [])
  | noKind {path : Path} {fields : List (String × Json)} :
    fields.lookup "kind" = none → Violated (.kind path fields) (.missingKind path)
  | nullKind {path : Path} {fields : List (String × Json)} :
    fields.lookup "kind" = some .null → Violated (.kind path fields) (.missingKind path)
  | unknownName {path : Path} {fields : List (String × Json)} {name : String} :
    fields.lookup "kind" = some (.string name) → (∀ kind : Kind, kind.name ≠ name) →
    Violated (.kind path fields) (.unknownKind name)
  | otherKind {path : Path} {fields : List (String × Json)} {other : Json} :
    fields.lookup "kind" = some other → other ≠ .null → (∀ name, other ≠ .string name) →
    Violated (.kind path fields) (.unknownKind other.text)
  | badArgs {path : Path} {fields : List (String × Json)} {other : Json} :
    fields.lookup "args" = some other → other ≠ .null → other.isObject = false →
    Violated (.args path fields) (.badArgs path)
  | badBody {path : Path} {fields : List (String × Json)} {other : Json} :
    fields.lookup "body" = some other → other ≠ .null → (∀ items, other ≠ .array items) →
    Violated (.body path fields) (.badBody path)
  | badEntry {path : Path} {item : Json} :
    item.isObject = false → Violated (.entry path item) (.badBody path)

/-- The fields that stand under `args`, if an object does. -/
def argEntries (fields : List (String × Json)) : List (String × Json) :=
  match fields.lookup "args" with
  | some (.object entries) => entries
  | _ => []

/-- The items that stand under `body`, if an array does. -/
def bodyItems (fields : List (String × Json)) : List Json :=
  match fields.lookup "body" with
  | some (.array items) => items
  | _ => []

theorem lookup_args_of_mem {fields : List (String × Json)} {entry : String × Json}
    (mem : entry ∈ argEntries fields) :
    fields.lookup "args" = some (.object (argEntries fields)) := by
  rw [argEntries] at mem ⊢
  split at mem
  · assumption
  · exact absurd mem List.not_mem_nil

theorem lookup_body_of_mem {fields : List (String × Json)} {item : Json}
    (mem : item ∈ bodyItems fields) :
    fields.lookup "body" = some (.array (bodyItems fields)) := by
  rw [bodyItems] at mem ⊢
  split at mem
  · assumption
  · exact absurd mem List.not_mem_nil

/-- The demands on a value that stands at a place, in written order. -/
def demandsAt (path : Path) : Json → List Demand
  | .object fields =>
    .kind path fields :: .args path fields ::
      ((argEntries fields).attach.flatMap fun ⟨entry, _mem⟩ =>
        if entry.2.NamesKind then demandsAt (path ++ [.arg entry.1]) entry.2 else []) ++
      .body path fields ::
      ((bodyItems fields).zipIdx.attach.flatMap fun ⟨item, _mem⟩ =>
        .entry (path ++ [.child item.2]) item.1 ::
          demandsAt (path ++ [.child item.2]) item.1)
  | _ => []
termination_by json => sizeOf json
decreasing_by
  · exact Json.sizeOf_lt_of_mem_object (lookup_args_of_mem _mem) _mem
  · have inBody := List.fst_mem_of_mem_zipIdx _mem
    exact Json.sizeOf_lt_of_mem_array (lookup_body_of_mem inBody) inBody

theorem demandsAt_object (path : Path) (fields : List (String × Json)) :
    demandsAt path (.object fields) =
      .kind path fields :: .args path fields ::
        ((argEntries fields).flatMap fun entry =>
          if entry.2.NamesKind then demandsAt (path ++ [.arg entry.1]) entry.2 else []) ++
        .body path fields ::
        ((bodyItems fields).zipIdx.flatMap fun item =>
          .entry (path ++ [.child item.2]) item.1 ::
            demandsAt (path ++ [.child item.2]) item.1) := by
  rw [demandsAt]
  simp only [List.flatMap_subtype, List.unattach_attach]

/-- The demands on a document, in written order. -/
def demands (json : Json) : List Demand :=
  .document json :: demandsAt [] json

/-! ## The error of a demand -/

/-- The error of a reading that ended with one. -/
def errorOf {ε α : Type} : Except ε α → Option ε
  | .ok _ => none
  | .error e => some e

section ErrorOf

variable {ε α β : Type}

theorem errorOf_eq_some_iff {result : Except ε α} {e : ε} :
    errorOf result = some e ↔ result = .error e := by
  cases result <;> simp [errorOf]

theorem errorOf_map (f : α → β) (result : Except ε α) :
    errorOf (result.map f) = errorOf result := by
  cases result <;> rfl

theorem errorOf_bind_ok (first : Except ε α) (f : α → β) :
    errorOf (first >>= fun a => .ok (f a)) = errorOf first := by
  cases first <;> rfl

/-- A reading in steps ends with the error of the first step, or else with that of the next, if this
does not depend on what was read first. -/
theorem errorOf_bind {first : Except ε α} {next : α → Except ε β} {later : Option ε}
    (each : ∀ a, errorOf (next a) = later) :
    errorOf (first >>= next) = (errorOf first).or later := by
  cases first with
  | ok a => exact each a
  | error e => rfl

end ErrorOf

theorem findSome?_cons_eq_or {α β : Type} (f : α → Option β) (a : α) (rest : List α) :
    (a :: rest).findSome? f = (f a).or (rest.findSome? f) := by
  rw [List.findSome?_cons]
  cases f a <;> rfl

variable [Json.Format]

/-- The error that blames a demand, unless it is met. -/
def Demand.fault? : Demand → Option DecodeError
  | .document json => if json.isObject then none else some (.notANode [])
  | .kind path fields => errorOf (decodeKind path fields)
  | .args path fields =>
    match fields.lookup "args" with
    | none | some .null | some (.object _) => none
    | some _ => some (.badArgs path)
  | .body path fields =>
    match fields.lookup "body" with
    | none | some .null | some (.array _) => none
    | some _ => some (.badBody path)
  | .entry path item => if item.isObject then none else some (.badBody path)

theorem errorOf_decodeKind_iff {path : Path} {fields : List (String × Json)} {e : DecodeError} :
    errorOf (decodeKind path fields) = some e ↔ Demand.Violated (.kind path fields) e := by
  rw [errorOf_eq_some_iff]
  constructor
  · intro rejected
    rw [decodeKind] at rejected
    split at rejected
    · rename_i found
      cases rejected
      exact .noKind found
    · rename_i found
      cases rejected
      exact .nullKind found
    · rename_i name found
      cases named : Kind.ofName? name with
      | some kind =>
        rw [named] at rejected
        cases rejected
      | none =>
        rw [named] at rejected
        cases rejected
        refine .unknownName found ?_
        rintro kind rfl
        rw [Kind.ofName?_name] at named
        cases named
    · rename_i other notNull notString found
      cases rejected
      exact .otherKind found notNull notString
  · intro violated
    rw [decodeKind]
    cases violated with
    | noKind found => rw [found]
    | nullKind found => rw [found]
    | @unknownName _ _ name found unnamed =>
      rw [found]
      cases named : Kind.ofName? name with
      | some kind => exact absurd (Kind.name_of_ofName?_eq_some named) (unnamed kind)
      | none => simp only [named]
    | @otherKind _ _ other found notNull notString =>
      rw [found]
      cases other with
      | null => exact absurd rfl notNull
      | string name => exact absurd rfl (notString name)
      | _ => rfl

theorem Demand.fault?_args_iff {path : Path} {fields : List (String × Json)} {e : DecodeError} :
    (Demand.args path fields).fault? = some e ↔ Demand.Violated (.args path fields) e := by
  rw [fault?]
  constructor
  · intro blamed
    split at blamed
    · cases blamed
    · cases blamed
    · cases blamed
    · rename_i other notNull notObject found
      cases blamed
      refine .badArgs found notNull ?_
      cases other with
      | object entries => exact absurd rfl (notObject entries)
      | _ => rfl
  · intro violated
    cases violated with
    | @badArgs _ _ other found notNull notObject =>
      rw [found]
      cases other with
      | null => exact absurd rfl notNull
      | object entries => cases notObject
      | _ => rfl

theorem Demand.fault?_body_iff {path : Path} {fields : List (String × Json)} {e : DecodeError} :
    (Demand.body path fields).fault? = some e ↔ Demand.Violated (.body path fields) e := by
  rw [fault?]
  constructor
  · intro blamed
    split at blamed
    · cases blamed
    · cases blamed
    · cases blamed
    · rename_i other notNull notArray found
      cases blamed
      exact .badBody found notNull notArray
  · intro violated
    cases violated with
    | @badBody _ _ other found notNull notArray =>
      rw [found]
      cases other with
      | null => exact absurd rfl notNull
      | array items => exact absurd rfl (notArray items)
      | _ => rfl

/-- The error that is found is the one that blames the demand. -/
theorem Demand.fault?_eq_some_iff {demand : Demand} {e : DecodeError} :
    demand.fault? = some e ↔ demand.Violated e := by
  cases demand with
  | document json =>
    rw [fault?, Option.ite_none_left_eq_some, Bool.not_eq_true, Option.some_inj]
    constructor
    · rintro ⟨noObject, rfl⟩
      exact .notANode noObject
    · intro violated
      cases violated with
      | notANode noObject => exact ⟨noObject, rfl⟩
  | kind path fields => exact errorOf_decodeKind_iff
  | args path fields => exact fault?_args_iff
  | body path fields => exact fault?_body_iff
  | entry path item =>
    rw [fault?, Option.ite_none_left_eq_some, Bool.not_eq_true, Option.some_inj]
    constructor
    · rintro ⟨noObject, rfl⟩
      exact .badEntry noObject
    · intro violated
      cases violated with
      | badEntry noObject => exact ⟨noObject, rfl⟩

/-- No error is found if none blames the demand. -/
theorem Demand.fault?_eq_none_iff {demand : Demand} :
    demand.fault? = none ↔ ∀ e, ¬ demand.Violated e := by
  rw [Option.eq_none_iff_forall_ne_some]
  exact forall_congr' fun e => not_congr fault?_eq_some_iff

/-! ## Reading -/

/-- An argument is read without an error, unless it names a kind and cannot be read as a node. -/
theorem errorOf_decodeArg (path : Path) (key : String) (value : Json) :
    errorOf (decodeArg path key value) =
      if value.NamesKind then errorOf (decode (path ++ [.arg key]) value) else none := by
  rw [decodeArg]
  by_cases names : value.NamesKind
  · rw [if_pos names, if_pos (namesKind_iff.2 names)]
    cases names with
    | object _ _ => exact errorOf_map _ _
  · rw [if_neg names, if_neg (mt namesKind_iff.1 names)]
    cases Value.ofJson? value <;> rfl

/-- An entry of a body is read without an error if it is an object that can be read as a node. -/
theorem errorOf_decodeChild (path : Path) (index : Nat) (item : Json) :
    errorOf (decodeChild path index item) =
      if item.isObject then errorOf (decode (path ++ [.child index]) item)
      else some (.badBody (path ++ [.child index])) := by
  rw [decodeChild]
  cases item.isObject <;> rfl

/-- Reading a value, wherever it stands, ends with the error of the first demand that is not met. -/
def FirstFaultFound (json : Json) : Prop :=
  ∀ path, errorOf (decode path json) = (demandsAt path json).findSome? Demand.fault?

theorem errorOf_decodeArgs {path : Path} {entries : List (String × Json)}
    (each : ∀ entry ∈ entries, entry.2.NamesKind → FirstFaultFound entry.2) :
    errorOf (decodeArgs path entries) =
      (entries.flatMap fun entry =>
        if entry.2.NamesKind then demandsAt (path ++ [.arg entry.1]) entry.2
        else []).findSome? Demand.fault? := by
  induction entries with
  | nil =>
    rw [decodeArgs]
    rfl
  | cons entry rest ih =>
    rcases entry with ⟨key, value⟩
    have later := ih fun other mem => each other (List.mem_cons_of_mem _ mem)
    have first : errorOf (decodeArg path key value) =
        (if value.NamesKind then demandsAt (path ++ [.arg key]) value
          else []).findSome? Demand.fault? := by
      rw [errorOf_decodeArg]
      by_cases names : value.NamesKind
      · rw [if_pos names, if_pos names]
        exact each _ List.mem_cons_self names _
      · rw [if_neg names, if_neg names]
        rfl
    rw [decodeArgs_cons, List.flatMap_cons, List.findSome?_append, ← first, ← later]
    exact errorOf_bind fun arg => errorOf_bind_ok _ _

theorem errorOf_decodeBody {path : Path} {index : Nat} {items : List Json}
    (each : ∀ item ∈ items, item.isObject = true → FirstFaultFound item) :
    errorOf (decodeBody path index items) =
      ((items.zipIdx index).flatMap fun item =>
        .entry (path ++ [.child item.2]) item.1 ::
          demandsAt (path ++ [.child item.2]) item.1).findSome? Demand.fault? := by
  induction items generalizing index with
  | nil =>
    rw [decodeBody]
    rfl
  | cons item rest ih =>
    have later := @ih (index + 1) fun other mem => each other (List.mem_cons_of_mem _ mem)
    have first : errorOf (decodeChild path index item) =
        (Demand.entry (path ++ [.child index]) item ::
          demandsAt (path ++ [.child index]) item).findSome? Demand.fault? := by
      rw [errorOf_decodeChild, List.findSome?_cons, Demand.fault?]
      cases object : item.isObject with
      | true => exact each _ List.mem_cons_self object _
      | false => rfl
    rw [decodeBody_cons, List.zipIdx_cons, List.flatMap_cons, List.findSome?_append, ← first,
      ← later]
    exact errorOf_bind fun child => errorOf_bind_ok _ _

theorem errorOf_decodeArgsField {path : Path} {fields : List (String × Json)}
    (each : ∀ entry ∈ argEntries fields, entry.2.NamesKind → FirstFaultFound entry.2) :
    errorOf (decodeArgsField path fields) =
      (Demand.args path fields :: (argEntries fields).flatMap fun entry =>
        if entry.2.NamesKind then demandsAt (path ++ [.arg entry.1]) entry.2
        else []).findSome? Demand.fault? := by
  rw [decodeArgsField_eq, List.findSome?_cons, Demand.fault?]
  rw [argEntries] at each ⊢
  -- Only an object under `args` has entries; anything else is judged by the demand on the field.
  cases found : fields.lookup "args" with
  | none => rfl
  | some value =>
    rw [found] at each
    cases value with
    | object entries => exact errorOf_decodeArgs each
    | _ => rfl

theorem errorOf_decodeBodyField {path : Path} {fields : List (String × Json)}
    (each : ∀ item ∈ bodyItems fields, item.isObject = true → FirstFaultFound item) :
    errorOf (decodeBodyField path fields) =
      (Demand.body path fields :: (bodyItems fields).zipIdx.flatMap fun item =>
        .entry (path ++ [.child item.2]) item.1 ::
          demandsAt (path ++ [.child item.2]) item.1).findSome? Demand.fault? := by
  rw [decodeBodyField_eq, List.findSome?_cons, Demand.fault?]
  rw [bodyItems] at each ⊢
  cases found : fields.lookup "body" with
  | none => rfl
  | some value =>
    rw [found] at each
    cases value with
    | array items => exact errorOf_decodeBody each
    | _ => rfl

/-- Reading an object ends with the error of the first demand on it that is not met. -/
theorem firstFaultFound_of_isObject (json : Json) :
    json.isObject = true → FirstFaultFound json := by
  induction json using Json.induct_parts with
  | object fields inArgs inBody =>
    intro _ path
    have args : errorOf (decodeArgsField path fields) = _ :=
      errorOf_decodeArgsField fun entry mem names =>
        inArgs _ (lookup_args_of_mem mem) entry mem names.isObject
    have body : errorOf (decodeBodyField path fields) = _ :=
      errorOf_decodeBodyField fun item mem => inBody _ (lookup_body_of_mem mem) item mem
    rw [decode, demandsAt_object, List.findSome?_append, ← body, findSome?_cons_eq_or, ← args,
      Option.or_assoc]
    exact errorOf_bind fun kind => errorOf_bind fun args => errorOf_bind_ok _ _
  | other json noObject =>
    intro object
    rw [noObject] at object
    cases object

/-- Reading a document ends with the error of the first demand that is not met. -/
theorem errorOf_ofJson (json : Json) :
    errorOf (ofJson json) = (demands json).findSome? Demand.fault? := by
  rw [ofJson, demands, List.findSome?_cons, Demand.fault?]
  cases object : json.isObject with
  | true => exact firstFaultFound_of_isObject json object []
  | false =>
    cases json with
    | object fields => cases object
    | _ => rfl

/-- A document is rejected with the error of the first demand that it does not meet. -/
theorem ofJson_eq_error_iff {json : Json} {e : DecodeError} :
    ofJson json = .error e ↔
      ∃ before demand after, demands json = before ++ demand :: after ∧
        (∀ earlier ∈ before, ∀ other, ¬ earlier.Violated other) ∧ demand.Violated e := by
  rw [← errorOf_eq_some_iff, errorOf_ofJson, List.findSome?_eq_some_iff]
  simp only [Demand.fault?_eq_some_iff, Demand.fault?_eq_none_iff]
  constructor
  · rintro ⟨before, demand, after, split, violated, met⟩
    exact ⟨before, demand, after, split, met, violated⟩
  · rintro ⟨before, demand, after, split, met, violated⟩
    exact ⟨before, demand, after, split, violated, met⟩

end SequenceCheck.Outline
