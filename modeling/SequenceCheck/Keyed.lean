/-!
# Lists of keyed values

A list of pairs serves as a map that remembers the order in which its keys came. `put` replaces the
value of a key where it stands and appends a new key at the end, `collect` does so with all entries
of a list, `drop` takes a key out, and `List.lookup` reads. A list built by these has each key once
(`nodup_keys_put`, `nodup_keys_collect`, `nodup_keys_drop`), and a value is found by its key
(`lookup_of_mem`, `lookup_put`, `lookup_drop`).
-/

set_option autoImplicit false

namespace SequenceCheck.Keyed

variable {α : Type}

/-- The keys, in order. -/
def keys (entries : List (String × α)) : List String :=
  entries.map Prod.fst

/-- Give a key a value: in its place if it is there, at the end otherwise. -/
def put (key : String) (value : α) : List (String × α) → List (String × α)
  | [] => [(key, value)]
  | entry :: rest =>
    if entry.1 = key then (key, value) :: rest else entry :: put key value rest

/-- The entries with each key once: if a key comes again, its last value counts, in the first
place. -/
def collect (entries : List (String × α)) : List (String × α) :=
  entries.foldl (fun done entry => put entry.1 entry.2 done) []

/-- Take out a key. -/
def drop (key : String) (entries : List (String × α)) : List (String × α) :=
  entries.filter fun entry => entry.1 ≠ key

@[simp]
theorem keys_nil : keys ([] : List (String × α)) = [] :=
  rfl

@[simp]
theorem keys_cons (entry : String × α) (rest : List (String × α)) :
    keys (entry :: rest) = entry.1 :: keys rest :=
  rfl

/-- A new key goes to the end. -/
theorem put_of_not_mem {key : String} {value : α} :
    ∀ {entries : List (String × α)}, key ∉ keys entries →
      put key value entries = entries ++ [(key, value)]
  | [], _ => rfl
  | entry :: rest, absent => by
    rw [keys_cons, List.mem_cons, not_or] at absent
    rw [put, if_neg (Ne.symm absent.1), put_of_not_mem absent.2, List.cons_append]

/-- A key that is there keeps its place. -/
theorem keys_put_of_mem {key : String} {value : α} :
    ∀ {entries : List (String × α)}, key ∈ keys entries →
      keys (put key value entries) = keys entries
  | entry :: rest, present => by
    by_cases here : entry.1 = key
    · simp [put, here]
    · rw [keys_cons, List.mem_cons] at present
      have later := present.resolve_left (Ne.symm here)
      simp [put, here, keys_put_of_mem later]

/-- A list has no entries after a value was given to a key but that one and those it had. -/
theorem mem_of_mem_put {key : String} {value : α} {entry : String × α} :
    ∀ {entries : List (String × α)}, entry ∈ put key value entries →
      entry = (key, value) ∨ entry ∈ entries
  | [], mem => .inl (List.mem_singleton.1 mem)
  | first :: rest, mem => by
    by_cases here : first.1 = key
    · rw [put, if_pos here] at mem
      exact (List.mem_cons.1 mem).imp_right (List.mem_cons_of_mem first)
    · rw [put, if_neg here] at mem
      rcases List.mem_cons.1 mem with rfl | later
      · exact .inr List.mem_cons_self
      · exact (mem_of_mem_put later).imp_right (List.mem_cons_of_mem first)

/-- Giving a value to a key makes no key come twice. -/
theorem nodup_keys_put {key : String} {value : α} {entries : List (String × α)}
    (nodup : (keys entries).Nodup) : (keys (put key value entries)).Nodup := by
  by_cases present : key ∈ keys entries
  · rw [keys_put_of_mem present]
    exact nodup
  · rw [put_of_not_mem present]
    simp only [keys, List.map_append, List.map_cons, List.map_nil] at present ⊢
    refine List.nodup_append.2 ⟨nodup, by simp, fun a ha b hb => ?_⟩
    rintro rfl
    rw [List.mem_singleton.1 hb] at ha
    exact present ha

/-- No key comes twice among entries that are collected. -/
theorem nodup_keys_collect (entries : List (String × α)) : (keys (collect entries)).Nodup :=
  List.foldlRecOn (motive := fun done => (keys done).Nodup) entries _ List.nodup_nil
    fun _ nodup _ _ => nodup_keys_put nodup

/-- Entries that are collected are entries of the list. -/
theorem mem_of_mem_collect {entry : String × α} {entries : List (String × α)}
    (mem : entry ∈ collect entries) : entry ∈ entries := by
  refine List.foldlRecOn (motive := fun done => ∀ entry ∈ done, entry ∈ entries) entries _
    (List.forall_mem_nil _) (fun done inList next inEntries entry mem => ?_) entry mem
  rcases mem_of_mem_put mem with rfl | before
  · exact inEntries
  · exact inList entry before

/-- Entries whose keys are new, each of them once, go to the end. -/
theorem foldl_put_of_nodup : ∀ {done entries : List (String × α)},
    (keys (done ++ entries)).Nodup →
      entries.foldl (fun done entry => put entry.1 entry.2 done) done = done ++ entries
  | done, [], _ => by rw [List.foldl_nil, List.append_nil]
  | done, entry :: rest, nodup => by
    have absent : entry.1 ∉ keys done := by
      intro mem
      rw [keys, List.map_append, List.nodup_append] at nodup
      exact nodup.2.2 _ mem _ List.mem_cons_self rfl
    have joined : done ++ entry :: rest = done ++ [entry] ++ rest := by
      rw [List.append_assoc, List.singleton_append]
    rw [joined] at nodup ⊢
    rw [List.foldl_cons, put_of_not_mem absent]
    exact foldl_put_of_nodup nodup

/-- Where no key comes twice there is nothing to collect. -/
theorem collect_of_nodup {entries : List (String × α)} (nodup : (keys entries).Nodup) :
    collect entries = entries :=
  foldl_put_of_nodup nodup

/-- Taking out a key makes no key come twice. -/
theorem nodup_keys_drop {key : String} {entries : List (String × α)}
    (nodup : (keys entries).Nodup) : (keys (drop key entries)).Nodup :=
  List.Sublist.nodup (List.Sublist.map _ List.filter_sublist) nodup

/-- Where no key comes twice, each entry is found by its key. -/
theorem lookup_of_mem {key : String} {value : α} :
    ∀ {entries : List (String × α)}, (keys entries).Nodup → (key, value) ∈ entries →
      entries.lookup key = some value
  | (k, v) :: rest, nodup, mem => by
    obtain ⟨absent, later⟩ := List.nodup_cons.1 nodup
    rcases List.mem_cons.1 mem with same | inRest
    · cases same
      simp
    · have there : key ∈ keys rest := List.mem_map.2 ⟨_, inRest, rfl⟩
      have differs : (key == k) = false := beq_false_of_ne fun same => absent (same ▸ there)
      simp only [List.lookup_cons, differs]
      exact lookup_of_mem later inRest

/-- A key under which a value is found is there. -/
theorem mem_keys_of_lookup {key : String} {value : α} {entries : List (String × α)}
    (found : entries.lookup key = some value) : key ∈ keys entries := by
  obtain ⟨before, after, rfl, -⟩ := List.lookup_eq_some_iff.1 found
  exact List.mem_map.2 ⟨_, List.mem_append_right before List.mem_cons_self, rfl⟩

/-- A key has the value given to it last, and all others have theirs. -/
theorem lookup_put (key : String) (value : α) (other : String) :
    ∀ entries : List (String × α),
      (put key value entries).lookup other =
        if other = key then some value else entries.lookup other
  | [] => by
    by_cases h : other = key
    · simp [put, h]
    · have : (other == key) = false := by simpa using h
      simp [put, h, List.lookup_cons, this]
  | (k, v) :: rest => by
    by_cases here : k = key
    · by_cases h : other = key
      · simp [put, here, h]
      · have : (other == key) = false := by simpa using h
        simp [put, List.lookup_cons, here, h, this]
    · rw [put, if_neg here, List.lookup_cons, List.lookup_cons, lookup_put key value other rest]
      by_cases same : other = k
      · subst same
        simp [here]
      · have : (other == k) = false := by simpa using same
        simp [this]

/-- A key that was taken out has no value, and all others have theirs. -/
theorem lookup_drop (key other : String) :
    ∀ entries : List (String × α),
      (drop key entries).lookup other = if other = key then none else entries.lookup other
  | [] => by by_cases h : other = key <;> simp [drop]
  | (k, v) :: rest => by
    have ih := lookup_drop key other rest
    unfold drop at ih ⊢
    by_cases here : k = key
    · subst here
      rw [List.filter_cons_of_neg (by simp), ih]
      by_cases h : other = k
      · simp [h]
      · have : (other == k) = false := by simpa using h
        simp [h, List.lookup_cons, this]
    · rw [List.filter_cons_of_pos (by simpa using here), List.lookup_cons, List.lookup_cons, ih]
      by_cases same : other = k
      · subst same
        simp [here]
      · have : (other == k) = false := by simpa using same
        simp [this]

end SequenceCheck.Keyed
