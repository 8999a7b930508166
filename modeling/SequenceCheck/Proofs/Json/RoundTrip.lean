import SequenceCheck.Json.Standard
import SequenceCheck.Proofs.Json.Assembly
import SequenceCheck.Proofs.Json.Numerals
import SequenceCheck.Proofs.Json.Objects
import SequenceCheck.Proofs.Json.Strings
import SequenceCheck.Proofs.RelatedLists

/-!
# JSON values read back from their text

`json.written` is the document that a value is written as: its tokens are read from the text of the
value (`reads_write`), and it has the value (`json?_written`).

Main statements: a value without repeated keys is read back from its text exactly if its nesting is
within the limit (`ofTextWithin?_compact`), and what is read has no repeated keys and is within the
limit (`keysDistinct_and_allows_of_ofTextWithin?`); so the standard format is lawful
(`lawful_standardFormat`).
-/

set_option autoImplicit false

namespace SequenceCheck.Json

/-! ## The document of a value -/

mutual

/-- The document that a value is written as. -/
def written : Json → Written
  | .null => .null
  | .boolean value => .boolean value
  | .number value => .numeral value.numeral
  | .string value => .string (some value)
  | .array items => .array (writtenItems items)
  | .object fields => .object (writtenFields fields)

/-- The documents that the items of an array are written as. -/
def writtenItems : List Json → List Written
  | [] => []
  | item :: items => item.written :: writtenItems items

/-- The keys and documents that the fields of an object are written as. -/
def writtenFields : List (String × Json) → List (Option String × Written)
  | [] => []
  | (key, value) :: fields => (some key, value.written) :: writtenFields fields

end

mutual

/-- A value and its document are nested alike. -/
theorem nesting_written : ∀ json : Json, json.written.nesting = json.nesting
  | .null => by rw [written, Written.nesting, nesting]
  | .boolean value => by rw [written, Written.nesting, nesting]
  | .number value => by rw [written, Written.nesting, nesting]
  | .string value => by rw [written, Written.nesting, nesting]
  | .array items => by rw [written, Written.nesting, nesting, nestingItems_writtenItems]
  | .object fields => by rw [written, Written.nesting, nesting, nestingFields_writtenFields]

theorem nestingItems_writtenItems : ∀ items : List Json,
    Written.nestingItems (writtenItems items) = nestingItems items
  | [] => by rw [writtenItems, Written.nestingItems, nestingItems]
  | item :: items => by
    rw [writtenItems, Written.nestingItems, nestingItems, nesting_written,
      nestingItems_writtenItems]

theorem nestingFields_writtenFields : ∀ fields : List (String × Json),
    Written.nestingFields (writtenFields fields) = nestingFields fields
  | [] => by rw [writtenFields, Written.nestingFields, nestingFields]
  | (key, value) :: fields => by
    rw [writtenFields, Written.nestingFields, nestingFields, nesting_written,
      nestingFields_writtenFields]

end

mutual

/-- The document of a value without repeated keys has the value. -/
theorem json?_written : ∀ json : Json, json.KeysDistinct → json.written.json? = some json
  | .null, _ => by rw [written, Written.json?]
  | .boolean value, _ => by rw [written, Written.json?]
  | .number value, _ => by rw [written, Written.json?, value.number?_numeral, Option.map_some]
  | .string value, _ => by rw [written, Written.json?, Option.map_some]
  | .array items, distinct => by
    rw [KeysDistinct] at distinct
    rw [written, Written.json?, jsonItems?_writtenItems items distinct, Option.map_some]
  | .object fields, distinct => by
    rw [KeysDistinct] at distinct
    rw [written, Written.json?, jsonFields?_writtenFields fields [] distinct.1 distinct.2,
      Option.map_some, List.nil_append]

theorem jsonItems?_writtenItems : ∀ items : List Json, KeysDistinctItems items →
    Written.jsonItems? (writtenItems items) = some items
  | [], _ => by rw [writtenItems, Written.jsonItems?]
  | item :: items, distinct => by
    rw [KeysDistinctItems] at distinct
    rw [writtenItems, Written.jsonItems?, json?_written item distinct.1,
      jsonItems?_writtenItems items distinct.2]
    rfl

theorem jsonFields?_writtenFields : ∀ (fields done : List (String × Json)),
    (Keyed.keys (done ++ fields)).Nodup → KeysDistinctFields fields →
      Written.jsonFields? done (writtenFields fields) = some (done ++ fields)
  | [], done, _, _ => by rw [writtenFields, Written.jsonFields?, List.append_nil]
  | (key, value) :: fields, done, nodup, distinct => by
    rw [KeysDistinctFields] at distinct
    -- The key is none of those before it, so the field goes to the end.
    have absent : key ∉ Keyed.keys done := by
      intro mem
      rw [Keyed.keys, List.map_append, List.nodup_append] at nodup
      exact nodup.2.2 key mem key List.mem_cons_self rfl
    have joined : done ++ (key, value) :: fields = done ++ [(key, value)] ++ fields := by
      rw [List.append_assoc, List.singleton_append]
    rw [joined] at nodup ⊢
    rw [writtenFields, Written.jsonFields?, json?_written value distinct.1]
    simp only [Option.bind_eq_bind, Option.bind_some, Keyed.put_of_not_mem absent]
    exact jsonFields?_writtenFields fields (done ++ [(key, value)]) nodup distinct.2

end

/-! ## The tokens of a text -/

namespace Token

/-- Reading goes on with the first token after the blanks. -/
theorem readAll?_eq (before : List Token) (text : List Char) :
    readAll? before text =
      if text.dropWhile isBlank = [] then some before.reverse
      else (read? (text.dropWhile isBlank)).bind fun found =>
        readAll? (found.1 :: before) found.2 := by
  rw [readAll?]
  split
  · rename_i done
    rw [if_pos done]
  · rename_i c tail begins
    rw [begins, if_neg (List.cons_ne_nil c tail)]
    split
    · rename_i found
      rw [found]
      rfl
    · rename_i none
      rw [none]
      rfl

/-- A token that does not begin with a blank is read from the start of a text. -/
theorem readAll?_cons {before : List Token} {c : Char} {tail rest : List Char} {token : Token}
    (noBlank : isBlank c = false) (reads : read? (c :: tail) = some (token, rest)) :
    readAll? before (c :: tail) = readAll? (token :: before) rest := by
  have start : (c :: tail).dropWhile isBlank = c :: tail :=
    List.dropWhile_cons_of_neg (Bool.eq_false_iff.1 noBlank)
  rw [readAll?_eq, start, if_neg (List.cons_ne_nil c tail), reads]
  rfl

/-- Some characters are read as some tokens if the rest follows them, whatever was read before. -/
def Reads (text : List Char) (tokens : List Token) (rest : List Char) : Prop :=
  ∀ before, readAll? before (text ++ rest) = readAll? (tokens.reverse ++ before) rest

/-- What is read part by part is read as a whole. -/
theorem Reads.append {first second rest : List Char} {tokens others : List Token}
    (reads : Reads first tokens (second ++ rest)) (later : Reads second others rest) :
    Reads (first ++ second) (tokens ++ others) rest := by
  intro before
  rw [List.append_assoc, reads, later, List.reverse_append, List.append_assoc]

/-- A token is read from its characters. -/
theorem reads_token {c : Char} {tail rest : List Char} {token : Token}
    (noBlank : isBlank c = false) (reads : read? (c :: tail ++ rest) = some (token, rest)) :
    Reads (c :: tail) [token] rest :=
  fun _ => readAll?_cons noBlank reads

/-- A token of one character is read before others. -/
theorem Reads.cons {c : Char} {text rest : List Char} {token : Token} {tokens : List Token}
    (later : Reads text tokens rest) (noBlank : isBlank c = false)
    (reads : read? (c :: (text ++ rest)) = some (token, text ++ rest)) :
    Reads (c :: text) (token :: tokens) rest := by
  have first : Reads [c] [token] (text ++ rest) := reads_token noBlank reads
  exact first.append later

/-- What begins with a sign or a digit is read as a numeral. -/
theorem read?_numeral {first : Char} (start : first = '-' ∨ first.isDigit = true)
    (others : List Char) :
    read? (first :: others) =
      (Numeral.read? (first :: others)).map fun (value, rest) => (.numeral value, rest) := by
  unfold read?
  split
  case h_11 => rfl
  all_goals
    rename_i same
    rw [(List.cons.inj same).1] at start
    exact absurd start (by decide)

theorem isBlank_eq_false {first : Char} (start : first = '-' ∨ first.isDigit = true) :
    isBlank first = false := by
  rw [Bool.eq_false_iff]
  intro blank
  simp only [isBlank, Bool.or_eq_true, decide_eq_true_eq] at blank
  rcases blank with ((rfl | rfl) | rfl) | rfl <;> exact absurd start (by decide)

/-- A number is the token of its numeral. -/
theorem reads_number (number : Number) {rest : List Char} (ends : Numeral.EndsNumeral rest) :
    Reads number.write [.numeral number.numeral] rest := by
  intro before
  have reads := number.read?_write ends
  obtain ⟨first, others, same, start⟩ := Numeral.exists_cons_of_read? reads
  rw [same] at reads ⊢
  refine readAll?_cons (isBlank_eq_false start) ?_
  rw [read?_numeral start, reads]
  rfl

/-- A string is one token. -/
theorem reads_string (value : String) (rest : List Char) :
    Reads (writeString value) [.string (some value)] rest := by
  rw [writeString, List.cons_append]
  refine reads_token rfl ?_
  rw [List.cons_append, List.append_assoc, read?, List.singleton_append, readString?_write]

end Token

/-- What follows an item cannot belong to a numeral. -/
theorem endsNumeral_writeItems (items : List Json) (rest : List Char) :
    Numeral.EndsNumeral (writeItems items ++ rest) := by
  cases items with
  | nil =>
    rw [writeItems]
    exact Numeral.endsNumeral_cons (by decide) rest
  | cons item items =>
    rw [writeItems]
    exact Numeral.endsNumeral_cons (by decide) _

/-- What follows a field cannot belong to a numeral. -/
theorem endsNumeral_writeFields (fields : List (String × Json)) (rest : List Char) :
    Numeral.EndsNumeral (writeFields fields ++ rest) := by
  cases fields with
  | nil =>
    rw [writeFields]
    exact Numeral.endsNumeral_cons (by decide) rest
  | cons field fields =>
    rw [writeFields]
    exact Numeral.endsNumeral_cons (by decide) _

open Token

mutual

/-- The tokens of the document of a value are read from its text. -/
theorem reads_write : ∀ (json : Json) {rest : List Char}, Numeral.EndsNumeral rest →
    Reads json.write json.written.tokens rest
  | .null, rest, ends => by
    rw [write, written, Written.tokens]
    exact reads_token rfl rfl
  | .boolean true, rest, ends => by
    rw [write, written, Written.tokens]
    exact reads_token rfl rfl
  | .boolean false, rest, ends => by
    rw [write, written, Written.tokens]
    exact reads_token rfl rfl
  | .number value, rest, ends => by
    rw [write, written, Written.tokens]
    exact reads_number value ends
  | .string value, rest, ends => by
    rw [write, written, Written.tokens]
    exact reads_string value rest
  | .array [], rest, ends => by
    rw [write, written, writtenItems, Written.tokens]
    exact (reads_token rfl rfl).cons rfl rfl
  | .array (item :: items), rest, ends => by
    rw [write, written, writtenItems, Written.tokens]
    have first := reads_write item (endsNumeral_writeItems items rest)
    have later := reads_writeItems items rest
    exact (first.cons rfl rfl).append later
  | .object [], rest, ends => by
    rw [write, written, writtenFields, Written.tokens]
    exact (reads_token rfl rfl).cons rfl rfl
  | .object ((key, value) :: fields), rest, ends => by
    rw [write, written, writtenFields, Written.tokens]
    have first := reads_write value (endsNumeral_writeFields fields rest)
    have later := reads_writeFields fields rest
    exact (((reads_string key _).cons rfl rfl).append (first.cons rfl rfl)).append later

/-- So are those of the items after the first one. -/
theorem reads_writeItems : ∀ (items : List Json) (rest : List Char),
    Reads (writeItems items) (Written.tokensItems (writtenItems items)) rest
  | [], rest => by
    rw [writeItems, writtenItems, Written.tokensItems]
    exact reads_token rfl rfl
  | item :: items, rest => by
    rw [writeItems, writtenItems, Written.tokensItems]
    have first := reads_write item (endsNumeral_writeItems items rest)
    have later := reads_writeItems items rest
    exact (first.cons rfl rfl).append later

/-- So are those of the fields after the first one. -/
theorem reads_writeFields : ∀ (fields : List (String × Json)) (rest : List Char),
    Reads (writeFields fields) (Written.tokensFields (writtenFields fields)) rest
  | [], rest => by
    rw [writeFields, writtenFields, Written.tokensFields]
    exact reads_token rfl rfl
  | (key, value) :: fields, rest => by
    rw [writeFields, writtenFields, Written.tokensFields]
    have first := reads_write value (endsNumeral_writeFields fields rest)
    have later := reads_writeFields fields rest
    exact (((reads_string key _).cons rfl rfl).append (first.cons rfl rfl)).append later

end

/-! ## Values read back -/

/-- Characters that are read as the tokens of a document are a text with these tokens. -/
theorem tokens_ofText?_of_reads {chars : List Char} {tokens : List Token}
    (reads : Reads chars tokens []) : Token.ofText? (String.ofList chars) = some tokens := by
  rw [Token.ofText?, String.toList_ofList, ← List.append_nil chars, reads [], List.append_nil,
    Token.readAll?]
  exact congrArg some (List.reverse_reverse _)

/-- The document of a value is put together from its tokens if its nesting is within the limit. -/
theorem written_ofText?_of_tokens (limit : Option Nat) {text : String} {json : Json}
    (tokens : Token.ofText? text = some json.written.tokens) :
    Written.ofText? limit text =
      if allows limit json.nesting then some json.written else none := by
  have room : allows limit ([] : List Frame).length = true := by cases limit <;> rfl
  have run := Assembly.run?_tokens json.written [] [] (.inl rfl) room
  rw [List.append_nil, List.length_nil, Nat.zero_add, nesting_written] at run
  rw [Written.ofText?, tokens]
  change (Assembly.run? limit .start json.written.tokens).bind Assembly.result? = _
  rw [Assembly.start, run]
  split <;> rfl

/-- Nothing is left of a numeral at the end of a text. -/
theorem endsNumeral_nil : Numeral.EndsNumeral [] := by
  intro c mem
  cases mem

/-- The document of a value is put together from its text if its nesting is within the limit. -/
theorem written_ofText?_compact (limit : Option Nat) (json : Json) :
    Written.ofText? limit json.compact =
      if allows limit json.nesting then some json.written else none := by
  apply written_ofText?_of_tokens
  exact tokens_ofText?_of_reads (reads_write json endsNumeral_nil)

/-- A value without repeated keys is read back from its text exactly if its nesting is within the
limit. -/
theorem ofTextWithin?_compact (limit : Option Nat) {json : Json} (distinct : json.KeysDistinct) :
    ofTextWithin? limit json.compact = if allows limit json.nesting then some json else none := by
  rw [ofTextWithin?, written_ofText?_compact]
  split
  · exact json?_written json distinct
  · rfl

/-! ## What is read -/

/-- The values of the items of an array are those of its documents, one by one. -/
theorem forall₂_of_jsonItems? : ∀ {items : List Written} {values : List Json},
    Written.jsonItems? items = some values →
      List.Forall₂ (fun item value => item.json? = some value) items values
  | [], values, read => by
    rw [Written.jsonItems?] at read
    cases read
    exact .nil
  | item :: items, values, read => by
    rw [Written.jsonItems?] at read
    obtain ⟨value, first, read⟩ := Option.bind_eq_some_iff.1 read
    obtain ⟨others, later, same⟩ := Option.bind_eq_some_iff.1 read
    cases same
    exact .cons first (forall₂_of_jsonItems? later)

/-- No key of the fields of an object comes twice, and each has the value of a document. -/
theorem nodup_of_jsonFields? : ∀ {fields : List (Option String × Written)}
    {done result : List (String × Json)}, Written.jsonFields? done fields = some result →
      (Keyed.keys done).Nodup →
        (Keyed.keys result).Nodup ∧
          ∀ entry ∈ result, entry ∈ done ∨ ∃ field ∈ fields, field.2.json? = some entry.2
  | [], done, result, read, nodup => by
    rw [Written.jsonFields?] at read
    cases read
    exact ⟨nodup, fun entry mem => .inl mem⟩
  | (key, value) :: fields, done, result, read, nodup => by
    rw [Written.jsonFields?] at read
    obtain ⟨name, -, read⟩ := Option.bind_eq_some_iff.1 read
    obtain ⟨json, first, later⟩ := Option.bind_eq_some_iff.1 read
    obtain ⟨distinct, each⟩ := nodup_of_jsonFields? later (Keyed.nodup_keys_put nodup)
    refine ⟨distinct, fun entry mem => ?_⟩
    -- A field that comes again takes the place of the first one of its key.
    rcases each entry mem with before | ⟨field, inRest, reads⟩
    · rcases Keyed.mem_of_mem_put before with rfl | inDone
      · exact .inr ⟨_, List.mem_cons_self, first⟩
      · exact .inl inDone
    · exact .inr ⟨field, List.mem_cons_of_mem _ inRest, reads⟩

/-- The value of a document has no repeated keys and is nested no more than the document. -/
theorem keysDistinct_and_nesting_le_of_json? (document : Written) {json : Json}
    (read : document.json? = some json) :
    json.KeysDistinct ∧ json.nesting ≤ document.nesting := by
  cases document with
  | array items =>
    rw [Written.json?] at read
    obtain ⟨values, found, rfl⟩ := Option.map_eq_some_iff.1 read
    have each : ∀ value ∈ values,
        value.KeysDistinct ∧ value.nesting ≤ Written.nestingItems items := by
      intro value mem
      obtain ⟨item, inItems, reads⟩ :=
        exists_of_forall₂_mem (forall₂_of_jsonItems? found).flip mem
      have smaller := List.sizeOf_lt_of_mem inItems
      obtain ⟨distinct, le⟩ := keysDistinct_and_nesting_le_of_json? item reads
      exact ⟨distinct, Nat.le_trans le (Written.nesting_le_nestingItems inItems)⟩
    rw [KeysDistinct, keysDistinctItems_iff, nesting, Written.nesting, Nat.add_le_add_iff_right,
      nestingItems_le_iff]
    exact ⟨fun value mem => (each value mem).1, fun value mem => (each value mem).2⟩
  | object fields =>
    rw [Written.json?] at read
    obtain ⟨entries, found, rfl⟩ := Option.map_eq_some_iff.1 read
    obtain ⟨nodup, origin⟩ := nodup_of_jsonFields? found List.nodup_nil
    have each : ∀ entry ∈ entries,
        entry.2.KeysDistinct ∧ entry.2.nesting ≤ Written.nestingFields fields := by
      intro entry mem
      obtain ⟨field, inFields, reads⟩ := (origin entry mem).resolve_left List.not_mem_nil
      have smaller := List.sizeOf_lt_of_mem inFields
      obtain ⟨distinct, le⟩ := keysDistinct_and_nesting_le_of_json? field.2 reads
      exact ⟨distinct, Nat.le_trans le (Written.nesting_le_nestingFields inFields)⟩
    rw [KeysDistinct, keysDistinctFields_iff, nesting, Written.nesting, Nat.add_le_add_iff_right,
      nestingFields_le_iff]
    exact ⟨⟨nodup, fun entry mem => (each entry mem).1⟩, fun entry mem => (each entry mem).2⟩
  | null =>
    cases read
    simp [KeysDistinct, nesting]
  | boolean value =>
    cases read
    simp [KeysDistinct, nesting]
  | numeral value =>
    obtain ⟨number, -, rfl⟩ := Option.map_eq_some_iff.1 read
    simp [KeysDistinct, nesting]
  | string content =>
    obtain ⟨value, -, rfl⟩ := Option.map_eq_some_iff.1 read
    simp [KeysDistinct, nesting]
termination_by sizeOf document
decreasing_by
  · subst_vars
    simp only [Written.array.sizeOf_spec]
    omega
  · rcases field with ⟨key, value⟩
    subst_vars
    simp only [Written.object.sizeOf_spec, Prod.mk.sizeOf_spec] at *
    omega

/-- What is read from a text has no repeated keys and is within the limit. -/
theorem keysDistinct_and_allows_of_ofTextWithin? {limit : Option Nat} {text : String} {json : Json}
    (read : ofTextWithin? limit text = some json) :
    json.KeysDistinct ∧ allows limit json.nesting = true := by
  obtain ⟨document, assembled, value⟩ := Option.bind_eq_some_iff.1 read
  obtain ⟨distinct, le⟩ := keysDistinct_and_nesting_le_of_json? document value
  exact ⟨distinct, allows_of_le le (Written.allows_of_ofText? assembled)⟩

/-- The standard format is lawful. -/
theorem lawful_standardFormat : @Format.Lawful standardFormat where
  keysDistinct read := (keysDistinct_and_allows_of_ofTextWithin? read).1
  nesting_le read := of_decide_eq_true (keysDistinct_and_allows_of_ofTextWithin? read).2
  readsBack distinct within :=
    (ofTextWithin?_compact (some nestingLimit) distinct).trans (if_pos (decide_eq_true within))
  refuses distinct beyond :=
    (ofTextWithin?_compact (some nestingLimit) distinct).trans
      (if_neg (by simpa [allows] using beyond))

end SequenceCheck.Json
