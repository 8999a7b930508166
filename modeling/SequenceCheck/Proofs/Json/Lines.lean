import SequenceCheck.Proofs.Json.RoundTrip

/-!
# Values written line by line

The text that `Json.pretty` writes differs from the one without blanks in blanks between tokens
only, and these make no difference to a reader (`Token.Reads.blanks`).

Main statement: the document of a value is put together from the text that has one item or field to
a line, just as from the one without blanks (`written_ofText?_pretty`).
-/

set_option autoImplicit false

namespace SequenceCheck.Json

open Token

/-- Blanks before a text make no difference to how it is read. -/
theorem Token.Reads.blanks {blanks text rest : List Char} {tokens : List Token}
    (reads : Reads text tokens rest) (blank : ∀ c ∈ blanks, isBlank c = true) :
    Reads (blanks ++ text) tokens rest := by
  intro before
  rw [← reads before, List.append_assoc, readAll?_eq, readAll?_eq before (text ++ rest),
    List.dropWhile_append_of_pos blank]

theorem isBlank_of_mem_newLine {level : Nat} {c : Char} (mem : c ∈ newLine level) :
    isBlank c = true := by
  rcases List.mem_cons.1 mem with rfl | space
  · rfl
  · rw [List.eq_of_mem_replicate space]
    rfl

/-- A new line before a text makes no difference. -/
theorem Token.Reads.newLine {text rest : List Char} {tokens : List Token}
    (reads : Reads text tokens rest) (level : Nat) :
    Reads (newLine level ++ text) tokens rest :=
  reads.blanks fun _ mem => isBlank_of_mem_newLine mem

/-- A space before a text makes no difference. -/
theorem Token.Reads.space {text rest : List Char} {tokens : List Token}
    (reads : Reads text tokens rest) : Reads (' ' :: text) tokens rest := by
  have blank : ∀ c ∈ [' '], isBlank c = true := by
    intro c mem
    rw [List.mem_singleton.1 mem]
    rfl
  exact reads.blanks blank

/-- A field that has a line to itself is read if its value is. -/
theorem Token.Reads.field {text rest : List Char} {tokens : List Token}
    (reads : Reads text tokens rest) (key : String) (level : Nat) :
    Reads (Json.newLine level ++ writeString key ++ ':' :: ' ' :: text)
      (.string (some key) :: .colon :: tokens) rest := by
  have name := (reads_string key (':' :: ' ' :: text ++ rest)).newLine level
  exact name.append (reads.space.cons rfl rfl)

/-- What follows an item cannot belong to a numeral. -/
theorem endsNumeral_writeItemLines (level : Nat) (items : List Json) (rest : List Char) :
    Numeral.EndsNumeral (writeItemLines level items ++ rest) := by
  cases items with
  | nil =>
    rw [writeItemLines]
    exact Numeral.endsNumeral_cons (by decide) _
  | cons item items =>
    rw [writeItemLines]
    exact Numeral.endsNumeral_cons (by decide) _

/-- What follows a field cannot belong to a numeral. -/
theorem endsNumeral_writeFieldLines (level : Nat) (fields : List (String × Json))
    (rest : List Char) : Numeral.EndsNumeral (writeFieldLines level fields ++ rest) := by
  cases fields with
  | nil =>
    rw [writeFieldLines]
    exact Numeral.endsNumeral_cons (by decide) _
  | cons field fields =>
    rw [writeFieldLines]
    exact Numeral.endsNumeral_cons (by decide) _

mutual

/-- The tokens of the document of a value are read from its lines. -/
theorem reads_writeLines : ∀ (json : Json) (level : Nat) {rest : List Char},
    Numeral.EndsNumeral rest → Reads (json.writeLines level) json.written.tokens rest
  | .null, level, rest, ends => by
    rw [writeLines, written, Written.tokens]
    exact reads_token rfl rfl
  | .boolean true, level, rest, ends => by
    rw [writeLines, written, Written.tokens]
    exact reads_token rfl rfl
  | .boolean false, level, rest, ends => by
    rw [writeLines, written, Written.tokens]
    exact reads_token rfl rfl
  | .number value, level, rest, ends => by
    rw [writeLines, written, Written.tokens]
    -- A numeral is read up to the first character that cannot belong to it.
    exact reads_number value ends
  | .string value, level, rest, ends => by
    rw [writeLines, written, Written.tokens]
    exact reads_string value rest
  | .array [], level, rest, ends => by
    rw [writeLines, written, writtenItems, Written.tokens]
    exact (reads_token rfl rfl).cons rfl rfl
  | .array (item :: items), level, rest, ends => by
    rw [writeLines, written, writtenItems, Written.tokens]
    have first := reads_writeLines item (level + 1) (endsNumeral_writeItemLines level items rest)
    have later := reads_writeItemLines items level rest
    exact ((first.newLine (level + 1)).cons rfl rfl).append later
  | .object [], level, rest, ends => by
    rw [writeLines, written, writtenFields, Written.tokens]
    exact (reads_token rfl rfl).cons rfl rfl
  | .object ((key, value) :: fields), level, rest, ends => by
    rw [writeLines, written, writtenFields, Written.tokens]
    have first := reads_writeLines value (level + 1)
      (endsNumeral_writeFieldLines level fields rest)
    have later := reads_writeFieldLines fields level rest
    exact ((first.field key (level + 1)).cons rfl rfl).append later

/-- So are those of the items after the first one. -/
theorem reads_writeItemLines : ∀ (items : List Json) (level : Nat) (rest : List Char),
    Reads (writeItemLines level items) (Written.tokensItems (writtenItems items)) rest
  | [], level, rest => by
    rw [writeItemLines, writtenItems, Written.tokensItems]
    exact (reads_token rfl rfl).newLine level
  | item :: items, level, rest => by
    rw [writeItemLines, writtenItems, Written.tokensItems]
    have first := reads_writeLines item (level + 1) (endsNumeral_writeItemLines level items rest)
    have later := reads_writeItemLines items level rest
    exact ((first.newLine (level + 1)).cons rfl rfl).append later

/-- So are those of the fields after the first one. -/
theorem reads_writeFieldLines : ∀ (fields : List (String × Json)) (level : Nat)
    (rest : List Char),
    Reads (writeFieldLines level fields) (Written.tokensFields (writtenFields fields)) rest
  | [], level, rest => by
    rw [writeFieldLines, writtenFields, Written.tokensFields]
    exact (reads_token rfl rfl).newLine level
  | (key, value) :: fields, level, rest => by
    rw [writeFieldLines, writtenFields, Written.tokensFields]
    have first := reads_writeLines value (level + 1)
      (endsNumeral_writeFieldLines level fields rest)
    have later := reads_writeFieldLines fields level rest
    exact ((first.field key (level + 1)).cons rfl rfl).append later

end

/-- The document of a value is put together from its lines if its nesting is within the limit. -/
theorem written_ofText?_pretty (limit : Option Nat) (json : Json) :
    Written.ofText? limit json.pretty =
      if allows limit json.nesting then some json.written else none := by
  apply written_ofText?_of_tokens
  exact tokens_ofText?_of_reads (reads_writeLines json 0 endsNumeral_nil)

end SequenceCheck.Json
