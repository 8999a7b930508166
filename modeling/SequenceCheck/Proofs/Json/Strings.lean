import Mathlib.Data.List.Forall2
import Mathlib.Tactic.IntervalCases
import Mathlib.Tactic.SplitIfs
import SequenceCheck.Json.Printer
import SequenceCheck.Json.Token

/-!
# Strings read back

A character of a string is written as itself or as an escape, and either is read as one unit that
stands for the character (`exists_readUnits?_writeChar`). Units that stand for characters spell them
(`decodeUnits?_of_standsFor`).

Main statement: a string is read back from its text (`readString?_write`).
-/

set_option autoImplicit false

namespace SequenceCheck.Json

/-- A unit of a string stands for a character, without another unit beside it. -/
inductive TextUnit.StandsFor : TextUnit → Char → Prop
  | char (c : Char) : StandsFor (.char c) c
  | code {c : Char} : c.toNat < 0xd800 → StandsFor (.code c.toNat) c

open TextUnit

/-- Units that stand for characters spell them. -/
theorem decodeUnits?_of_standsFor {units : List TextUnit} {chars : List Char}
    (each : List.Forall₂ StandsFor units chars) (before : List Char) :
    decodeUnits? before none units = some (before.reverse ++ chars) := by
  induction each generalizing before with
  | nil => rw [decodeUnits?, List.append_nil]
  | @cons unit c units chars first _ ih =>
    cases first with
    | char => rw [decodeUnits?, ih, List.reverse_cons, List.append_assoc, List.singleton_append]
    | code small =>
      have high : isHigh c.toNat = false := by
        simp only [isHigh, Bool.and_eq_false_iff, decide_eq_false_iff_not]
        omega
      have low : isLow c.toNat = false := by
        simp only [isLow, Bool.and_eq_false_iff, decide_eq_false_iff_not]
        omega
      rw [decodeUnits?, high, low, if_neg Bool.false_ne_true, if_neg Bool.false_ne_true, ih,
        Char.ofNat_toNat, List.reverse_cons, List.append_assoc, List.singleton_append]

/-- Two hexadecimal digits name a control character. -/
theorem hexCode?_control {n : Nat} (control : n < 0x20) :
    hexCode? '0' '0' (Nat.digitChar (n / 16)) (Nat.digitChar (n % 16)) = some n := by
  interval_cases n <;> rfl

/-- An escape of one letter is read as the character that the letter stands for. -/
theorem readUnits?_letter {letter c : Char} (stands : escaped? letter = some c)
    (noCode : letter ≠ 'u') (before : List TextUnit) (text : List Char) :
    readUnits? before ('\\' :: letter :: text) = readUnits? (.char c :: before) text := by
  rw [readUnits?, stands]
  intro _ _ _ _ _ same
  exact absurd same noCode

/-- A character that is not escaped is read as itself. -/
theorem readUnits?_plain {c : Char} (noQuotation : c ≠ '"') (noBackslash : c ≠ '\\')
    (noControl : ¬ c.toNat < 0x20) (before : List TextUnit) (text : List Char) :
    readUnits? before (c :: text) = readUnits? (.char c :: before) text := by
  rw [readUnits?, if_neg noControl]
  · exact fun same => absurd same noQuotation
  · intro _ _ _ _ _ same
    exact absurd same noBackslash
  · intro _ _ same
    exact absurd same noBackslash

/-- A written character is read as a unit that stands for it. -/
theorem exists_readUnits?_writeChar (c : Char) (before : List TextUnit) (text : List Char) :
    ∃ unit, StandsFor unit c ∧
      readUnits? before (writeChar c ++ text) = readUnits? (unit :: before) text := by
  unfold writeChar
  -- Seven characters have an escape of one letter, the other control characters one of four digits.
  split_ifs with quotation backslash backspace formFeed newLine carriageReturn tabulator control
  · subst quotation
    exact ⟨_, .char _, readUnits?_letter rfl (by decide) before text⟩
  · subst backslash
    exact ⟨_, .char _, readUnits?_letter rfl (by decide) before text⟩
  · exact ⟨.char c, .char c, backspace ▸ readUnits?_letter rfl (by decide) before text⟩
  · exact ⟨.char c, .char c, formFeed ▸ readUnits?_letter rfl (by decide) before text⟩
  · exact ⟨.char c, .char c, newLine ▸ readUnits?_letter rfl (by decide) before text⟩
  · exact ⟨.char c, .char c, carriageReturn ▸ readUnits?_letter rfl (by decide) before text⟩
  · exact ⟨.char c, .char c, tabulator ▸ readUnits?_letter rfl (by decide) before text⟩
  · refine ⟨.code c.toNat, .code (by omega), ?_⟩
    simp only [List.cons_append, List.nil_append]
    rw [readUnits?, hexCode?_control control]
  · exact ⟨.char c, .char c, readUnits?_plain quotation backslash control before text⟩

/-- Written characters are read, up to the closing quotation mark, as units that stand for them. -/
theorem exists_readUnits?_flatMap (chars : List Char) (before : List TextUnit)
    (rest : List Char) :
    ∃ units, List.Forall₂ StandsFor units chars ∧
      readUnits? before (chars.flatMap writeChar ++ '"' :: rest) =
        some (before.reverse ++ units, rest) := by
  induction chars generalizing before with
  | nil => exact ⟨[], .nil, by rw [List.flatMap_nil, List.nil_append, readUnits?, List.append_nil]⟩
  | cons c others ih =>
    obtain ⟨unit, stands, first⟩ :=
      exists_readUnits?_writeChar c before (others.flatMap writeChar ++ '"' :: rest)
    obtain ⟨units, each, later⟩ := ih (unit :: before)
    refine ⟨unit :: units, .cons stands each, ?_⟩
    rw [List.flatMap_cons, List.append_assoc, first, later, List.reverse_cons, List.append_assoc,
      List.singleton_append]

/-- A string is read back from its text. -/
theorem readString?_write (value : String) (rest : List Char) :
    Token.readString? (value.toList.flatMap writeChar ++ '"' :: rest) =
      some (.string (some value), rest) := by
  obtain ⟨units, each, reads⟩ := exists_readUnits?_flatMap value.toList [] rest
  have spells := decodeUnits?_of_standsFor each []
  rw [Token.readString?, reads]
  dsimp only
  rw [List.reverse_nil, List.nil_append, spells, List.reverse_nil, List.nil_append,
    Option.map_some, String.ofList_toList]

end SequenceCheck.Json
