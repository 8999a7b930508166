import SequenceCheck.Json.Numeral

/-!
# Tokens of JSON texts

`Token.ofText?` cuts a text into brackets, commas, colons, names, numerals and strings. Blanks are
the space, the tabulator, the line feed and the carriage return.

A string is read in two steps. `readUnits?` finds its end and takes its escapes apart: it refuses
control characters and unknown escapes. `decodeUnits?` puts pairs of surrogates together: it fails
if a surrogate is left alone, in which case the escapes spell no text. A token keeps that failure,
because a reader that skips a string never asks what it spells.
-/

set_option autoImplicit false

namespace SequenceCheck.Json

/-- A unit of a string as written: a character, or a code of 16 bits given by an escape. -/
inductive TextUnit where
  | char (c : Char)
  | code (value : Nat)
  deriving DecidableEq, Repr

/-- The smallest parts of a JSON text. A string whose escapes spell no text has no content. -/
inductive Token where
  | openArray
  | closeArray
  | openObject
  | closeObject
  | comma
  | colon
  | null
  | boolean (value : Bool)
  | numeral (value : Numeral)
  | string (content : Option String)
  deriving DecidableEq, Repr

namespace TextUnit

/-- The value of a hexadecimal digit of either case. -/
def hexValue? (c : Char) : Option Nat :=
  if '0' ≤ c ∧ c ≤ '9' then some (c.toNat - '0'.toNat)
  else if 'a' ≤ c ∧ c ≤ 'f' then some (c.toNat - 'a'.toNat + 10)
  else if 'A' ≤ c ∧ c ≤ 'F' then some (c.toNat - 'A'.toNat + 10)
  else none

/-- The code that four hexadecimal digits name. -/
def hexCode? (a b c d : Char) : Option Nat := do
  let a ← hexValue? a
  let b ← hexValue? b
  let c ← hexValue? c
  let d ← hexValue? d
  some (((a * 16 + b) * 16 + c) * 16 + d)

/-- The character that a letter after a backslash stands for. -/
def escaped? (c : Char) : Option Char :=
  if c = '"' ∨ c = '\\' ∨ c = '/' then some c
  else if c = 'b' then some '\x08'
  else if c = 'f' then some '\x0c'
  else if c = 'n' then some '\n'
  else if c = 'r' then some '\r'
  else if c = 't' then some '\t'
  else none

/-- Whether a code is the first half of a pair of surrogates. -/
def isHigh (code : Nat) : Bool :=
  0xd800 ≤ code && code < 0xdc00

/-- Whether a code is the second half of a pair of surrogates. -/
def isLow (code : Nat) : Bool :=
  0xdc00 ≤ code && code < 0xe000

/-- The character of a pair of surrogates. -/
def paired (high low : Nat) : Char :=
  Char.ofNat (0x10000 + (high - 0xd800) * 0x400 + (low - 0xdc00))

end TextUnit

open TextUnit

/-- The units of a string up to its closing quotation mark, after those in `before`, which are held
latest first; and the rest of the text. -/
def readUnits? (before : List TextUnit) : List Char → Option (List TextUnit × List Char)
  | [] => none
  | '"' :: rest => some (before.reverse, rest)
  | '\\' :: 'u' :: a :: b :: c :: d :: rest =>
    match hexCode? a b c d with
    | some value => readUnits? (.code value :: before) rest
    | none => none
  | '\\' :: c :: rest =>
    match escaped? c with
    | some c => readUnits? (.char c :: before) rest
    | none => none
  | c :: rest => if c.toNat < 0x20 then none else readUnits? (.char c :: before) rest

/-- The text that units spell, after the characters in `before`, which are held latest first, and a
surrogate that waits for its second half. -/
def decodeUnits? (before : List Char) : Option Nat → List TextUnit → Option (List Char)
  | none, [] => some before.reverse
  | none, .char c :: rest => decodeUnits? (c :: before) none rest
  | none, .code value :: rest =>
    if isHigh value then decodeUnits? before (some value) rest
    else if isLow value then none
    else decodeUnits? (Char.ofNat value :: before) none rest
  | some high, .code value :: rest =>
    if isLow value then decodeUnits? (paired high value :: before) none rest else none
  | some _, _ => none

namespace Token

/-- The token of a string, given what follows its opening quotation mark. -/
def readString? (text : List Char) : Option (Token × List Char) :=
  match readUnits? [] text with
  | some (units, rest) => some (.string ((decodeUnits? [] none units).map String.ofList), rest)
  | none => none

/-- The token at the start of a text that does not start with a blank, and the rest. -/
def read? : List Char → Option (Token × List Char)
  | '[' :: rest => some (.openArray, rest)
  | ']' :: rest => some (.closeArray, rest)
  | '\x7b' :: rest => some (.openObject, rest)
  | '\x7d' :: rest => some (.closeObject, rest)
  | ',' :: rest => some (.comma, rest)
  | ':' :: rest => some (.colon, rest)
  | 'n' :: 'u' :: 'l' :: 'l' :: rest => some (.null, rest)
  | 't' :: 'r' :: 'u' :: 'e' :: rest => some (.boolean true, rest)
  | 'f' :: 'a' :: 'l' :: 's' :: 'e' :: rest => some (.boolean false, rest)
  | '"' :: rest => readString? rest
  | chars => (Numeral.read? chars).map fun (value, rest) => (.numeral value, rest)

/-- Whether a character may stand between tokens. -/
def isBlank (c : Char) : Bool :=
  c = ' ' || c = '\t' || c = '\n' || c = '\r'

theorem length_readUnits? {before units : List TextUnit} {text rest : List Char}
    (h : readUnits? before text = some (units, rest)) : rest.length < text.length := by
  fun_induction readUnits? before text with
  | case1 => simp at h
  | case2 => simp_all
  | case3 before a b c d tail value found ih =>
    have := ih h
    simp only [List.length_cons]
    omega
  | case4 => simp at h
  | case5 before c tail _ value found ih =>
    have := ih h
    simp only [List.length_cons]
    omega
  | case6 => simp at h
  | case7 => simp at h
  | case8 before c tail _ _ _ _ ih =>
    have := ih h
    simp only [List.length_cons]
    omega

theorem length_readString? {text rest : List Char} {token : Token}
    (h : readString? text = some (token, rest)) : rest.length < text.length := by
  unfold readString? at h
  split at h
  · rename_i units tail found
    simp only [Option.some.injEq, Prod.mk.injEq] at h
    rw [← h.2]
    exact length_readUnits? found
  · simp at h

theorem length_read? {text rest : List Char} {token : Token}
    (h : read? text = some (token, rest)) : rest.length < text.length := by
  unfold read? at h
  split at h
  case h_10 => exact Nat.lt_succ_of_lt (length_readString? h)
  case h_11 =>
    simp only [Option.map_eq_some_iff, Prod.mk.injEq, Prod.exists] at h
    obtain ⟨_, _, found, _, rfl⟩ := h
    exact Numeral.length_read? found
  all_goals
    simp only [Option.some.injEq, Prod.mk.injEq] at h
    rw [← h.2]
    simp only [List.length_cons]
    omega

/-- The tokens of a text, after those in `before`, which are held latest first. -/
def readAll? (before : List Token) (text : List Char) : Option (List Token) :=
  match _started : text.dropWhile isBlank with
  | [] => some before.reverse
  | c :: tail =>
    match _found : read? (c :: tail) with
    | some (token, rest) => readAll? (token :: before) rest
    | none => none
termination_by text.length
decreasing_by
  have shorter := length_read? _found
  have suffix := (List.dropWhile_suffix isBlank (l := text)).length_le
  rw [_started] at suffix
  omega

/-- The tokens of a text. -/
def ofText? (text : String) : Option (List Token) :=
  readAll? [] text.toList

end Token

end SequenceCheck.Json
