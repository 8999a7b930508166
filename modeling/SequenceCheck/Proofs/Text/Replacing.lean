import Mathlib.Data.List.Infix
import SequenceCheck.Text.Replace

/-!
# What replacing does to a text

Replacing reads a text from the left. It comes to the end, or to an occurrence of the pattern, or to
a character that begins none (`replace_induction`).

Main statements: a text is left as it is exactly if the pattern does not occur in it or is its own
replacement (`replaceAfter_eq_self_iff`), and at a character that the pattern has not a text may be
taken apart (`replaceAfter_append_cons`).
-/

set_option autoImplicit false

namespace SequenceCheck.Text

variable {pattern replacement text rest : List Char} {c : Char}

/-! ## One step -/

/-- What is skipped is not read. -/
theorem replaceAfter_eq_drop (skip : Nat) (text : List Char) :
    replaceAfter pattern replacement skip text =
      replaceAfter pattern replacement 0 (text.drop skip) := by
  induction text generalizing skip with
  | nil => rw [List.drop_nil, replaceAfter_nil, replaceAfter_nil]
  | cons c rest ih =>
    cases skip with
    | zero => rfl
    | succ skip => exact ih skip

theorem replaceAfter_pattern_append (nonempty : pattern ≠ []) :
    replaceAfter pattern replacement 0 (pattern ++ rest) =
      replacement ++ replaceAfter pattern replacement 0 rest := by
  obtain ⟨first, others, rfl⟩ := List.exists_cons_of_ne_nil nonempty
  have found : (first :: others).isPrefixOf (first :: (others ++ rest)) = true :=
    List.isPrefixOf_iff_prefix.2 ⟨rest, rfl⟩
  rw [List.cons_append, replaceAfter_of_isPrefixOf nonempty found, replaceAfter_eq_drop,
    List.length_cons, Nat.add_sub_cancel, List.drop_left]

theorem replaceAfter_cons_of_absent (absent : ¬ pattern <+: c :: rest) :
    replaceAfter pattern replacement 0 (c :: rest) =
      c :: replaceAfter pattern replacement 0 rest := by
  apply replaceAfter_of_not_isPrefixOf
  rw [Bool.eq_false_iff, ne_eq, List.isPrefixOf_iff_prefix]
  exact absent

/-- A text ends, or begins with a pattern, or with a character at which the pattern does not
stand. -/
theorem replace_induction {motive : List Char → Prop} (nonempty : pattern ≠ []) (nil : motive [])
    (found : ∀ rest, motive rest → motive (pattern ++ rest))
    (other : ∀ c rest, ¬ pattern <+: c :: rest → motive rest → motive (c :: rest))
    (text : List Char) : motive text := by
  induction length : text.length using Nat.strong_induction_on generalizing text with
  | _ size ih =>
    cases text with
    | nil => exact nil
    | cons c rest =>
      by_cases here : pattern <+: c :: rest
      · obtain ⟨later, split⟩ := here
        rw [← split] at length ⊢
        have shorter := List.length_pos_of_ne_nil nonempty
        rw [List.length_append] at length
        exact found later (ih later.length (by omega) later rfl)
      · rw [List.length_cons] at length
        exact other c rest here (ih rest.length (by omega) rest rfl)

/-! ## Where the pattern does not occur -/

/-- A pattern occurs in a longer text where it occurs in the text. -/
theorem infix_cons_of_rest (occurs : pattern <:+: rest) : pattern <:+: c :: rest :=
  List.infix_cons_iff.2 (.inr occurs)

/-- A text without the pattern is left as it is. -/
theorem replaceAfter_of_absent (absent : ¬ pattern <:+: text) :
    replaceAfter pattern replacement 0 text = text := by
  induction text with
  | nil => exact replaceAfter_nil _ _ _
  | cons c rest ih =>
    have here : ¬ pattern <+: c :: rest := mt List.IsPrefix.isInfix absent
    rw [replaceAfter_cons_of_absent here, ih (mt infix_cons_of_rest absent)]

/-- At a character that it has not, a pattern does not begin. -/
theorem not_prefix_cons_of_not_mem (nonempty : pattern ≠ []) (foreign : c ∉ pattern) :
    ¬ pattern <+: c :: rest := by
  intro found
  obtain ⟨first, others, rfl⟩ := List.exists_cons_of_ne_nil nonempty
  obtain ⟨rfl, _⟩ := List.cons_prefix_cons.1 found
  exact foreign List.mem_cons_self

/-- A pattern that stands at the beginning of a text does not go beyond a character that it has
not. -/
theorem prefix_of_prefix_append_cons (foreign : c ∉ pattern)
    (found : pattern <+: text ++ c :: rest) : pattern <+: text := by
  rcases List.prefix_or_prefix_of_prefix found (List.prefix_append text (c :: rest)) with
    within | ⟨beyond, rfl⟩
  · exact within
  · rw [List.prefix_append_right_inj] at found
    cases beyond with
    | nil => rw [List.append_nil]
    | cons first others =>
      obtain ⟨rfl, _⟩ := List.cons_prefix_cons.1 found
      exact absurd (List.mem_append_right text List.mem_cons_self) foreign

/-- At a character that the pattern has not, a text is taken apart. -/
theorem replaceAfter_append_cons (nonempty : pattern ≠ []) (foreign : c ∉ pattern) :
    replaceAfter pattern replacement 0 (text ++ c :: rest) =
      replaceAfter pattern replacement 0 text ++
        c :: replaceAfter pattern replacement 0 rest := by
  induction text using replace_induction nonempty with
  | nil =>
    rw [List.nil_append, replaceAfter_nil, List.nil_append]
    exact replaceAfter_cons_of_absent (not_prefix_cons_of_not_mem nonempty foreign)
  | found later ih =>
    rw [List.append_assoc, replaceAfter_pattern_append nonempty,
      replaceAfter_pattern_append nonempty, ih, List.append_assoc]
  | other first later absent ih =>
    have still : ¬ pattern <+: first :: (later ++ c :: rest) := by
      rw [← List.cons_append]
      exact mt (prefix_of_prefix_append_cons foreign) absent
    rw [List.cons_append, replaceAfter_cons_of_absent still, ih,
      replaceAfter_cons_of_absent absent, List.cons_append]

/-- Before a text that begins with such a character, or is empty, it is taken apart. -/
theorem replaceAfter_append (nonempty : pattern ≠ []) (foreign : ∀ c ∈ rest.head?, c ∉ pattern) :
    replaceAfter pattern replacement 0 (text ++ rest) =
      replaceAfter pattern replacement 0 text ++ replaceAfter pattern replacement 0 rest := by
  cases rest with
  | nil => rw [List.append_nil, replaceAfter_nil, List.append_nil]
  | cons c later =>
    have here := foreign c rfl
    rw [replaceAfter_append_cons nonempty here,
      replaceAfter_cons_of_absent (not_prefix_cons_of_not_mem nonempty here)]

/-- A pattern occurs on one side of a character that it has not, or on the other. -/
theorem infix_append_cons_iff (foreign : c ∉ pattern) :
    pattern <:+: text ++ c :: rest ↔ pattern <:+: text ∨ pattern <:+: rest := by
  constructor
  · intro occurs
    induction text with
    | nil =>
      rcases List.infix_cons_iff.1 occurs with here | later
      · have whole : pattern <+: [] ++ c :: rest := here
        exact .inl (prefix_of_prefix_append_cons foreign whole).isInfix
      · exact .inr later
    | cons first others ih =>
      rcases List.infix_cons_iff.1 occurs with here | later
      · have whole : pattern <+: first :: others ++ c :: rest := here
        exact .inl (prefix_of_prefix_append_cons foreign whole).isInfix
      · exact (ih later).imp_left infix_cons_of_rest
  · rintro (before | after)
    · exact before.trans (List.prefix_append text _).isInfix
    · exact (infix_cons_of_rest after).trans (List.suffix_append text _).isInfix

/-! ## Where it occurs -/

/-- A pattern that is its own replacement stays. -/
theorem replaceAfter_self (nonempty : pattern ≠ []) (text : List Char) :
    replaceAfter pattern pattern 0 text = text := by
  induction text using replace_induction nonempty with
  | nil => exact replaceAfter_nil _ _ _
  | found later ih => rw [replaceAfter_pattern_append nonempty, ih]
  | other first later absent ih => rw [replaceAfter_cons_of_absent absent, ih]

/-- Each occurrence that is replaced makes the same difference to the length. -/
theorem exists_length_replaceAfter (nonempty : pattern ≠ []) (replacement text : List Char) :
    ∃ times, (replaceAfter pattern replacement 0 text).length + times * pattern.length =
      text.length + times * replacement.length ∧ (pattern <:+: text → 0 < times) := by
  induction text using replace_induction nonempty with
  | nil =>
    refine ⟨0, by rw [replaceAfter_nil, Nat.zero_mul, Nat.zero_mul], ?_⟩
    intro occurs
    exact absurd (List.infix_nil.1 occurs) nonempty
  | found later ih =>
    obtain ⟨times, lengths, _⟩ := ih
    refine ⟨times + 1, ?_, fun _ => Nat.succ_pos times⟩
    rw [replaceAfter_pattern_append nonempty, List.length_append, List.length_append,
      Nat.succ_mul, Nat.succ_mul]
    omega
  | other first later absent ih =>
    obtain ⟨times, lengths, positive⟩ := ih
    refine ⟨times, ?_, ?_⟩
    · rw [replaceAfter_cons_of_absent absent, List.length_cons, List.length_cons]
      omega
    · intro occurs
      exact positive ((List.infix_cons_iff.1 occurs).resolve_left absent)

/-- Where a replacement as long as the pattern makes no difference, it is the pattern. -/
theorem eq_of_replaceAfter_eq_self (nonempty : pattern ≠ [])
    (length : replacement.length = pattern.length) {text : List Char} (occurs : pattern <:+: text)
    (same : replaceAfter pattern replacement 0 text = text) : replacement = pattern := by
  induction text using replace_induction nonempty with
  | nil => exact absurd (List.infix_nil.1 occurs) nonempty
  | found later _ =>
    rw [replaceAfter_pattern_append nonempty] at same
    exact List.append_inj_left same length
  | other first later absent ih =>
    rw [replaceAfter_cons_of_absent absent] at same
    exact ih ((List.infix_cons_iff.1 occurs).resolve_left absent) (List.cons.inj same).2

/-- A text is left as it is exactly if the pattern does not occur in it or is its own
replacement. -/
theorem replaceAfter_eq_self_iff (nonempty : pattern ≠ []) :
    replaceAfter pattern replacement 0 text = text ↔
      (pattern <:+: text → replacement = pattern) := by
  constructor
  · intro same occurs
    obtain ⟨times, lengths, positive⟩ := exists_length_replaceAfter nonempty replacement text
    rw [same, Nat.add_left_cancel_iff] at lengths
    have length := Nat.eq_of_mul_eq_mul_left (positive occurs) lengths
    exact eq_of_replaceAfter_eq_self nonempty length.symm occurs same
  · intro trivial
    by_cases occurs : pattern <:+: text
    · rw [trivial occurs]
      exact replaceAfter_self nonempty text
    · exact replaceAfter_of_absent occurs

/-- A character of the pattern that the replacement has not becomes rarer with each occurrence. -/
theorem count_replaceAfter (held : c ∈ pattern) (gone : c ∉ replacement) (text : List Char) :
    (replaceAfter pattern replacement 0 text).count c ≤ text.count c ∧
      (pattern <:+: text → (replaceAfter pattern replacement 0 text).count c < text.count c) := by
  have nonempty : pattern ≠ [] := List.ne_nil_of_mem held
  have positive : 0 < pattern.count c := List.count_pos_iff.2 held
  induction text using replace_induction nonempty with
  | nil =>
    refine ⟨by rw [replaceAfter_nil], ?_⟩
    intro occurs
    exact absurd (List.infix_nil.1 occurs) nonempty
  | found later ih =>
    rw [replaceAfter_pattern_append nonempty, List.count_append, List.count_append,
      List.count_eq_zero.2 gone]
    omega
  | other first later absent ih =>
    rw [replaceAfter_cons_of_absent absent, List.count_cons, List.count_cons]
    refine ⟨by omega, ?_⟩
    intro occurs
    have rarer := ih.2 ((List.infix_cons_iff.1 occurs).resolve_left absent)
    omega

end SequenceCheck.Text
