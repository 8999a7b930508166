import Mathlib.Order.Lattice
import SequenceCheck.Json.Written

/-!
# Documents put together from their tokens

`written.tokens` are the tokens of a document, and `written.nesting` says how many containers are
open at once in it. A document is put together from its tokens exactly if its nesting is within the
limit, whatever is open around it (`run?_tokens`); and nothing is put together whose nesting is not
(`allows_of_ofText?`).
-/

set_option autoImplicit false

namespace SequenceCheck.Json

/-- Whether a limit, if there is one, allows a number of containers to be open. -/
def allows : Option Nat → Nat → Bool
  | some most, n => n ≤ most
  | none, _ => true

section Allows

variable {limit : Option Nat} {m n : Nat}

theorem allows_of_le (le : m ≤ n) (allowed : allows limit n = true) : allows limit m = true := by
  cases limit with
  | none => rfl
  | some most =>
    rw [allows, decide_eq_true_eq] at allowed ⊢
    omega

theorem allows_add_max (k : Nat) :
    allows limit (k + max m n) = (allows limit (k + m) && allows limit (k + n)) := by
  cases limit with
  | none => rfl
  | some most =>
    rw [Bool.eq_iff_iff, Bool.and_eq_true]
    simp only [allows, decide_eq_true_eq]
    omega

end Allows

namespace Written

mutual

/-- How many containers are open at once in a document. -/
def nesting : Written → Nat
  | .null | .boolean _ | .numeral _ | .string _ => 0
  | .array items => nestingItems items + 1
  | .object fields => nestingFields fields + 1

/-- How many containers are open at once in one of the items of an array. -/
def nestingItems : List Written → Nat
  | [] => 0
  | item :: items => max item.nesting (nestingItems items)

/-- How many containers are open at once in the value of one of the fields of an object. -/
def nestingFields : List (Option String × Written) → Nat
  | [] => 0
  | (_, value) :: fields => max value.nesting (nestingFields fields)

end

mutual

/-- The tokens of a document. -/
def tokens : Written → List Token
  | .null => [.null]
  | .boolean value => [.boolean value]
  | .numeral value => [.numeral value]
  | .string content => [.string content]
  | .array [] => [.openArray, .closeArray]
  | .array (item :: items) => .openArray :: (item.tokens ++ tokensItems items)
  | .object [] => [.openObject, .closeObject]
  | .object ((key, value) :: fields) =>
    .openObject :: .string key :: .colon :: (value.tokens ++ tokensFields fields)

/-- The tokens from the end of one item to the end of the array. -/
def tokensItems : List Written → List Token
  | [] => [.closeArray]
  | item :: items => .comma :: (item.tokens ++ tokensItems items)

/-- The tokens from the end of one field to the end of the object. -/
def tokensFields : List (Option String × Written) → List Token
  | [] => [.closeObject]
  | (key, value) :: fields =>
    .comma :: .string key :: .colon :: (value.tokens ++ tokensFields fields)

end

theorem nesting_le_nestingItems {item : Written} :
    ∀ {items : List Written}, item ∈ items → item.nesting ≤ nestingItems items
  | first :: others, mem => by
    rw [nestingItems]
    rcases List.mem_cons.1 mem with rfl | later
    · exact Nat.le_max_left _ _
    · exact Nat.le_trans (nesting_le_nestingItems later) (Nat.le_max_right _ _)

theorem nesting_le_nestingFields {field : Option String × Written} :
    ∀ {fields : List (Option String × Written)}, field ∈ fields →
      field.2.nesting ≤ nestingFields fields
  | first :: others, mem => by
    rw [nestingFields]
    rcases List.mem_cons.1 mem with rfl | later
    · exact Nat.le_max_left _ _
    · exact Nat.le_trans (nesting_le_nestingFields later) (Nat.le_max_right _ _)

end Written

/-- The values that a frame holds. -/
def Frame.values : Frame → List Written
  | .items done => done
  | .fields done | .field _ done => done.map Prod.snd

namespace Assembly

open Written

variable {limit : Option Nat}

/-! ## A document from its tokens -/

/-- What may follow is a value, and perhaps the end of an array. -/
def AwaitsValue (phase : Phase) : Prop :=
  phase = .value ∨ phase = .arrayOpened

/-- Where a value may follow, every token but the end of an array begins one. -/
theorem run?_begin {phase : Phase} (awaits : AwaitsValue phase) {token : Token}
    (noEnd : token ≠ .closeArray) (frames : List Frame) (rest : List Token) :
    run? limit ⟨frames, phase⟩ (token :: rest) =
      (begin? limit frames token).bind fun next => run? limit next rest := by
  have step : step? limit ⟨frames, phase⟩ token = begin? limit frames token := by
    rcases awaits with rfl | rfl
    · rfl
    · rw [step?]
      intro others same
      exact absurd same noEnd
  rw [run?, step]
  cases begin? limit frames token <;> rfl

/-- What is put together inside a container, if there is room for the container and for its content,
is put together around it. -/
theorem run?_enter {frames : List Frame} {frame : Frame} {phase : Phase} {inner : List Token}
    {nesting : Nat} {result : Option Assembly}
    (inside : allows limit (frames.length + 1) = true →
      run? limit ⟨frame :: frames, phase⟩ inner =
        if allows limit (frames.length + 1 + nesting) then result else none) :
    ((enter? limit frames frame phase).bind fun next => run? limit next inner) =
      if allows limit (frames.length + (nesting + 1)) then result else none := by
  have opened : enter? limit frames frame phase =
      if allows limit (frames.length + 1) then some ⟨frame :: frames, phase⟩ else none := by
    cases limit with
    | none => rfl
    | some most =>
      simp only [enter?, allows, decide_eq_true_eq]
      rfl
  rw [opened, Nat.add_comm nesting, ← Nat.add_assoc]
  by_cases room : allows limit (frames.length + 1) = true
  · rw [if_pos room, Option.bind_some, inside room]
  · have full : ¬ allows limit (frames.length + 1 + nesting) = true := fun allowed =>
      room (allows_of_le (Nat.le_add_right _ _) allowed)
    rw [if_neg room, if_neg full, Option.bind_none]

theorem ite_ite_none {α : Type} (a b : Bool) (x : Option α) :
    (if a then if b then x else none else none) = if a && b then x else none := by
  cases a <;> rfl

mutual

/-- A document is put together from its tokens, whatever is open around it, if that leaves room for
its nesting. -/
theorem run?_tokens : ∀ (written : Written) (frames : List Frame) {phase : Phase}
    (rest : List Token), AwaitsValue phase → allows limit frames.length = true →
      run? limit ⟨frames, phase⟩ (written.tokens ++ rest) =
        if allows limit (frames.length + written.nesting) then
          run? limit ⟨frames, .complete written⟩ rest
        else none
  | .null, frames, phase, rest, awaits, room => by
    rw [tokens, List.singleton_append, run?_begin awaits (by simp), Written.nesting]
    exact (if_pos room).symm
  | .boolean value, frames, phase, rest, awaits, room => by
    rw [tokens, List.singleton_append, run?_begin awaits (by simp), Written.nesting]
    exact (if_pos room).symm
  | .numeral value, frames, phase, rest, awaits, room => by
    rw [tokens, List.singleton_append, run?_begin awaits (by simp), Written.nesting]
    exact (if_pos room).symm
  | .string content, frames, phase, rest, awaits, room => by
    rw [tokens, List.singleton_append, run?_begin awaits (by simp), Written.nesting]
    exact (if_pos room).symm
  | .array [], frames, phase, rest, awaits, room => by
    rw [tokens, List.cons_append, run?_begin awaits (by simp), begin?, Written.nesting,
      Written.nestingItems]
    exact run?_enter fun inside => (if_pos inside).symm
  | .array (item :: items), frames, phase, rest, awaits, room => by
    rw [tokens, List.cons_append, run?_begin awaits (by simp), begin?, Written.nesting,
      Written.nestingItems, List.append_assoc]
    refine run?_enter fun inside => ?_
    rw [run?_tokens item (.items [] :: frames) _ (.inr rfl) inside,
      run?_tokensItems items rest inside, ite_ite_none, allows_add_max]
    rfl
  | .object [], frames, phase, rest, awaits, room => by
    rw [tokens, List.cons_append, run?_begin awaits (by simp), begin?, Written.nesting,
      Written.nestingFields]
    exact run?_enter fun inside => (if_pos inside).symm
  | .object ((key, value) :: fields), frames, phase, rest, awaits, room => by
    rw [tokens, List.cons_append, run?_begin awaits (by simp), begin?, Written.nesting,
      Written.nestingFields, List.cons_append, List.cons_append, List.append_assoc]
    refine run?_enter fun inside => ?_
    -- The key and the colon come before the value.
    change run? limit ⟨.field key [] :: frames, .value⟩ _ = _
    rw [run?_tokens value (.field key [] :: frames) _ (.inl rfl) inside,
      run?_tokensFields fields rest inside, ite_ite_none, allows_add_max]
    rfl

theorem run?_tokensItems : ∀ (items : List Written) {done : List Written} {last : Written}
    {frames : List Frame} (rest : List Token), allows limit (frames.length + 1) = true →
      run? limit ⟨.items done :: frames, .complete last⟩ (tokensItems items ++ rest) =
        if allows limit (frames.length + 1 + Written.nestingItems items) then
          run? limit ⟨frames, .complete (.array (done.reverse ++ last :: items))⟩ rest
        else none
  | [], done, last, frames, rest, room => by
    rw [tokensItems, Written.nestingItems, Nat.add_zero, if_pos room, ← List.reverse_cons]
    rfl
  | item :: items, done, last, frames, rest, room => by
    rw [tokensItems, Written.nestingItems, List.cons_append, List.append_assoc]
    change run? limit ⟨.items (last :: done) :: frames, .value⟩ _ = _
    rw [run?_tokens item (.items (last :: done) :: frames) _ (.inl rfl) room,
      run?_tokensItems items rest room, ite_ite_none, allows_add_max, List.reverse_cons,
      List.append_assoc, List.singleton_append]
    rfl

theorem run?_tokensFields : ∀ (fields : List (Option String × Written))
    {done : List (Option String × Written)} {key : Option String} {last : Written}
    {frames : List Frame} (rest : List Token), allows limit (frames.length + 1) = true →
      run? limit ⟨.field key done :: frames, .complete last⟩ (tokensFields fields ++ rest) =
        if allows limit (frames.length + 1 + Written.nestingFields fields) then
          run? limit ⟨frames, .complete (.object (done.reverse ++ (key, last) :: fields))⟩ rest
        else none
  | [], done, key, last, frames, rest, room => by
    rw [tokensFields, Written.nestingFields, Nat.add_zero, if_pos room, ← List.reverse_cons]
    rfl
  | (name, value) :: fields, done, key, last, frames, rest, room => by
    rw [tokensFields, Written.nestingFields, List.cons_append, List.cons_append, List.cons_append,
      List.append_assoc]
    change run? limit ⟨.field name ((key, last) :: done) :: frames, .value⟩ _ = _
    rw [run?_tokens value (.field name ((key, last) :: done) :: frames) _ (.inl rfl) room,
      run?_tokensFields fields rest room, ite_ite_none, allows_add_max, List.reverse_cons,
      List.append_assoc, List.singleton_append]
    rfl

end

/-! ## The limit -/

/-- Every open container and every value in one is within the limit. -/
def FramesFit (limit : Option Nat) : List Frame → Prop
  | [] => True
  | frame :: below =>
    (∀ value ∈ frame.values, allows limit (below.length + 1 + value.nesting) = true) ∧
      allows limit (below.length + 1) = true ∧ FramesFit limit below

/-- Everything that was read is within the limit. -/
structure Fits (limit : Option Nat) (assembly : Assembly) : Prop where
  frames : FramesFit limit assembly.frames
  value : ∀ value, assembly.phase = .complete value →
    allows limit (assembly.frames.length + value.nesting) = true

theorem allows_length {frames : List Frame} (fit : FramesFit limit frames) :
    allows limit frames.length = true := by
  cases frames with
  | nil => cases limit <;> rfl
  | cons frame below => exact fit.2.1

/-- An array is within the limit if it was when it was opened and its items are within it. -/
theorem allows_array {k : Nat} (room : allows limit (k + 1) = true) {items : List Written}
    (each : ∀ item ∈ items, allows limit (k + 1 + item.nesting) = true) :
    allows limit (k + (Written.array items).nesting) = true := by
  rw [Written.nesting, Nat.add_comm _ 1, ← Nat.add_assoc]
  induction items with
  | nil => exact room
  | cons item items ih =>
    rw [Written.nestingItems, allows_add_max, each item List.mem_cons_self,
      ih fun other mem => each other (List.mem_cons_of_mem _ mem)]
    rfl

/-- An object is within the limit if it was when it was opened and its values are within it. -/
theorem allows_object {k : Nat} (room : allows limit (k + 1) = true)
    {fields : List (Option String × Written)}
    (each : ∀ value ∈ fields.map Prod.snd, allows limit (k + 1 + value.nesting) = true) :
    allows limit (k + (Written.object fields).nesting) = true := by
  rw [Written.nesting, Nat.add_comm _ 1, ← Nat.add_assoc]
  induction fields with
  | nil => exact room
  | cons field fields ih =>
    rw [List.map_cons, List.forall_mem_cons] at each
    rw [Written.nestingFields, allows_add_max, each.1, ih each.2]
    rfl

/-- A value that has just begun is within the limit. -/
theorem fits_of_begin? {frames : List Frame} {token : Token} {next : Assembly}
    (fit : FramesFit limit frames) (begins : begin? limit frames token = some next) :
    Fits limit next := by
  have scalar : ∀ value : Written, value.nesting = 0 → Fits limit ⟨frames, .complete value⟩ := by
    intro value flat
    refine ⟨fit, fun other same => ?_⟩
    cases same
    rw [flat]
    exact allows_length fit
  have container : ∀ (frame : Frame) (phase : Phase), frame.values = [] →
      (∀ value, phase ≠ .complete value) → enter? limit frames frame phase = some next →
      Fits limit next := by
    intro frame phase empty incomplete enters
    have opened : allows limit (frames.length + 1) = true ∧ next = ⟨frame :: frames, phase⟩ := by
      cases limit with
      | none => exact ⟨rfl, (Option.some.inj enters).symm⟩
      | some most =>
        rw [enter?] at enters
        split at enters
        · rename_i room
          exact ⟨decide_eq_true room, (Option.some.inj enters).symm⟩
        · cases enters
    obtain ⟨room, rfl⟩ := opened
    refine ⟨⟨?_, room, fit⟩, fun value same => absurd same (incomplete value)⟩
    rw [empty]
    exact List.forall_mem_nil _
  cases token with
  | openArray => exact container _ _ rfl (by simp) begins
  | openObject => exact container _ _ rfl (by simp) begins
  | null =>
    cases begins
    exact scalar _ rfl
  | boolean value =>
    cases begins
    exact scalar _ rfl
  | numeral value =>
    cases begins
    exact scalar _ rfl
  | string content =>
    cases begins
    exact scalar _ rfl
  | _ => cases begins

/-- A step keeps within the limit. -/
theorem fits_of_step? {assembly next : Assembly} {token : Token} (fits : Fits limit assembly)
    (step : step? limit assembly token = some next) : Fits limit next := by
  rcases fits with ⟨fit, complete⟩
  fun_cases step? limit assembly token with
  -- A value begins.
  | case1 frames => exact fits_of_begin? fit step
  | case3 frames _ =>
    have begins : begin? limit frames token = some next := by
      rw [← step, step?]
      assumption
    exact fits_of_begin? fit begins
  -- A container ends that has nothing in it.
  | case2 frames =>
    cases step
    refine ⟨fit.2.2, fun value same => ?_⟩
    cases same
    exact allows_array fit.2.1 (List.forall_mem_nil _)
  | case4 frames =>
    cases step
    refine ⟨fit.2.2, fun value same => ?_⟩
    cases same
    exact allows_object fit.2.1 (List.forall_mem_nil _)
  -- A key is read, then its colon: what the frames hold stays the same.
  | case5 done frames key =>
    have opened : next = ⟨.field key done :: frames, .key⟩ := by
      cases done <;> exact (Option.some.inj step).symm
    subst opened
    exact ⟨fit, fun value same => by cases same⟩
  | case6 done frames key =>
    cases step
    exact ⟨fit, fun value same => by cases same⟩
  | case7 frames =>
    cases step
    exact ⟨fit, fun value same => by cases same⟩
  -- After a value the frame takes it over, and at the end of the container they all become its
  -- content.
  | case8 done frames last =>
    cases step
    refine ⟨⟨?_, fit.2⟩, fun value same => by cases same⟩
    exact List.forall_mem_cons.2 ⟨complete last rfl, fit.1⟩
  | case9 done frames last =>
    cases step
    refine ⟨fit.2.2, fun value same => ?_⟩
    cases same
    have held : ∀ item ∈ last :: done, allows limit (frames.length + 1 + item.nesting) = true :=
      List.forall_mem_cons.2 ⟨complete last rfl, fit.1⟩
    exact allows_array fit.2.1 fun item mem => held item (List.mem_reverse.1 mem)
  | case10 key done frames last =>
    cases step
    refine ⟨⟨?_, fit.2⟩, fun value same => by cases same⟩
    exact List.forall_mem_cons.2 ⟨complete last rfl, fit.1⟩
  | case11 key done frames last =>
    cases step
    refine ⟨fit.2.2, fun value same => ?_⟩
    cases same
    have held : ∀ value ∈ ((key, last) :: done).map Prod.snd,
        allows limit (frames.length + 1 + value.nesting) = true :=
      List.forall_mem_cons.2 ⟨complete last rfl, fit.1⟩
    refine allows_object fit.2.1 fun value mem => held value ?_
    rwa [List.map_reverse, List.mem_reverse] at mem
  -- Nothing else is a step.
  | case12 =>
    rw [step?] at step
    · cases step
    all_goals assumption

/-- A run keeps within the limit. -/
theorem fits_of_run? {tokens : List Token} {assembly last : Assembly} (fits : Fits limit assembly)
    (run : run? limit assembly tokens = some last) : Fits limit last := by
  induction tokens generalizing assembly with
  | nil =>
    cases run
    exact fits
  | cons token rest ih =>
    rw [run?] at run
    split at run
    · rename_i next step
      exact ih (fits_of_step? fits step) run
    · cases run

end Assembly

/-- The document of a text is within the limit. -/
theorem Written.allows_of_ofText? {limit : Option Nat} {text : String} {written : Written}
    (read : Written.ofText? limit text = some written) : allows limit written.nesting = true := by
  obtain ⟨tokens, -, assembled⟩ := Option.bind_eq_some_iff.1 read
  obtain ⟨last, run, whole⟩ := Option.bind_eq_some_iff.1 assembled
  have start : Assembly.Fits limit .start := ⟨trivial, fun value same => by cases same⟩
  have fits := Assembly.fits_of_run? start run
  rcases last with ⟨frames, phase⟩
  cases frames with
  | cons frame below => cases whole
  | nil =>
    cases phase with
    | complete value =>
      cases whole
      have allowed := fits.value written rfl
      rwa [List.length_nil, Nat.zero_add] at allowed
    | _ => cases whole

end SequenceCheck.Json
