/-!
# Outcomes

Work that is done step by step has an outcome after each step, and the outcome of a step may put an
end to the whole. Outcomes are joined by `>>`: what would come after an end is not asked for.
`Outcome.clear` is the outcome of a step that does nothing.

A class of outcomes is lawful: `clear` makes no difference on either side of `>>`, and how steps are
grouped makes none either. So the outcome of a list of steps is `Outcome.sequence`, whatever the
order in which they were joined (`sequence_append`).
-/

set_option autoImplicit false

namespace SequenceCheck

/-- What steps come to, if each step may put an end to the whole. -/
class Outcome (ρ : Type) extends AndThen ρ where
  clear : ρ
  clear_andThen (next : ρ) : (clear >> next) = next
  andThen_clear (first : ρ) : (first >> clear) = first
  andThen_assoc (first second third : ρ) :
    ((first >> second) >> third) = (first >> (second >> third))

namespace Outcome

variable {ρ : Type} [Outcome ρ]

/-- One step after the other, up to the first that puts an end to the whole. -/
def sequence : List ρ → ρ
  | [] => clear
  | outcome :: rest => outcome >> sequence rest

@[simp]
theorem sequence_nil : sequence ([] : List ρ) = clear :=
  rfl

@[simp]
theorem sequence_cons (outcome : ρ) (rest : List ρ) :
    sequence (outcome :: rest) = (outcome >> sequence rest) :=
  rfl

/-- Steps in two groups come to the same as all of them in one. -/
theorem sequence_append (steps others : List ρ) :
    sequence (steps ++ others) = (sequence steps >> sequence others) := by
  induction steps with
  | nil => exact (clear_andThen _).symm
  | cons step rest ih => rw [List.cons_append, sequence_cons, ih, sequence_cons, andThen_assoc]

end Outcome

/-- A step that reads and changes a state, and may put an end to the whole with an error. -/
def Stateful (σ ε : Type) :=
  σ → σ × Except ε Unit

namespace Stateful

variable {σ ε : Type}

/-- Go on from the state that a step leaves, unless the step ended with an error. -/
def andThen (first : Stateful σ ε) (next : Unit → Stateful σ ε) : Stateful σ ε :=
  fun state =>
    match first state with
    | (after, .ok ()) => next () after
    | (after, .error error) => (after, .error error)

instance : Outcome (Stateful σ ε) where
  andThen := andThen
  clear := fun state => (state, .ok ())
  clear_andThen _ := rfl
  andThen_clear first := by
    funext state
    change andThen first _ state = first state
    unfold andThen
    rcases first state with ⟨after, _ | _⟩ <;> rfl
  andThen_assoc first second third := by
    funext state
    change andThen (andThen first fun _ => second) _ state = andThen first _ state
    simp only [andThen]
    rcases first state with ⟨after, _ | _⟩ <;> rfl

end Stateful

end SequenceCheck
