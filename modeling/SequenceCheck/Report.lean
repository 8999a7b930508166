import SequenceCheck.Outcome
import SequenceCheck.Tree.Position
import SequenceCheck.Diagnostic

/-!
# Reports

A report says what a check, or a part of one, has done: the events on the way, and the offence that
ended it if there was one. Reports are outcomes: parts that follow one another are joined by `>>`,
which leaves out everything that comes after an offence.
-/

set_option autoImplicit false

namespace SequenceCheck

/-- What happens in a check: a node is entered, or a rule is asked about an argument of a node or
about a node. -/
inductive Event (tree : Tree) where
  | entered (node : tree.NodeAt)
  | argRule (owner : tree.NodeAt) (key : String) (arg : tree.ArgAt)
  | nodeRule (node : tree.NodeAt)

/-- What a check, or a part of one, has done: the events in order, and the offence that ended it. -/
structure Report (tree : Tree) where
  events : List (Event tree)
  offence : Option Diagnostic

namespace Report

variable {tree : Tree}

/-- Nothing to report. -/
def clear : Report tree :=
  ⟨[], none⟩

/-- The report of an event that is no offence. -/
def event (event : Event tree) : Report tree :=
  ⟨[event], none⟩

/-- The report of a step without events. -/
def ofStep : Except Diagnostic Unit → Report tree
  | .ok () => clear
  | .error diagnostic => ⟨[], some diagnostic⟩

/-- Put the events of an earlier part before those of a report. -/
def after (earlier : List (Event tree)) (report : Report tree) : Report tree :=
  ⟨earlier ++ report.events, report.offence⟩

/-- Go on with another part, unless there was an offence. -/
def andThen (report : Report tree) (next : Unit → Report tree) : Report tree :=
  match report.offence with
  | some _ => report
  | none => after report.events (next ())

instance : AndThen (Report tree) := ⟨andThen⟩

/-- Nothing comes after an offence. -/
theorem andThen_of_offence {report : Report tree} {diagnostic : Diagnostic}
    (next : Report tree) (h : report.offence = some diagnostic) : (report >> next) = report := by
  change andThen report (fun _ => next) = report
  rw [andThen, h]

/-- Without an offence the next part follows. -/
theorem andThen_of_clear {report : Report tree} (next : Report tree)
    (h : report.offence = none) :
    (report >> next) = ⟨report.events ++ next.events, next.offence⟩ := by
  change andThen report (fun _ => next) = _
  rw [andThen, h, after]

/-- Parts that follow one another may be grouped in any way. -/
theorem andThen_assoc (first second third : Report tree) :
    ((first >> second) >> third) = (first >> (second >> third)) := by
  cases hfirst : first.offence with
  | some _ =>
    rw [andThen_of_offence second hfirst, andThen_of_offence third hfirst,
      andThen_of_offence (second >> third) hfirst]
  | none =>
    rw [andThen_of_clear second hfirst, andThen_of_clear (second >> third) hfirst]
    cases hsecond : second.offence with
    | some _ =>
      rw [andThen_of_offence third hsecond, andThen_of_offence third rfl, hsecond]
    | none =>
      rw [andThen_of_clear third hsecond, andThen_of_clear third rfl]
      simp only [List.append_assoc]

instance : Outcome (Report tree) where
  clear := clear
  clear_andThen _ := rfl
  andThen_clear report := by
    cases h : report.offence with
    | some _ => exact andThen_of_offence clear h
    | none =>
      rw [andThen_of_clear clear h]
      change Report.mk (report.events ++ []) none = ⟨report.events, report.offence⟩
      rw [List.append_nil, h]
  andThen_assoc := andThen_assoc

end Report

end SequenceCheck
