import SequenceCheck.Outline.Basic

/-!
# Building outlines step by step

A `BuildStep` works on a stack of outlines whose top is the one under construction. Steps open a new
outline, change the top, or close the top by making it part of the outline below it. A step that
lacks an outline to work on does nothing.
-/

set_option autoImplicit false

namespace SequenceCheck

/-- A step in the construction of outlines. -/
inductive BuildStep where
  /-- Open an outline of a kind. -/
  | openKind (kind : Kind)
  /-- Set an argument of the top. -/
  | setArg (key : String) (arg : Arg Outline Value)
  /-- Take an argument out of the top. -/
  | dropArg (key : String)
  /-- Set the comment of the top. -/
  | setComment (comment : String)
  /-- Close the top as an argument of the outline below it. -/
  | closeAsArg (key : String)
  /-- Close the top as some copies of a child of the outline below it. -/
  | closeAsChildren (copies : Nat)

/-- Take a step; the top is the first of the stack. -/
def BuildStep.run : BuildStep → List Outline → List Outline
  | .openKind kind, stack => .ofKind kind :: stack
  | .setArg key arg, top :: rest => top.withArg key arg :: rest
  | .dropArg key, top :: rest => top.withoutArg key :: rest
  | .setComment comment, top :: rest => top.withComment comment :: rest
  | .closeAsArg key, top :: below :: rest => below.withArg key (.node top) :: rest
  | .closeAsChildren copies, top :: below :: rest =>
    below.withChildren (List.replicate copies top) :: rest
  | _, stack => stack

end SequenceCheck
