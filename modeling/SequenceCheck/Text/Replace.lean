/-!
# Replacing every occurrence of a pattern

`replaceAll pattern replacement text` reads `text` from the left and writes `replacement` for each
occurrence of `pattern` that does not overlap one already replaced. The replacement is not read
again. An empty pattern occurs nowhere.

The recursion goes over the characters of `text`; the counter `skip` holds how many of them still
belong to the occurrence replaced last.
-/

set_option autoImplicit false

namespace SequenceCheck.Text

/-- Replace the occurrences of `pattern` that begin after the next `skip` characters, and drop
these. -/
def replaceAfter (pattern replacement : List Char) : Nat → List Char → List Char
  | _, [] => []
  | skip + 1, _ :: rest => replaceAfter pattern replacement skip rest
  | 0, c :: rest =>
    if pattern ≠ [] ∧ pattern.isPrefixOf (c :: rest) then
      replacement ++ replaceAfter pattern replacement (pattern.length - 1) rest
    else
      c :: replaceAfter pattern replacement 0 rest

/-- Replace every occurrence of `pattern`, from the left and without overlaps. -/
def replaceAll (pattern replacement text : String) : String :=
  String.ofList (replaceAfter pattern.toList replacement.toList 0 text.toList)

@[simp]
theorem replaceAfter_nil (pattern replacement : List Char) (skip : Nat) :
    replaceAfter pattern replacement skip [] = [] := by
  cases skip <;> rfl

theorem replaceAfter_of_isPrefixOf {pattern replacement rest : List Char} {c : Char}
    (nonempty : pattern ≠ []) (found : pattern.isPrefixOf (c :: rest)) :
    replaceAfter pattern replacement 0 (c :: rest) =
      replacement ++ replaceAfter pattern replacement (pattern.length - 1) rest := by
  simp [replaceAfter, nonempty, found]

theorem replaceAfter_of_not_isPrefixOf {pattern replacement rest : List Char} {c : Char}
    (absent : pattern.isPrefixOf (c :: rest) = false) :
    replaceAfter pattern replacement 0 (c :: rest) =
      c :: replaceAfter pattern replacement 0 rest := by
  simp [replaceAfter, absent]

end SequenceCheck.Text
