import SequenceCheck.Grammar.Basic

/-!
# Devices and their rules

A farm device owns tools and sequences, known by number. The rules of this module are the ones that
grammars for such devices attach: an argument must name something that the device owns, and a text
must be one of a list.
-/

set_option autoImplicit false

namespace SequenceCheck

/-- What a device owns. -/
structure Device where
  tools : List Int64
  sequences : List Int64
  deriving DecidableEq, Repr

namespace Rule

variable {D : Type}

/-- The rule that an integer under a key is the number of something that the device owns. What is
owned is named in the objection; values other than integers are not looked at. -/
def owned (numbers : D → List Int64) (what : String) : ArgRule D
  | _, .leaf leaf, device =>
    match leaf.value with
    | .integer id =>
      if (numbers device).contains id then .ok ()
      else
        .error <| .custom <|
          what ++ " #" ++ (Value.integer id).display ++ " does not belong to this device"
    | _ => .ok ()
  | _, _, _ => .ok ()

/-- The rule that the text under a key of a node is one of a list. Where no text stands under the
key, it counts as the empty text. -/
def oneOf (key : String) (texts : List String) : NodeRule D :=
  fun _ node _ =>
    let found := ((node.leafValue? key).bind Value.text?).getD ""
    if texts.contains found then .ok ()
    else .error <| .custom <| "'" ++ found ++ "' is not a valid " ++ key

end Rule

end SequenceCheck
