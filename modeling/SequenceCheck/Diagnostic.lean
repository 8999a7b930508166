import SequenceCheck.Kind
import SequenceCheck.Text.Listing
import SequenceCheck.Text.Template

/-!
# Diagnostics

A check that fails answers with one diagnostic: what is wrong (`Fault`), a message for people, and
the node where it is wrong if that is known. The functions of this module are the only places that
word a message. Most messages are templates with holes for kinds, keys and lists.
-/

set_option autoImplicit false

namespace SequenceCheck

/-- What is wrong with a tree. -/
inductive Fault where
  /-- A required argument is absent. -/
  | missingArg
  /-- A node has arguments beyond the required ones. -/
  | extraArgs
  /-- The kind or type of a value is not allowed in its place. -/
  | badLeaf
  /-- An argument is neither a node nor a scalar. -/
  | malformed
  /-- The kind of a body child is not allowed under its parent. -/
  | badBody
  /-- No enclosing declaration has the label of an identifier. -/
  | unboundVariable
  /-- The grammar does not define a kind of node. -/
  | unknownNode
  /-- The grammar does not define an argument. -/
  | unknownArg
  /-- A rule attached to the grammar objects. -/
  | custom
  deriving DecidableEq, Repr

namespace Fault

/-- Every fault, in order. -/
def all : List Fault :=
  [.missingArg, .extraArgs, .badLeaf, .malformed, .badBody, .unboundVariable, .unknownNode,
    .unknownArg, .custom]

/-- The name of a fault in reports. -/
def name : Fault → String
  | .missingArg => "missing_arg"
  | .extraArgs => "extra_args"
  | .badLeaf => "bad_leaf"
  | .malformed => "malformed"
  | .badBody => "bad_body"
  | .unboundVariable => "unbound_variable"
  | .unknownNode => "unknown_node"
  | .unknownArg => "unknown_arg"
  | .custom => "custom"

/-- The fault that has a name in reports. -/
def ofName? (name : String) : Option Fault :=
  all.find? fun fault => fault.name == name

end Fault

/-- What a failed check answers: the fault, a message, and the node if it is known. -/
structure Diagnostic where
  fault : Fault
  message : String
  node : Option Nat
  deriving DecidableEq, Repr

namespace Diagnostic

open Text

/-- A diagnostic that names no node. -/
def of (fault : Fault) (message : String) : Diagnostic :=
  ⟨fault, message, none⟩

/-- Point at a node, unless the diagnostic already points at one. -/
def located (node : Nat) (diagnostic : Diagnostic) : Diagnostic :=
  { diagnostic with node := diagnostic.node.or (some node) }

/-- A rule's objection in its own words. -/
def custom (message : String) : Diagnostic :=
  of .custom message

/-- The wording for an absent argument. -/
def missingArgTemplate : Template :=
  [.text "Expected node '", .hole "kind", .text "' to have a '", .hole "key",
    .text "', but got: ", .hole "present", .text "."]

/-- An absent argument of a node that has the keys `present`. -/
def missingArg (kind : Kind) (key : String) (present : List String) : Diagnostic :=
  of .missingArg <| missingArgTemplate.fillInTurn
    [("kind", kind.name), ("key", key),
      ("present", if present.isEmpty then "nothing" else String.intercalate ", " present)]

/-- The wording for arguments beyond the required ones. -/
def extraArgsTemplate : Template :=
  [.text "'", .hole "kind", .text "' has unexpected arguments: ", .hole "extras",
    .text ". Allowed arguments: ", .hole "allowed"]

/-- Arguments of a node beyond the required ones. -/
def extraArgs (kind : Kind) (extras allowed : List String) : Diagnostic :=
  of .extraArgs <| extraArgsTemplate.fillInTurn
    [("kind", kind.name), ("extras", quotedList extras), ("allowed", quotedList allowed)]

/-- The wording for a value that is not allowed in its place. -/
def badLeafTemplate : Template :=
  [.text "Expected leaf '", .hole "kind", .text "' within '", .hole "parent_kind",
    .text "' to be one of: ", .hole "allowed", .text " but got ", .hole "actual"]

/-- Wordings that say more about a value of a certain name under a certain kind of node. Where a
variable has to be given a value, `nothing` stands for a value that nobody filled in. -/
def friendlyTemplates : List ((String × Kind) × Template) :=
  [(("nothing", .variableDeclaration), [.text "You must provide a value for all parameters"])]

/-- A value that is not allowed in its place. The name is the kind of a node, or the key of a
leaf. -/
def badLeaf (name : String) (parent : Kind) (allowed actual : String) : Diagnostic :=
  of .badLeaf <| ((friendlyTemplates.lookup (name, parent)).getD badLeafTemplate).fillInTurn
    [("kind", name), ("parent_kind", parent.name), ("allowed", allowed), ("actual", actual)]

/-- The wording for an argument that is neither a node nor a scalar. -/
def malformedTemplate : Template :=
  [.text "Expected '", .hole "key", .text "' to be a node or leaf, but it was neither"]

/-- An argument that is neither a node nor a scalar. -/
def malformed (key : String) : Diagnostic :=
  of .malformed <| malformedTemplate.fillInTurn [("key", key)]

/-- The wording for a body child that is not allowed under its parent. -/
def badBodyTemplate : Template :=
  [.text "Body of '", .hole "parent", .text "' node contains '", .hole "child",
    .text "' node at index ", .hole "index", .text ". Expected one of: ", .hole "allowed"]

/-- A body child that is not allowed under its parent. -/
def badBody (parent child : Kind) (index : Nat) (allowed : String) : Diagnostic :=
  of .badBody <| badBodyTemplate.fillInTurn
    [("parent", parent.name), ("child", child.name), ("index", toString index),
      ("allowed", allowed)]

/-- The wording for an identifier without a declaration. -/
def unboundVariableTemplate : Template :=
  [.text "Unbound variable: ", .hole "label"]

/-- An identifier without a declaration. -/
def unboundVariable (label : String) : Diagnostic :=
  of .unboundVariable <| unboundVariableTemplate.fillInTurn [("label", label)]

/-- A kind of node that the grammar does not define. -/
def unknownNode (kind : Kind) : Diagnostic :=
  of .unknownNode <| "Can't find validation rules for node '" ++ kind.name ++ "'"

/-- An argument that the grammar does not define. -/
def unknownArg (key : String) : Diagnostic :=
  of .unknownArg <| "Can't find validation rules for argument '" ++ key ++ "'"

end Diagnostic

end SequenceCheck
