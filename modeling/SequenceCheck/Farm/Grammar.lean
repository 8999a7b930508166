import SequenceCheck.Farm.Device
import SequenceCheck.Grammar.Schema

/-!
# The grammar of farm sequences

The kinds of node and the argument keys that the sequences of a farm device are made of, with the
rules that tools and sequences belong to the device and that messages are of a known type.
-/

set_option autoImplicit false

namespace SequenceCheck.Farm

/-- What may stand under each argument key. -/
def args : List ArgSchema :=
  [⟨"locals", [.scopeDeclaration], []⟩,
    ⟨"version", [], [.integer]⟩,
    ⟨"label", [], [.string]⟩,
    ⟨"data_value", [.coordinate, .point, .tool, .identifier], []⟩,
    ⟨"default_value", [.coordinate, .point, .tool], []⟩,
    ⟨"location", [.coordinate, .point, .tool, .identifier], []⟩,
    ⟨"offset", [.coordinate, .identifier], []⟩,
    ⟨"speed", [], [.integer]⟩,
    ⟨"x", [], [.integer, .float]⟩,
    ⟨"y", [], [.integer, .float]⟩,
    ⟨"z", [], [.integer, .float]⟩,
    ⟨"tool_id", [], [.integer]⟩,
    ⟨"pointer_type", [], [.string]⟩,
    ⟨"pointer_id", [], [.integer]⟩,
    ⟨"milliseconds", [], [.integer]⟩,
    ⟨"message", [], [.string]⟩,
    ⟨"message_type", [], [.string]⟩,
    ⟨"channel_name", [], [.string]⟩,
    ⟨"sequence_id", [], [.integer]⟩,
    ⟨"lhs", [], [.string]⟩,
    ⟨"op", [], [.string]⟩,
    ⟨"rhs", [], [.integer]⟩,
    ⟨"_then", [.execute, .nothing], []⟩,
    ⟨"_else", [.execute, .nothing], []⟩,
    ⟨"pin_number", [], [.integer]⟩,
    ⟨"pin_value", [], [.integer]⟩,
    ⟨"pin_mode", [], [.integer]⟩]

/-- What a node of each kind consists of. -/
def nodes : List NodeSchema :=
  [⟨.sequence, ["locals", "version"],
      [.moveAbsolute, .wait, .sendMessage, .conditional, .execute, .takePhoto, .writePin]⟩,
    ⟨.scopeDeclaration, [], [.variableDeclaration, .parameterDeclaration]⟩,
    ⟨.variableDeclaration, ["label", "data_value"], []⟩,
    ⟨.parameterDeclaration, ["label", "default_value"], []⟩,
    ⟨.parameterApplication, ["label", "data_value"], []⟩,
    ⟨.identifier, ["label"], []⟩,
    ⟨.coordinate, ["x", "y", "z"], []⟩,
    ⟨.tool, ["tool_id"], []⟩,
    ⟨.point, ["pointer_type", "pointer_id"], []⟩,
    ⟨.nothing, [], []⟩,
    ⟨.moveAbsolute, ["location", "offset", "speed"], []⟩,
    ⟨.wait, ["milliseconds"], []⟩,
    ⟨.sendMessage, ["message", "message_type"], [.channel]⟩,
    ⟨.channel, ["channel_name"], []⟩,
    ⟨.conditional, ["lhs", "op", "rhs", "_then", "_else"], []⟩,
    ⟨.execute, ["sequence_id"], [.parameterApplication]⟩,
    ⟨.takePhoto, [], []⟩,
    ⟨.writePin, ["pin_number", "pin_value", "pin_mode"], []⟩]

/-- The grammar without its rules. -/
def entries : Grammar Device :=
  nodes.foldl (fun grammar node => grammar.defineNode node.kind node.keys node.children) <|
    args.foldl (fun grammar arg => grammar.defineArg arg.name arg.kinds arg.types) .empty

/-- The types that a message may have. -/
def messageTypes : List String :=
  ["info", "success", "warn", "error", "fun"]

/-- The grammar of farm sequences. -/
def grammar : Grammar Device :=
  ((entries.attachArgRule "tool_id" (Rule.owned Device.tools "Tool")).attachArgRule
    "sequence_id" (Rule.owned Device.sequences "Sequence")).attachNodeRule
      .sendMessage (Rule.oneOf "message_type" messageTypes)

end SequenceCheck.Farm
