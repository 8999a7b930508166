/-!
# Kinds of node

A sequence is a tree of nodes, and each node has one of a fixed list of kinds: a control
structure, a motion, a message, a value, a declaration and so on. This module holds the kinds in
their fixed order, the name under which a document writes each of them, and the reading of such
names.

Main statements: a name read back gives its kind (`ofName?_name`), only names of kinds are read
(`name_of_ofName?_eq_some`), and `all` lists every kind (`mem_all`).
-/

set_option autoImplicit false

namespace SequenceCheck

/-- What a node of a sequence is. The order of the constructors is the order of kinds. -/
inductive Kind where
  -- Control flow
  | sequence
  | conditional
  | execute
  | executeScript
  | assertion
  | wait
  | lua
  -- Motion
  | moveAbsolute
  | moveRelative
  | findHome
  | home
  | zero
  | calibrate
  -- Pins and peripherals
  | readPin
  | writePin
  | togglePin
  | namedPin
  | setServoAngle
  -- Messages and the device
  | sendMessage
  | channel
  | takePhoto
  | readStatus
  | sync
  | reboot
  | powerOff
  | emergencyLock
  | emergencyUnlock
  | factoryReset
  | checkUpdates
  | flashFirmware
  | setUserEnv
  | changeOwnership
  | dumpInfo
  | installFarmware
  | updateFarmware
  | removeFarmware
  | installFirstPartyFarmware
  -- Resources
  | resource
  | resourceUpdate
  -- Remote calls
  | rpcRequest
  | rpcOk
  | rpcError
  | explanation
  -- Values
  | coordinate
  | point
  | pointGroup
  | tool
  | nothing
  | pair
  -- Variables and scopes
  | identifier
  | scopeDeclaration
  | parameterDeclaration
  | variableDeclaration
  | parameterApplication
  -- Entry points
  | internalEntryPoint
  | internalFarmEvent
  | internalRegimen
  deriving DecidableEq, Repr

namespace Kind

/-- Every kind, in order. -/
def all : List Kind :=
  [.sequence, .conditional, .execute, .executeScript, .assertion, .wait, .lua, .moveAbsolute,
   .moveRelative, .findHome, .home, .zero, .calibrate, .readPin, .writePin, .togglePin,
   .namedPin, .setServoAngle, .sendMessage, .channel, .takePhoto, .readStatus, .sync, .reboot,
   .powerOff, .emergencyLock, .emergencyUnlock, .factoryReset, .checkUpdates, .flashFirmware,
   .setUserEnv, .changeOwnership, .dumpInfo, .installFarmware, .updateFarmware, .removeFarmware,
   .installFirstPartyFarmware, .resource, .resourceUpdate, .rpcRequest, .rpcOk, .rpcError,
   .explanation, .coordinate, .point, .pointGroup, .tool, .nothing, .pair, .identifier,
   .scopeDeclaration, .parameterDeclaration, .variableDeclaration, .parameterApplication,
   .internalEntryPoint, .internalFarmEvent, .internalRegimen]

/-- The name of a kind in documents. -/
def name : Kind → String
  | .sequence => "sequence"
  | .conditional => "_if"
  | .execute => "execute"
  | .executeScript => "execute_script"
  | .assertion => "assertion"
  | .wait => "wait"
  | .lua => "lua"
  | .moveAbsolute => "move_absolute"
  | .moveRelative => "move_relative"
  | .findHome => "find_home"
  | .home => "home"
  | .zero => "zero"
  | .calibrate => "calibrate"
  | .readPin => "read_pin"
  | .writePin => "write_pin"
  | .togglePin => "toggle_pin"
  | .namedPin => "named_pin"
  | .setServoAngle => "set_servo_angle"
  | .sendMessage => "send_message"
  | .channel => "channel"
  | .takePhoto => "take_photo"
  | .readStatus => "read_status"
  | .sync => "sync"
  | .reboot => "reboot"
  | .powerOff => "power_off"
  | .emergencyLock => "emergency_lock"
  | .emergencyUnlock => "emergency_unlock"
  | .factoryReset => "factory_reset"
  | .checkUpdates => "check_updates"
  | .flashFirmware => "flash_firmware"
  | .setUserEnv => "set_user_env"
  | .changeOwnership => "change_ownership"
  | .dumpInfo => "dump_info"
  | .installFarmware => "install_farmware"
  | .updateFarmware => "update_farmware"
  | .removeFarmware => "remove_farmware"
  | .installFirstPartyFarmware => "install_first_party_farmware"
  | .resource => "resource"
  | .resourceUpdate => "resource_update"
  | .rpcRequest => "rpc_request"
  | .rpcOk => "rpc_ok"
  | .rpcError => "rpc_error"
  | .explanation => "explanation"
  | .coordinate => "coordinate"
  | .point => "point"
  | .pointGroup => "point_group"
  | .tool => "tool"
  | .nothing => "nothing"
  | .pair => "pair"
  | .identifier => "identifier"
  | .scopeDeclaration => "scope_declaration"
  | .parameterDeclaration => "parameter_declaration"
  | .variableDeclaration => "variable_declaration"
  | .parameterApplication => "parameter_application"
  | .internalEntryPoint => "internal_entry_point"
  | .internalFarmEvent => "internal_farm_event"
  | .internalRegimen => "internal_regimen"

/-- The kind of a given name. -/
def ofName? (name : String) : Option Kind :=
  all.find? fun kind => kind.name == name

/-- The place of a kind in `all`, counted from zero. -/
def index (kind : Kind) : Nat :=
  all.idxOf kind

/-- The words of a kind's name, each with a capital letter and run together, as in
`MoveAbsolute`. -/
def title (kind : Kind) : String :=
  String.join ((kind.name.splitOn "_").map String.capitalize)

instance : ToString Kind := ⟨name⟩

/-- The list of kinds has every kind. -/
theorem mem_all (kind : Kind) : kind ∈ all := by
  cases kind <;> decide

/-- The list of kinds has no kind twice. -/
theorem nodup_all : all.Nodup := by
  decide

/-- The name of a kind, read back, gives the kind. -/
@[simp]
theorem ofName?_name (kind : Kind) : ofName? kind.name = some kind := by
  cases kind <;> decide +kernel

/-- Only the name of a kind is read as that kind. -/
theorem name_of_ofName?_eq_some {name : String} {kind : Kind} (h : ofName? name = some kind) :
    kind.name = name := by
  simpa using List.find?_some h

end Kind

end SequenceCheck
