import Ros2Dispatcher.Controller.Types

/-!
# Names and selection files

The anonymous-namespace helpers of `dispatcher_controller_node.cpp` (the names generated
for a tool and its output topic, the decoding of one parameter value) and
`load_file_selection` on the document the file holds.

A YAML document is a tree of scalars, sequences and maps. Looking up a key in a scalar and
converting a node that has the wrong shape throw, as in yaml-cpp, and the loader lets most
of these exceptions escape: `Failure.thrown` keeps them apart from the failures that the
source reports through `error_out`. How a scalar's text converts to a bool, an integer or a
double is yaml-cpp's own and stays a parameter, `YamlCpp`.
-/

namespace Ros2Dispatcher

/-- The two ways a C++ procedure of the controller fails: it returns false and explains
itself in `error_out`, or an exception leaves it. -/
inductive Failure
  | error (message : String)
  | thrown (what : String)
deriving DecidableEq, Repr

/-! ### Generated names -/

/-- `sanitize_topic_segment`: slashes become underscores, leading underscores go, and an
empty result becomes `topic`. -/
def sanitizeTopicSegment (topic : String) : String :=
  let sanitized := (topic.toList.map fun c => if c = '/' then '_' else c).dropWhile (· = '_')
  if sanitized.isEmpty then "topic" else String.ofList sanitized

/-- The part of `name` after its last colon, unless there is no colon or nothing follows
it (`find_last_of("::")` finds the last single colon). -/
def afterLastColon (name : String) : String :=
  let suffix := (name.toList.reverse.takeWhile (· ≠ ':')).reverse
  if suffix.isEmpty then name else String.ofList suffix

/-- `default_tool_node_name`. -/
def defaultToolNodeName (pluginName topicName : String) : String :=
  sanitizeTopicSegment (afterLastColon pluginName ++ "_" ++ topicName)

/-- `default_output_topic`. -/
def defaultOutputTopic (inputTopic nodeName : String) : String :=
  let pre := if nodeName.isEmpty then "topic_tools" else nodeName
  let normalized := match inputTopic.toList with
    | '/' :: rest => String.ofList rest
    | _ => inputTopic
  if normalized.isEmpty then "/" ++ pre else "/" ++ pre ++ "/" ++ normalized

/-! ### YAML documents -/

/-- A YAML document. -/
inductive Yaml
  | null
  | scalar (text : String)
  | sequence (items : List Yaml)
  | map (entries : List (Yaml × Yaml))

/-- yaml-cpp's scalar conversions: `none` is a thrown `BadConversion`. `nullAsString` is
what a null node converts to as a string, which differs between yaml-cpp versions. -/
structure YamlCpp where
  asBool : String → Option Bool
  asInt64 : String → Option Int
  asDouble : String → Option UInt64
  nullAsString : Option String

namespace Yaml

variable (cpp : YamlCpp)

/-- Whether a node equals the string `key`, as a map key. -/
def isKey (key : String) : Yaml → Bool
  | scalar text => text = key
  | _ => false

/-- `node[key]`: the value under `key`, or an undefined node; a scalar cannot be
subscripted. -/
def field (node : Yaml) (key : String) : Except Failure (Option Yaml) :=
  match node with
  | map entries => .ok ((entries.find? fun entry => entry.1.isKey key).map Prod.snd)
  | scalar _ => .error (.thrown "operator[] call on a scalar")
  | sequence _ => .ok none
  | null => .ok none

/-- The text of a node read as a string. -/
def stringValue? : Yaml → Option String
  | scalar text => some text
  | null => cpp.nullAsString
  | _ => none

/-- The text of a scalar under a conversion. -/
def scalarAs? {α : Type} (convert : String → Option α) : Yaml → Option α
  | scalar text => convert text
  | _ => none

/-- A conversion that fails throws. -/
def orThrow {α : Type} : Option α → Except Failure α
  | some a => .ok a
  | none => .error (.thrown "bad conversion")

/-- `node.as<std::string>()`. -/
def asString (node : Yaml) : Except Failure String :=
  orThrow (node.stringValue? cpp)

/-- `node.as<bool>()`. -/
def asBool (node : Yaml) : Except Failure Bool :=
  orThrow (node.scalarAs? cpp.asBool)

end Yaml

section Loading

variable (cpp : YamlCpp)

/-- `parse_parameter_value`: a scalar is tried as bool, integer, double and string in this
order, a sequence likewise as a whole. -/
def parseParameterValue (name : String) (value : Yaml) : Except Failure Parameter :=
  let parsed : Option ParameterValue := match value with
    | .scalar text =>
      -- the first conversion that works: `1` is an integer, `yes` a bool and `1.0` a double
      ((cpp.asBool text).map .bool).orElse fun _ =>
      ((cpp.asInt64 text).map .integer).orElse fun _ =>
      ((cpp.asDouble text).map .double).orElse fun _ =>
      some (.string text)
    | .sequence items =>
      ((items.mapM (Yaml.scalarAs? cpp.asBool)).map .boolArray).orElse fun _ =>
      ((items.mapM (Yaml.scalarAs? cpp.asInt64)).map .integerArray).orElse fun _ =>
      ((items.mapM (Yaml.scalarAs? cpp.asDouble)).map .doubleArray).orElse fun _ =>
      (items.mapM (Yaml.stringValue? cpp)).map .stringArray
    | _ => none
  match parsed with
  | some v => .ok ⟨name, v⟩
  | none => .error (.error ("Unsupported parameter value for " ++ name))

/-- `as<std::string>()` of the value under `key`, or `default` where the key is missing. -/
def stringFieldOr (node : Yaml) (key default : String) : Except Failure String := do
  match ← node.field key with
  | some value => value.asString cpp
  | none => pure default

/-- The string under `key`, else the one under `alias`, else the empty string. -/
def stringFieldAlias (node : Yaml) (key «alias» : String) : Except Failure String := do
  match ← node.field key with
  | some value => value.asString cpp
  | none => stringFieldOr cpp node «alias» ""

/-- The first parameter called `old` gets the name `new`. -/
def renameFirst (old new : String) : List Parameter → List Parameter
  | [] => []
  | p :: ps => if p.name = old then { p with name := new } :: ps else p :: renameFirst old new ps

/-- Where there is a `throttle_type`, a `throttle_rate` becomes `msgs_per_sec` for the type
`messages` and `period` for any other. -/
def mapThrottleRate (parameters : List Parameter) : List Parameter :=
  match parameters.find? fun p => p.name = "throttle_type" with
  | none => parameters
  | some throttleType =>
    -- a type that is no text counts as any other
    let newName := if throttleType.value = .string "messages" then "msgs_per_sec" else "period"
    renameFirst "throttle_rate" newName parameters

/-- One entry of the `parameters` map. -/
def loadParameter (entry : Yaml × Yaml) : Except Failure Parameter := do
  let name ← entry.1.asString cpp
  parseParameterValue cpp name entry.2

/-- The `parameters` map of a `topic_tools` block. -/
def loadParameters (cfgNode : Yaml) : Except Failure (List Parameter) := do
  match ← cfgNode.field "parameters" with
  | none => pure []
  | some (.map entries) => do
    let parameters ← entries.mapM (loadParameter cpp)
    pure (mapThrottleRate parameters)
  | some _ => .error (.error "topic_tools.parameters must be a map")

/-- The `topic_tools` block of an entry for `topicName`; a disabled block gives nothing. -/
def loadTopicTools (topicName : String) (cfgNode : Yaml) :
    Except Failure (Option TopicToolsConfig) := do
  let enabled ← match ← cfgNode.field "enabled" with
    | some value => value.asBool cpp
    | none => pure true
  if enabled then
    let packageName ← stringFieldOr cpp cfgNode "package" "topic_tools"
    let pluginName ← stringFieldOr cpp cfgNode "plugin" ""
    let nodeName ← stringFieldOr cpp cfgNode "name" ""
    let explicitOutput ← stringFieldOr cpp cfgNode "output_topic" ""
    -- `output_name` is converted only where `output_topic` gives no name
    let outputTopic ← match ← cfgNode.field "output_name" with
      | some value =>
        if explicitOutput.isEmpty then do
          let outputName ← value.asString cpp
          pure (defaultOutputTopic topicName outputName)
        else pure explicitOutput
      | none => pure explicitOutput
    let outputType ← stringFieldOr cpp cfgNode "output_type" ""
    let parameters ← loadParameters cpp cfgNode
    -- checked last, so any other mistake in the block is reported instead
    if pluginName.isEmpty then .error (.error "topic_tools.plugin is required")
    else pure (some
      { enabled := true, packageName, pluginName, nodeName, outputTopic, outputType, parameters })
  else pure none

/-- One entry of a selection file. -/
def loadEntry (node : Yaml) : Except Failure TopicSelection := do
  let name ← stringFieldAlias cpp node "topic_name" "name"
  let type ← stringFieldAlias cpp node "msg_type" "type"
  if name.isEmpty then .error (.error "Selection file entry missing topic_name")
  else match ← node.field "topic_tools" with
    | none => pure { topic := ⟨name, type⟩ }
    | some (.map entries) => do
      let topicTools ← loadTopicTools cpp name (.map entries)
      pure { topic := ⟨name, type⟩, topicTools }
    | some _ => .error (.error "topic_tools must be a map")

/-- `load_file_selection`, given what opening `path` yields: the document, or the message
of the exception `YAML::LoadFile` throws. -/
def loadFileSelection (path : String) (file : Except String Yaml) :
    Except Failure (List TopicSelection) :=
  if path.isEmpty then .error (.error "selection_file_path is empty")
  else match file with
    | .error what => .error (.error ("Failed to load selection file: " ++ what))
    | .ok (.sequence items) => items.mapM (loadEntry cpp)
    | .ok _ => .error (.error "Selection file must be a YAML sequence")

end Loading

end Ros2Dispatcher
