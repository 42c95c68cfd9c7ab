import Ros2Dispatcher.Library.Registry

/-!
# The controller's data

The record types of `dispatcher_controller_node.hpp` and of the messages it exchanges, in
the source's words. `Controller` is the part of the node that changes at run time;
`Parameters` holds the members the constructor reads once and no callback writes.

Strings are Lean strings; `active_topic_tools_` is an ordered map from input topics to
loaded tools, iterated in key order as `std::map` is. Times are nanosecond counts.
-/

namespace Ros2Dispatcher

/-- `introspection_manager_msgs/msg/TopicInfo`. -/
structure TopicInfo where
  name : String
  type : String
deriving DecidableEq, Repr

/-- `rclcpp::ParameterValue`, for the types a selection file can give. A double is kept as
its bit pattern. -/
inductive ParameterValue
  | bool (value : Bool)
  | integer (value : Int)
  | double (bits : UInt64)
  | string (value : String)
  | boolArray (values : List Bool)
  | integerArray (values : List Int)
  | doubleArray (values : List UInt64)
  | stringArray (values : List String)
deriving DecidableEq, Repr

/-- `rclcpp::Parameter`. -/
structure Parameter where
  name : String
  value : ParameterValue
deriving DecidableEq, Repr

/-- The `topic_tools` block of a selection entry. -/
structure TopicToolsConfig where
  enabled : Bool := false
  packageName : String := "topic_tools"
  pluginName : String := ""
  nodeName : String := ""
  outputTopic : String := ""
  outputType : String := ""
  parameters : List Parameter := []
deriving DecidableEq, Repr

/-- One entry of a selection. -/
structure TopicSelection where
  topic : TopicInfo
  topicTools : Option TopicToolsConfig := none
deriving DecidableEq, Repr

/-- Nanoseconds on the node's clock. -/
abbrev Time := Int

/-- A selection the controller remembers; the default value is the empty snapshot. -/
structure SelectionSnapshot where
  topics : List TopicSelection := []
  sinkTopics : List TopicInfo := []
  timestamp : Time := 0
deriving DecidableEq, Repr

/-- A tool to load, with all its names settled. -/
structure ResolvedTopicTool where
  inputTopic : String
  outputTopic : String
  packageName : String
  pluginName : String
  nodeName : String
  parameters : List Parameter
  outputType : String
deriving DecidableEq, Repr

/-- What a selection asks for: the tools to load and the topics the sinks listen on. -/
structure TopicToolsPlan where
  tools : List ResolvedTopicTool := []
  sinkTopics : List TopicInfo := []
deriving DecidableEq, Repr

/-- A loaded tool. -/
structure ActiveTopicTool where
  uniqueId : Nat
  fullNodeName : String
  config : ResolvedTopicTool
deriving DecidableEq, Repr

inductive ControllerPhase
  | idle
  | busy
  | error
deriving DecidableEq, Repr

inductive SelectionMode
  | gui
  | file
  | all
deriving DecidableEq, Repr

/-- The two sinks the controller drives. -/
inductive Sink
  | kafka
  | mosquitto
deriving DecidableEq, Repr

/-- The label the source puts into messages about a sink. -/
def Sink.label : Sink → String
  | .kafka => "kafka_sink"
  | .mosquitto => "mosquitto_sink"

/-- The state ids `get_state` answers with: the primary states, and any other id, such as
that of a state in which a transition is still going on. -/
inductive LifecycleState
  | unconfigured
  | inactive
  | active
  | finalized
  | other (id : UInt8)
deriving DecidableEq, Repr

/-- The lifecycle transitions the controller requests. -/
inductive Transition
  | configure
  | activate
  | deactivate
deriving DecidableEq, Repr

/-- The action name the source passes along with a transition. -/
def Transition.action : Transition → String
  | .configure => "configure"
  | .activate => "activate"
  | .deactivate => "deactivate"

/-- The members set by the constructor and never written afterwards.
`allModeMaxTopics` is the `size_t` member, after the conversion from the `int` parameter. -/
structure Parameters where
  kafkaSinkNodeName : String := "/kafka_sink"
  mosquittoSinkNodeName : String := "/mosquitto_sink"
  validateTopics : Bool := false
  disableIntrospectionAfterApply : Bool := true
  allowMissingSinks : Bool := true
  allModeMaxTopics : Nat := 200
  allModeAllowlist : List String := []
  allModeDenylist : List String := []
  allModeHideRosout : Bool := true
  nodeNamespace : String := "/"
deriving DecidableEq, Repr

/-- The node name a sink is configured with. -/
def Parameters.sinkNodeName (params : Parameters) : Sink → String
  | .kafka => params.kafkaSinkNodeName
  | .mosquitto => params.mosquittoSinkNodeName

/-- The constructor creates the mosquitto clients only for a non-empty node name. -/
def Parameters.hasClients (params : Parameters) : Sink → Bool
  | .kafka => true
  | .mosquitto => !params.mosquittoSinkNodeName.isEmpty

/-- The members that say what the node has set up: what it applied last, the tools it
loaded, and its phase. -/
structure Pipeline where
  appliedSelection : SelectionSnapshot := {}
  activeTopicTools : Std.TreeMap String ActiveTopicTool := ∅
  phase : ControllerPhase := .idle

/-- The tools `active_topic_tools_` records, in key order. -/
def Pipeline.trackedTools (pipeline : Pipeline) : List ActiveTopicTool :=
  Registry.values pipeline.activeTopicTools

/-- The component ids `active_topic_tools_` records, in key order. -/
def Pipeline.trackedIds (pipeline : Pipeline) : List Nat :=
  pipeline.trackedTools.map ActiveTopicTool.uniqueId

/-- The node's mutable members. `startupApplyTimer` says that the startup timer exists and
has not been cancelled. -/
structure Controller extends Pipeline where
  selectionMode : SelectionMode := .gui
  selectionFilePath : String := ""
  autoApplyOnModeChange : Bool := true
  lastGuiSelection : SelectionSnapshot := {}
  lastFileSelection : SelectionSnapshot := {}
  lastAllSelection : SelectionSnapshot := {}
  lastError : String := ""
  lastErrorStamp : Time := 0
  startupApplyTimer : Bool := false

/-- `parse_mode`; `none` is the source's `valid = false`. -/
def parseMode : String → Option SelectionMode
  | "gui" => some .gui
  | "file" => some .file
  | "all" => some .all
  | _ => none

/-- `mode_to_string`. -/
def modeToString : SelectionMode → String
  | .gui => "gui"
  | .file => "file"
  | .all => "all"

/-- A mode's name parses back to it. -/
@[simp]
theorem parseMode_modeToString (mode : SelectionMode) :
    parseMode (modeToString mode) = some mode := by
  cases mode <;> rfl

/-- `state_string`. -/
def stateString : LifecycleState → String
  | .unconfigured => "unconfigured"
  | .inactive => "inactive"
  | .active => "active"
  | .finalized => "finalized"
  | .other _ => "unknown"

/-- The controller the constructor leaves behind: mode, file path and auto-apply flag come
from the parameters, an unknown mode falls back to gui, and the startup timer runs exactly
in file mode with auto-apply and a file to load. -/
def Controller.initial (mode filePath : String) (autoApply : Bool) : Controller :=
  let selectionMode := (parseMode mode).getD .gui
  { selectionMode := selectionMode
    selectionFilePath := filePath
    autoApplyOnModeChange := autoApply
    startupApplyTimer := selectionMode = .file && autoApply && !filePath.isEmpty }

end Ros2Dispatcher
