import Ros2Dispatcher.Controller.Environment
import Ros2Dispatcher.Library.Tokens

/-!
# What a sink is set up with

The settings `kafka_sink` and `mosquitto_sink` have in common, and the part of
`on_parameters_set` they share: a batch of parameters is gathered in a `Pending` record, and
then committed group by group, each group right after its own check. A rejection leaves the
groups committed before it in place.

`C` is the type of a subscription entry, `P` that of the broker parameters
(`kafka_parameters_`, `mqtt_parameters_`) and `T` that of the telemetry settings, which only
`kafka_sink` has.

A parameter is a name with a value of the type it is declared with: the node is never shown
another one, nor a value of another type. Integer parameters have 64 bits and the `int`
members they go to 32.
-/

namespace Ros2Dispatcher.Sinks

inductive TopicMappingMode
  | prefixRosTopic
  | fixed
deriving DecidableEq, Repr

inductive PayloadFormat
  | cdr
  | json
deriving DecidableEq, Repr

/-- The values of the `topic_mapping_mode` parameters. -/
def parseTopicMappingMode : String → Option TopicMappingMode
  | "prefix_ros_topic" => some .prefixRosTopic
  | "fixed" => some .fixed
  | _ => none

/-- The values of the `payload_format` parameters. -/
def parsePayloadFormat : String → Option PayloadFormat
  | "cdr" => some .cdr
  | "json" => some .json
  | _ => none

/-- `metrics_enabled_`, `metrics_interval_ms_` and `metrics_topic_`. -/
structure MetricsSettings where
  enabled : Bool := false
  intervalMs : Int32 := 1000
  topic : String
deriving DecidableEq, Repr

/-- The parameters under `metrics.`; other names there are not declared. -/
inductive MetricsName
  | enabled
  | intervalMs
  | topic
  | other (name : String)
deriving DecidableEq, Repr

abbrev MetricsName.Value : MetricsName → Type
  | enabled => Bool
  | intervalMs => Int64
  | topic => String
  | other _ => Unit

/-- The metrics settings with one parameter changed. -/
def MetricsSettings.stage (metrics : MetricsSettings) :
    (name : MetricsName) → name.Value → MetricsSettings
  | .enabled, value => { metrics with enabled := value }
  | .intervalMs, value => { metrics with intervalMs := value.toInt32 }
  | .topic, value => { metrics with topic := value }
  | .other _, _ => metrics

/-- The members that `on_parameters_set` and `configure_from_parameters` write. -/
structure Settings (C P T : Type) where
  configuredSubscriptions : List C := []
  qosDepth : Int32 := 10
  broker : P
  metrics : MetricsSettings
  telemetry : T
deriving DecidableEq, Repr

/-- Procedures on the settings that fail with a reason. -/
abbrev Configuring (C P T : Type) := EStateM String (Settings C P T)

variable {C P T α : Type}

/-- A check that fails with a reason. -/
def require : Except String α → Configuring C P T α
  | .ok a => pure a
  | .error reason => throw reason

/-- `validate_qos_depth`. -/
def validateQosDepth (depth : Int32) : Except String Unit :=
  if depth ≤ 0 then .error "qos_depth must be greater than zero." else .ok ⟨⟩

/-! ### A batch of parameters -/

/-- What the loop of `on_parameters_set` has gathered; the flags say which groups the batch
touches. -/
structure Pending (P T : Type) where
  yaml : Option String := none
  depth : Int32
  broker : P
  brokerUpdate : Bool := false
  metrics : MetricsSettings
  metricsUpdate : Bool := false
  telemetry : T
  telemetryUpdate : Bool := false
deriving DecidableEq, Repr

/-- The loop starts from the current members. -/
def Settings.pending (settings : Settings C P T) : Pending P T where
  depth := settings.qosDepth
  broker := settings.broker
  metrics := settings.metrics
  telemetry := settings.telemetry

/-- The reason for refusing a parameter that an active node does not take. -/
def whileInactive (active : Bool) (pending : Except String (Pending P T)) :
    Except String (Pending P T) :=
  if active then .error "deactivate first" else pending

namespace Pending

variable (pending : Pending P T)

/-- Commit the subscriptions of the batch, if it has some and they parse. -/
def commitSubscriptions (parse : String → Except String (List C)) : Configuring C P T PUnit :=
  match pending.yaml with
  | some text => do
    let configured ← require (parse text)
    modify fun settings => { settings with configuredSubscriptions := configured }
  | none => pure ⟨⟩

/-- Commit the depth, whether the batch has one or not. -/
def commitDepth : Configuring C P T PUnit := do
  -- without a depth in the batch this is the current one, which may be invalid
  require (validateQosDepth pending.depth)
  modify fun settings => { settings with qosDepth := pending.depth }

/-- Commit the broker parameters, if the batch touches them and they are valid as a whole. -/
def commitBroker (validate : P → Except String Unit) : Configuring C P T PUnit :=
  if pending.brokerUpdate then do
    require (validate pending.broker)
    modify fun settings => { settings with broker := pending.broker }
  else pure ⟨⟩

/-- Commit the metrics settings, which have no check. -/
def commitMetrics : Configuring C P T PUnit :=
  if pending.metricsUpdate then
    modify fun settings => { settings with metrics := pending.metrics }
  else pure ⟨⟩

/-- Commit the telemetry settings, if the batch touches them and they are valid. -/
def commitTelemetry (validate : T → Except String Unit) : Configuring C P T PUnit :=
  if pending.telemetryUpdate then do
    require (validate pending.telemetry)
    modify fun settings => { settings with telemetry := pending.telemetry }
  else pure ⟨⟩

end Pending

/-- The answer to a batch, and the settings after it. -/
def Configuring.answer (m : Configuring C P T PUnit) (settings : Settings C P T) :
    SetParametersResult × Settings C P T :=
  match m settings with
  | .ok _ settings' => (⟨true, "accepted"⟩, settings')
  | .error reason settings' => (⟨false, reason⟩, settings')

/-! ### Subscription lists -/

/-- yaml-cpp reading a text: the document, or the message of the parser's exception. -/
structure YamlReader where
  cpp : YamlCpp
  load : String → Except String Yaml

/-- A reader that knows one text, `[{topic_name: /a, msg_type: T}]`. -/
def YamlReader.oneEntry : YamlReader where
  cpp := ⟨fun _ => none, fun _ => none, fun _ => none, some "null"⟩
  load text :=
    if text = "[{topic_name: /a, msg_type: T}]" then
      .ok (.sequence
        [.map [(.scalar "topic_name", .scalar "/a"), (.scalar "msg_type", .scalar "T")]])
    else .error "yaml-cpp: error"

/-- The text of an exception. -/
def Failure.what : Failure → String
  | .error message => message
  | .thrown what => what

/-- The trimmed text under `key`, where a missing key or a blank text gives none. -/
def optionalText (cpp : YamlCpp) (entry : Yaml) (key : String) :
    Except Failure (Option String) := do
  match ← entry.field key with
  | none => pure none
  | some node =>
    let text ← node.asString cpp
    pure (if (Tokens.trim text).isEmpty then none else some (Tokens.trim text))

/-- The names in an entry of `subscriptions_yaml`; `parse_subscriptions_yaml` lets no empty one
through. -/
structure SubscriptionNames where
  topicName : String
  msgType : String
  topicName_ne : topicName ≠ "" := by decide
  msgType_ne : msgType ≠ "" := by decide
deriving DecidableEq, Repr

/-- The check of the trimmed names. -/
def requireNames (topicName msgType : String) : Except Failure SubscriptionNames :=
  if h : topicName ≠ "" ∧ msgType ≠ "" then
    .ok { topicName, msgType, topicName_ne := h.1, msgType_ne := h.2 }
  else .error (.error "Subscription entries must have non-empty topic_name and msg_type.")

/-- `parse_subscriptions_yaml` up to the reading of one entry; every exception is a
`std::exception`, so the callers see its text. -/
def parseSubscriptions (reader : YamlReader) (parseEntry : Yaml → Except Failure C)
    (text : String) : Except String (List C) :=
  if text.isEmpty then .ok []
  else match reader.load text with
    | .error what => .error ("Failed to parse subscriptions_yaml: " ++ what)
    | .ok (.sequence entries) => (entries.mapM parseEntry).mapError Failure.what
    | .ok _ => .error "Parameter 'subscriptions_yaml' must be a YAML sequence."

end Ros2Dispatcher.Sinks
