import Ros2Dispatcher.KafkaClient.Types
import Ros2Dispatcher.Sinks.Resources

/-!
# `kafka_sink`

The node of `kafka_sink_node.cpp`: its parameters, `on_parameters_set` and
`configure_from_parameters`, the mapping of topic names, the subscription callback up to the
record it sends, and the lifecycle callbacks.

A message is given by its serialized bytes. How `serialize_message_to_json` turns them into
text, and how `apply_ts_envelope_to_json` extends the text, is a parameter of the callback,
`JsonConversion`.
-/

namespace Ros2Dispatcher.KafkaSink

open Lifecycle Sinks

/-! ### Parameters -/

/-- The parameters under `kafka.`; other names there are not declared. -/
inductive KafkaName
  | bootstrapServers
  | clientId
  | acks
  | topicPrefix
  | messageKey
  | topicMappingMode
  | fixedTopic
  | strictStartup
  | maxQueueMessages
  | dropWhenFull
  | lingerMs
  | batchSize
  | payloadFormat
  | other (name : String)
deriving DecidableEq, Repr

abbrev KafkaName.Value : KafkaName → Type
  | bootstrapServers => String
  | clientId => String
  | acks => String
  | topicPrefix => String
  | messageKey => String
  | topicMappingMode => String
  | fixedTopic => String
  | strictStartup => Bool
  | maxQueueMessages => Int64
  | dropWhenFull => Bool
  | lingerMs => Int64
  | batchSize => Int64
  | payloadFormat => String
  | other _ => Unit

/-- The parameters under `telemetry.`. -/
inductive TelemetryName
  | enabled
  | logEveryN
  | other (name : String)
deriving DecidableEq, Repr

abbrev TelemetryName.Value : TelemetryName → Type
  | enabled => Bool
  | logEveryN => Int64
  | other _ => Unit

/-- The parameters of the node. -/
inductive Name
  | subscriptionsYaml
  | qosDepth
  | kafka (name : KafkaName)
  | metrics (name : MetricsName)
  | telemetry (name : TelemetryName)
  | other (name : String)
deriving DecidableEq, Repr

abbrev Name.Value : Name → Type
  | subscriptionsYaml => String
  | qosDepth => Int64
  | kafka name => name.Value
  | metrics name => name.Value
  | telemetry name => name.Value
  | other _ => Unit

/-- One parameter of a batch. -/
abbrev Parameter := (name : Name) × name.Value

/-- The stored parameter values. -/
abbrev Stored := (name : Name) → name.Value

/-- `KafkaParameters`. -/
structure KafkaParameters where
  bootstrapServers : String := "localhost:9092"
  clientId : String := "kafka_sink"
  acks : String := "all"
  topicPrefix : String := "ros2"
  messageKey : String := "robot"
  topicMappingMode : TopicMappingMode := .prefixRosTopic
  fixedTopic : String := "ros2.raw"
  strictStartup : Bool := false
  maxQueueMessages : Nat := 1024
  dropWhenFull : Bool := true
  lingerMs : Option Int32 := none
  batchSize : Option Int32 := none
  payloadFormat : PayloadFormat := .cdr
deriving DecidableEq, Repr

/-- `telemetry_enabled_` and `telemetry_log_every_n_`. -/
structure Telemetry where
  enabled : Bool := false
  logEveryN : Int32 := 1
deriving DecidableEq, Repr

/-- An entry of `subscriptions_yaml`. -/
structure SubscriptionConfig extends SubscriptionNames where
  kafkaName : Option String := none
  kafkaKey : Option String := none
deriving DecidableEq, Repr

abbrev Settings := Sinks.Settings SubscriptionConfig KafkaParameters Telemetry

abbrev Pending := Sinks.Pending KafkaParameters Telemetry

/-- The members before the first configuration. -/
def initialSettings : Settings where
  broker := {}
  metrics := { topic := "kafka_sink/metrics" }
  telemetry := {}

/-- The values the constructor declares. -/
def defaults : Stored
  | .subscriptionsYaml => ""
  | .qosDepth => (10 : Int64)
  | .kafka .bootstrapServers => "localhost:9092"
  | .kafka .clientId => "kafka_sink"
  | .kafka .acks => "all"
  | .kafka .topicPrefix => "ros2"
  | .kafka .messageKey => "robot"
  | .kafka .topicMappingMode => "prefix_ros_topic"
  | .kafka .fixedTopic => "ros2.raw"
  | .kafka .strictStartup => false
  | .kafka .maxQueueMessages => (1024 : Int64)
  | .kafka .dropWhenFull => true
  | .kafka .lingerMs => (-1 : Int64)
  | .kafka .batchSize => (-1 : Int64)
  | .kafka .payloadFormat => "cdr"
  | .kafka (.other _) => ()
  | .metrics .enabled => false
  | .metrics .intervalMs => (1000 : Int64)
  | .metrics .topic => "kafka_sink/metrics"
  | .metrics (.other _) => ()
  | .telemetry .enabled => false
  | .telemetry .logEveryN => (1 : Int64)
  | .telemetry (.other _) => ()
  | .other _ => ()

/-- An `int` that counts only when it is not negative. -/
def nonNegative (value : Int64) : Option Int32 :=
  if 0 ≤ value.toInt32 then some value.toInt32 else none

/-- An `int` as a `std::size_t`, where a negative one becomes zero. -/
def queueSize (value : Int64) : Nat :=
  value.toInt32.toInt.toNat

/-! ### `parse_subscriptions_yaml` -/

/-- One entry of the sequence. -/
def parseEntry (cpp : YamlCpp) : Yaml → Except Failure SubscriptionConfig
  | .map entries => do
    let entry := Yaml.map entries
    match ← entry.field "topic_name", ← entry.field "msg_type" with
    | some topicNode, some typeNode =>
      let topicName := Tokens.trim (← topicNode.asString cpp)
      let msgType := Tokens.trim (← typeNode.asString cpp)
      -- converted before the names are checked
      let kafkaName ← optionalText cpp entry "kafka_name"
      let names ← requireNames topicName msgType
      let kafkaKey ← optionalText cpp entry "kafka_key"
      pure { toSubscriptionNames := names, kafkaName, kafkaKey }
    | _, _ =>
      .error (.error "Each subscription entry requires 'topic_name' and 'msg_type'.")
  | _ => .error (.error "Each subscription entry must be a map.")

/-- `parse_subscriptions_yaml`. -/
def parseSubscriptionsYaml (reader : YamlReader) (text : String) :
    Except String (List SubscriptionConfig) :=
  parseSubscriptions reader (parseEntry reader.cpp) text

/-! ### Setting parameters -/

/-- The `kafka.` branch of the loop of `on_parameters_set`. -/
def stageKafka (kafka : KafkaParameters) :
    (name : KafkaName) → name.Value → Except String KafkaParameters
  | .bootstrapServers, value => .ok { kafka with bootstrapServers := value }
  | .clientId, value => .ok { kafka with clientId := value }
  | .acks, value => .ok { kafka with acks := value }
  | .topicPrefix, value => .ok { kafka with topicPrefix := value }
  | .messageKey, value => .ok { kafka with messageKey := value }
  | .topicMappingMode, value =>
    match parseTopicMappingMode value with
    | some mode => .ok { kafka with topicMappingMode := mode }
    | none => .error "invalid kafka.topic_mapping_mode"
  | .fixedTopic, value => .ok { kafka with fixedTopic := value }
  | .strictStartup, value => .ok { kafka with strictStartup := value }
  | .maxQueueMessages, value => .ok { kafka with maxQueueMessages := queueSize value }
  | .dropWhenFull, value => .ok { kafka with dropWhenFull := value }
  | .lingerMs, value => .ok { kafka with lingerMs := nonNegative value }
  | .batchSize, value => .ok { kafka with batchSize := nonNegative value }
  | .payloadFormat, value =>
    match parsePayloadFormat value with
    | some format => .ok { kafka with payloadFormat := format }
    | none => .error "invalid kafka.payload_format"
  -- nothing is read, but the name counts as a change of the kafka parameters
  | .other _, _ => .ok kafka

/-- The telemetry settings with one parameter changed. -/
def Telemetry.stage (telemetry : Telemetry) : (name : TelemetryName) → name.Value → Telemetry
  | .enabled, value => { telemetry with enabled := value }
  | .logEveryN, value => { telemetry with logEveryN := value.toInt32 }
  | .other _, _ => telemetry

/-- One round of the loop of `on_parameters_set`. -/
def stageParameter (active : Bool) (pending : Pending) : Parameter → Except String Pending
  | ⟨.subscriptionsYaml, value⟩ => whileInactive active (.ok { pending with yaml := some value })
  | ⟨.qosDepth, value⟩ => .ok { pending with depth := value.toInt32 }
  | ⟨.kafka name, value⟩ => whileInactive active do
    let broker ← stageKafka pending.broker name value
    pure { pending with broker, brokerUpdate := true }
  | ⟨.metrics name, value⟩ => whileInactive active
    (.ok { pending with metrics := pending.metrics.stage name value, metricsUpdate := true })
  | ⟨.telemetry name, value⟩ =>
    .ok { pending with telemetry := pending.telemetry.stage name value, telemetryUpdate := true }
  | ⟨.other _, _⟩ => .ok pending

/-- The loop of `on_parameters_set`. -/
def stageBatch (active : Bool) (settings : Settings) (batch : List Parameter) :
    Except String Pending :=
  batch.foldlM (stageParameter active) settings.pending

/-- `validate_kafka_parameters`. -/
def validateKafkaParameters (pending : KafkaParameters) : Except String Unit :=
  if pending.bootstrapServers = "" then .error "kafka.bootstrap_servers cannot be empty."
  else if pending.clientId = "" then .error "kafka.client_id cannot be empty."
  else if pending.acks = "" then .error "kafka.acks cannot be empty."
  else if pending.messageKey = "" then .error "kafka.message_key cannot be empty."
  else if pending.maxQueueMessages = 0 then
    .error "kafka.max_queue_messages must be greater than zero."
  else if pending.topicMappingMode = .fixed ∧ pending.fixedTopic = "" then
    .error "kafka.fixed_topic cannot be empty when mapping mode is 'fixed'."
  else .ok ⟨⟩

/-- The check of the telemetry settings in `on_parameters_set`. -/
def validateTelemetry (telemetry : Telemetry) : Except String Unit :=
  if telemetry.logEveryN < 1 then .error "telemetry.log_every_n must be >= 1" else .ok ⟨⟩

/-- The part of `on_parameters_set` after the loop. -/
def commitPending (reader : YamlReader) (pending : Pending) :
    Configuring SubscriptionConfig KafkaParameters Telemetry PUnit := do
  pending.commitSubscriptions (parseSubscriptionsYaml reader)
  pending.commitDepth
  pending.commitBroker validateKafkaParameters
  pending.commitMetrics
  pending.commitTelemetry validateTelemetry

/-- `on_parameters_set`; `active` says that the lifecycle state is `ACTIVE`. -/
def onParametersSet (reader : YamlReader) (active : Bool) (batch : List Parameter)
    (settings : Settings) : SetParametersResult × Settings :=
  Configuring.answer (do
    let pending ← require (stageBatch active settings batch)
    commitPending reader pending) settings

/-! ### Configuring -/

/-- `configure_kafka_parameters`. -/
def configureKafkaParameters (stored : Stored) :
    Configuring SubscriptionConfig KafkaParameters Telemetry PUnit :=
  match parseTopicMappingMode (stored (.kafka .topicMappingMode)) with
  | none => throw "Invalid kafka.topic_mapping_mode value."
  | some topicMappingMode =>
    match parsePayloadFormat (stored (.kafka .payloadFormat)) with
    | none => throw "Invalid kafka.payload_format value."
    | some payloadFormat => do
      let pending : KafkaParameters :=
        { bootstrapServers := stored (.kafka .bootstrapServers)
          clientId := stored (.kafka .clientId)
          acks := stored (.kafka .acks)
          topicPrefix := stored (.kafka .topicPrefix)
          messageKey := stored (.kafka .messageKey)
          topicMappingMode
          fixedTopic := stored (.kafka .fixedTopic)
          strictStartup := stored (.kafka .strictStartup)
          maxQueueMessages := queueSize (stored (.kafka .maxQueueMessages))
          dropWhenFull := stored (.kafka .dropWhenFull)
          lingerMs := nonNegative (stored (.kafka .lingerMs))
          batchSize := nonNegative (stored (.kafka .batchSize))
          payloadFormat }
      require (validateKafkaParameters pending)
      modify fun settings => { settings with broker := pending }

/-- `configure_from_parameters`; what is written before a check that fails stays. -/
def configureFromParameters (reader : YamlReader) (stored : Stored) :
    Configuring SubscriptionConfig KafkaParameters Telemetry PUnit := do
  modify fun settings => { settings with
    qosDepth := (stored .qosDepth).toInt32
    metrics :=
      { enabled := stored (.metrics .enabled)
        intervalMs := (stored (.metrics .intervalMs)).toInt32
        topic := stored (.metrics .topic) }
    telemetry :=
      { enabled := stored (.telemetry .enabled)
        logEveryN := (stored (.telemetry .logEveryN)).toInt32 } }
  let settings ← get
  -- the members have been written already
  require (validateQosDepth settings.qosDepth)
  (if settings.telemetry.logEveryN < 1 then throw "telemetry.log_every_n must be >= 1."
    else pure ⟨⟩)
  let configured ← require (parseSubscriptionsYaml reader (stored .subscriptionsYaml))
  modify fun settings => { settings with configuredSubscriptions := configured }
  configureKafkaParameters stored

/-! ### Subscriptions -/

/-- `map_kafka_topic`. -/
def mapKafkaTopic (kafka : KafkaParameters) (rosTopic : String) : String :=
  if kafka.topicMappingMode = .fixed then kafka.fixedTopic
  else
    let normalized := Tokens.substitute '/' '.' (Tokens.dropLeading '/' rosTopic.toList)
    let topicPrefix := kafka.topicPrefix.toList
    if topicPrefix = [] then String.ofList normalized
    -- a dot at the end of the prefix is not doubled
    else if topicPrefix.getLast? = some '.' ∨ normalized = [] then
      String.ofList (topicPrefix ++ normalized)
    else String.ofList (topicPrefix ++ '.' :: normalized)

/-- `SubscriptionRuntime`, without its counters: the handles are given by whether they are
set. -/
structure SubscriptionRuntime where
  rosTopic : String
  msgType : String
  kafkaTopic : String
  messageKeyBytes : List UInt8
  payloadFormat : PayloadFormat := .cdr
  rmwTypeSupport : Bool := false
  introspectionTypeSupport : Bool := false
deriving DecidableEq, Repr

abbrev Resources := Sinks.Resources SubscriptionRuntime

/-- The state of a subscription before it is created: with the format `json` its type support
is loaded, and `cdr` is used where that fails. -/
def newRuntime (kafka : KafkaParameters) (load : LoadOutcome) (config : SubscriptionConfig) :
    SubscriptionRuntime :=
  let runtime : SubscriptionRuntime :=
    { rosTopic := config.topicName
      msgType := config.msgType
      kafkaTopic := mapKafkaTopic kafka (config.kafkaName.getD config.topicName)
      messageKeyBytes := (config.kafkaKey.getD kafka.messageKey).toUTF8.data.toList
      payloadFormat := kafka.payloadFormat }
  if kafka.payloadFormat = .json then
    { runtime with
      payloadFormat := if load.loaded then .json else .cdr
      rmwTypeSupport := load.rmw
      introspectionTypeSupport := load.introspection }
  else runtime

/-- The second attempt to load the type support, once the subscription is created. -/
def SubscriptionRuntime.settle (runtime : SubscriptionRuntime) (reload : LoadOutcome) :
    SubscriptionRuntime :=
  if runtime.payloadFormat = .json ∧ runtime.rmwTypeSupport = false then
    -- the handles of the first attempt are overwritten
    let rmw := reload.loaded && reload.rmw
    let introspection := reload.loaded && reload.introspection
    { runtime with
      rmwTypeSupport := rmw
      introspectionTypeSupport := introspection
      payloadFormat := if rmw && introspection then .json else .cdr }
  else runtime

/-- The `n`-th entry of `build_subscriptions`. -/
def plannedSubscription (kafka : KafkaParameters) (outside : Activation) (n : Nat)
    (config : SubscriptionConfig) : PlannedSubscription SubscriptionRuntime :=
  let runtime := newRuntime kafka (outside.load n) config
  { fresh :=
      { topicName := config.topicName, msgType := config.msgType, runtimeState := runtime }
    settled := runtime.settle (outside.reload n) }

/-! ### The subscription callback -/

/-- The two steps from a message to its JSON text: `serialize_message_to_json`, which knows
the message by its type and its serialized bytes, and `apply_ts_envelope_to_json`. None is a
failure of the first, an exception of the second. -/
structure JsonConversion where
  serializeMessageToJson : String → List UInt8 → Option (List UInt8)
  applyTsEnvelopeToJson : List UInt8 → Int64 → Option (List UInt8)

/-- The bytes the callback sends for a message. -/
def SubscriptionRuntime.value (runtime : SubscriptionRuntime) (json : JsonConversion)
    (msg : List UInt8) (nowNs : Int64) : Option (List UInt8) :=
  match runtime.payloadFormat with
  | .cdr => some msg
  | .json =>
    if runtime.rmwTypeSupport && runtime.introspectionTypeSupport then do
      let payload ← json.serializeMessageToJson runtime.msgType msg
      json.applyTsEnvelopeToJson payload nowNs
    else none

/-- The callback of a subscription, up to the record it hands to the producer. -/
def onMessage (json : JsonConversion) (held : Resources) (runtime : SubscriptionRuntime)
    (msg : List UInt8) (nowNs : Int64) : Option KafkaClient.QueuedRecord :=
  if held.isActive && held.client then
    (runtime.value json msg nowNs).map fun value =>
      { topic := runtime.kafkaTopic
        key := runtime.messageKeyBytes
        value
        timestampMs := nowNs / 1000000
        headers := [⟨"ros_type", runtime.msgType⟩] }
  else none

/-! ### The node -/

/-- The configured subscriptions as `build_subscriptions` goes through them. -/
def planned (settings : Settings) (outside : Activation) :
    List (PlannedSubscription SubscriptionRuntime) :=
  settings.configuredSubscriptions.mapIdx (plannedSubscription settings.broker outside)

/-- What `kafka_sink` does in its own way. -/
def kind (reader : YamlReader) :
    Kind Name Name.Value SubscriptionConfig KafkaParameters Telemetry SubscriptionRuntime where
  configureFromParameters := configureFromParameters reader
  onParametersSet := onParametersSet reader
  planned := planned

abbrev Node := Sinks.Node Stored SubscriptionConfig KafkaParameters Telemetry SubscriptionRuntime

/-- The node as its constructor leaves it; `stored` are the declared values, or the ones that
override them. -/
def boot (stored : Stored) : Node where
  stored
  settings := initialSettings

end Ros2Dispatcher.KafkaSink
