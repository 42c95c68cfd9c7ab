import Ros2Dispatcher.Sinks.Resources

/-!
# `mosquitto_sink`

The node of `mosquitto_sink_node.cpp`: its parameters, `on_parameters_set` and
`configure_from_parameters`, the mapping of topic names, the records of its subscriptions,
and the lifecycle callbacks. It has no telemetry settings.
-/

namespace Ros2Dispatcher.MosquittoSink

open Lifecycle Sinks

/-! ### Parameters -/

/-- The parameters under `mqtt.`; other names there are not declared. -/
inductive MqttName
  | brokerHost
  | brokerPort
  | clientId
  | username
  | password
  | qos
  | retain
  | keepAliveSeconds
  | topicPrefix
  | topicMappingMode
  | fixedTopic
  | payloadFormat
  | useTls
  | caCertPath
  | lwtTopic
  | lwtPayload
  | lwtQos
  | lwtRetain
  | messageKey
  | other (name : String)
deriving DecidableEq, Repr

abbrev MqttName.Value : MqttName → Type
  | brokerHost => String
  | brokerPort => Int64
  | clientId => String
  | username => String
  | password => String
  | qos => Int64
  | retain => Bool
  | keepAliveSeconds => Int64
  | topicPrefix => String
  | topicMappingMode => String
  | fixedTopic => String
  | payloadFormat => String
  | useTls => Bool
  | caCertPath => String
  | lwtTopic => String
  | lwtPayload => String
  | lwtQos => Int64
  | lwtRetain => Bool
  | messageKey => String
  | other _ => Unit

/-- The parameters of the node. -/
inductive Name
  | subscriptionsYaml
  | qosDepth
  | mqtt (name : MqttName)
  | metrics (name : MetricsName)
  | other (name : String)
deriving DecidableEq, Repr

abbrev Name.Value : Name → Type
  | subscriptionsYaml => String
  | qosDepth => Int64
  | mqtt name => name.Value
  | metrics name => name.Value
  | other _ => Unit

/-- One parameter of a batch. -/
abbrev Parameter := (name : Name) × name.Value

/-- The stored parameter values. -/
abbrev Stored := (name : Name) → name.Value

/-- `MqttParameters`. -/
structure MqttParameters where
  brokerHost : String := "localhost"
  brokerPort : Int32 := 1883
  clientId : String := "mosquitto_sink"
  username : String := ""
  password : String := ""
  qos : Int32 := 1
  retain : Bool := false
  keepAliveSeconds : Int32 := 60
  topicPrefix : String := "ros2"
  topicMappingMode : TopicMappingMode := .prefixRosTopic
  fixedTopic : String := "ros2/raw"
  payloadFormat : PayloadFormat := .cdr
  useTls : Bool := false
  caCertPath : String := ""
  lwtTopic : String := ""
  lwtPayload : String := "mosquitto_sink disconnected"
  lwtQos : Int32 := 1
  lwtRetain : Bool := false
  messageKey : String := ""
deriving DecidableEq, Repr

/-- An entry of `subscriptions_yaml`. -/
structure SubscriptionConfig extends SubscriptionNames where
  mqttName : Option String := none
deriving DecidableEq, Repr

abbrev Settings := Sinks.Settings SubscriptionConfig MqttParameters PUnit

abbrev Pending := Sinks.Pending MqttParameters PUnit

/-- The members before the first configuration. -/
def initialSettings : Settings where
  broker := {}
  metrics := { topic := "mosquitto_sink/metrics" }
  telemetry := ⟨⟩

/-- The values the constructor declares. -/
def defaults : Stored
  | .subscriptionsYaml => ""
  | .qosDepth => (10 : Int64)
  | .mqtt .brokerHost => "localhost"
  | .mqtt .brokerPort => (1883 : Int64)
  | .mqtt .clientId => "mosquitto_sink"
  | .mqtt .username => ""
  | .mqtt .password => ""
  | .mqtt .qos => (1 : Int64)
  | .mqtt .retain => false
  | .mqtt .keepAliveSeconds => (60 : Int64)
  | .mqtt .topicPrefix => "ros2"
  | .mqtt .topicMappingMode => "prefix_ros_topic"
  | .mqtt .fixedTopic => "ros2/raw"
  | .mqtt .payloadFormat => "cdr"
  | .mqtt .useTls => false
  | .mqtt .caCertPath => ""
  | .mqtt .lwtTopic => ""
  | .mqtt .lwtPayload => "mosquitto_sink disconnected"
  | .mqtt .lwtQos => (1 : Int64)
  | .mqtt .lwtRetain => false
  | .mqtt .messageKey => ""
  | .mqtt (.other _) => ()
  | .metrics .enabled => false
  | .metrics .intervalMs => (1000 : Int64)
  | .metrics .topic => "mosquitto_sink/metrics"
  | .metrics (.other _) => ()
  | .other _ => ()

/-! ### `parse_subscriptions_yaml` -/

/-- One entry of the sequence. -/
def parseEntry (cpp : YamlCpp) : Yaml → Except Failure SubscriptionConfig
  | .map entries => do
    let entry := Yaml.map entries
    match ← entry.field "topic_name", ← entry.field "msg_type" with
    | some topicNode, some typeNode =>
      let topicName := Tokens.trim (← topicNode.asString cpp)
      let msgType := Tokens.trim (← typeNode.asString cpp)
      let mqttName ← optionalText cpp entry "mqtt_name"
      let names ← requireNames topicName msgType
      pure { toSubscriptionNames := names, mqttName }
    | _, _ =>
      .error (.error "Each subscription entry requires 'topic_name' and 'msg_type'.")
  | _ => .error (.error "Each subscription entry must be a map.")

/-- `parse_subscriptions_yaml`. -/
def parseSubscriptionsYaml (reader : YamlReader) (text : String) :
    Except String (List SubscriptionConfig) :=
  parseSubscriptions reader (parseEntry reader.cpp) text

/-! ### Setting parameters -/

/-- The `mqtt.` branch of the loop of `on_parameters_set`. -/
def stageMqtt (mqtt : MqttParameters) :
    (name : MqttName) → name.Value → Except String MqttParameters
  | .brokerHost, value => .ok { mqtt with brokerHost := value }
  | .brokerPort, value => .ok { mqtt with brokerPort := value.toInt32 }
  | .clientId, value => .ok { mqtt with clientId := value }
  | .username, value => .ok { mqtt with username := value }
  | .password, value => .ok { mqtt with password := value }
  | .qos, value => .ok { mqtt with qos := value.toInt32 }
  | .retain, value => .ok { mqtt with retain := value }
  | .keepAliveSeconds, value => .ok { mqtt with keepAliveSeconds := value.toInt32 }
  | .topicPrefix, value => .ok { mqtt with topicPrefix := value }
  | .topicMappingMode, value =>
    match parseTopicMappingMode value with
    | some mode => .ok { mqtt with topicMappingMode := mode }
    | none => .error "invalid mqtt.topic_mapping_mode"
  | .fixedTopic, value => .ok { mqtt with fixedTopic := value }
  | .payloadFormat, value =>
    match parsePayloadFormat value with
    | some format => .ok { mqtt with payloadFormat := format }
    | none => .error "invalid mqtt.payload_format"
  | .useTls, value => .ok { mqtt with useTls := value }
  | .caCertPath, value => .ok { mqtt with caCertPath := value }
  | .lwtTopic, value => .ok { mqtt with lwtTopic := value }
  | .lwtPayload, value => .ok { mqtt with lwtPayload := value }
  | .lwtQos, value => .ok { mqtt with lwtQos := value.toInt32 }
  | .lwtRetain, value => .ok { mqtt with lwtRetain := value }
  | .messageKey, value => .ok { mqtt with messageKey := value }
  | .other _, _ => .ok mqtt

/-- One round of the loop of `on_parameters_set`. -/
def stageParameter (active : Bool) (pending : Pending) : Parameter → Except String Pending
  | ⟨.subscriptionsYaml, value⟩ => whileInactive active (.ok { pending with yaml := some value })
  | ⟨.qosDepth, value⟩ => .ok { pending with depth := value.toInt32 }
  | ⟨.mqtt name, value⟩ => whileInactive active do
    let broker ← stageMqtt pending.broker name value
    pure { pending with broker, brokerUpdate := true }
  | ⟨.metrics name, value⟩ => whileInactive active
    (.ok { pending with metrics := pending.metrics.stage name value, metricsUpdate := true })
  | ⟨.other _, _⟩ => .ok pending

/-- The loop of `on_parameters_set`. -/
def stageBatch (active : Bool) (settings : Settings) (batch : List Parameter) :
    Except String Pending :=
  batch.foldlM (stageParameter active) settings.pending

/-- `validate_mqtt_parameters`. -/
def validateMqttParameters (pending : MqttParameters) : Except String Unit :=
  if pending.brokerHost = "" then .error "mqtt.broker_host cannot be empty."
  else if pending.brokerPort ≤ 0 then .error "mqtt.broker_port must be greater than zero."
  else if pending.clientId = "" then .error "mqtt.client_id cannot be empty."
  else if pending.qos < 0 ∨ 2 < pending.qos then .error "mqtt.qos must be 0, 1, or 2."
  else if pending.keepAliveSeconds ≤ 0 then
    .error "mqtt.keep_alive_seconds must be greater than zero."
  else if pending.topicMappingMode = .fixed ∧ pending.fixedTopic = "" then
    .error "mqtt.fixed_topic cannot be empty when mapping mode is 'fixed'."
  else if pending.lwtQos < 0 ∨ 2 < pending.lwtQos then .error "mqtt.lwt_qos must be 0, 1, or 2."
  else .ok ⟨⟩

/-- The part of `on_parameters_set` after the loop. -/
def commitPending (reader : YamlReader) (pending : Pending) :
    Configuring SubscriptionConfig MqttParameters PUnit PUnit := do
  pending.commitSubscriptions (parseSubscriptionsYaml reader)
  pending.commitDepth
  pending.commitBroker validateMqttParameters
  pending.commitMetrics

/-- `on_parameters_set`; `active` says that the lifecycle state is `ACTIVE`. -/
def onParametersSet (reader : YamlReader) (active : Bool) (batch : List Parameter)
    (settings : Settings) : SetParametersResult × Settings :=
  Configuring.answer (do
    let pending ← require (stageBatch active settings batch)
    commitPending reader pending) settings

/-! ### Configuring -/

/-- `configure_mqtt_parameters`. -/
def configureMqttParameters (stored : Stored) :
    Configuring SubscriptionConfig MqttParameters PUnit PUnit :=
  match parseTopicMappingMode (stored (.mqtt .topicMappingMode)) with
  | none => throw "Invalid mqtt.topic_mapping_mode value."
  | some topicMappingMode =>
    match parsePayloadFormat (stored (.mqtt .payloadFormat)) with
    | none => throw "Invalid mqtt.payload_format value."
    | some payloadFormat => do
      let pending : MqttParameters :=
        { brokerHost := stored (.mqtt .brokerHost)
          brokerPort := (stored (.mqtt .brokerPort)).toInt32
          clientId := stored (.mqtt .clientId)
          username := stored (.mqtt .username)
          password := stored (.mqtt .password)
          qos := (stored (.mqtt .qos)).toInt32
          retain := stored (.mqtt .retain)
          keepAliveSeconds := (stored (.mqtt .keepAliveSeconds)).toInt32
          topicPrefix := stored (.mqtt .topicPrefix)
          topicMappingMode
          fixedTopic := stored (.mqtt .fixedTopic)
          payloadFormat
          useTls := stored (.mqtt .useTls)
          caCertPath := stored (.mqtt .caCertPath)
          lwtTopic := stored (.mqtt .lwtTopic)
          lwtPayload := stored (.mqtt .lwtPayload)
          lwtQos := (stored (.mqtt .lwtQos)).toInt32
          lwtRetain := stored (.mqtt .lwtRetain)
          messageKey := stored (.mqtt .messageKey) }
      require (validateMqttParameters pending)
      modify fun settings => { settings with broker := pending }

/-- `configure_from_parameters`; what is written before a check that fails stays. -/
def configureFromParameters (reader : YamlReader) (stored : Stored) :
    Configuring SubscriptionConfig MqttParameters PUnit PUnit := do
  modify fun settings => { settings with
    qosDepth := (stored .qosDepth).toInt32
    metrics :=
      { enabled := stored (.metrics .enabled)
        intervalMs := (stored (.metrics .intervalMs)).toInt32
        topic := stored (.metrics .topic) } }
  let settings ← get
  require (validateQosDepth settings.qosDepth)
  let configured ← require (parseSubscriptionsYaml reader (stored .subscriptionsYaml))
  modify fun settings => { settings with configuredSubscriptions := configured }
  configureMqttParameters stored

/-! ### Subscriptions -/

/-- `map_mqtt_topic`. -/
def mapMqttTopic (mqtt : MqttParameters) (rosTopic : String) : String :=
  if mqtt.topicMappingMode = .fixed then mqtt.fixedTopic
  else
    let normalized := Tokens.dropLeading '/' rosTopic.toList
    let topicPrefix := mqtt.topicPrefix.toList
    if topicPrefix = [] then String.ofList normalized
    else if topicPrefix.getLast? = some '/' ∨ normalized = [] then
      String.ofList (topicPrefix ++ normalized)
    else String.ofList (topicPrefix ++ '/' :: normalized)

/-- `SubscriptionRuntime`, without its counters: the handles are given by whether they are
set. -/
structure SubscriptionRuntime where
  rosTopic : String
  msgType : String
  mqttTopic : String
  messageKey : String
  payloadFormat : PayloadFormat := .cdr
  rmwTypeSupport : Bool := false
  introspectionTypeSupport : Bool := false
deriving DecidableEq, Repr

abbrev Resources := Sinks.Resources SubscriptionRuntime

/-- The state of a subscription before it is created: the type support is loaded for the
format `json` and for a message key, and `cdr` is used where that fails. -/
def newRuntime (mqtt : MqttParameters) (load : LoadOutcome) (config : SubscriptionConfig) :
    SubscriptionRuntime :=
  let runtime : SubscriptionRuntime :=
    { rosTopic := config.topicName
      msgType := config.msgType
      mqttTopic := mapMqttTopic mqtt (config.mqttName.getD config.topicName)
      messageKey := mqtt.messageKey
      payloadFormat := mqtt.payloadFormat }
  if mqtt.payloadFormat = .json ∨ mqtt.messageKey ≠ "" then
    { runtime with
      payloadFormat := if load.loaded then mqtt.payloadFormat else .cdr
      rmwTypeSupport := load.rmw
      introspectionTypeSupport := load.introspection }
  else runtime

/-- The second attempt to load the type support, once the subscription is created. -/
def SubscriptionRuntime.settle (runtime : SubscriptionRuntime) (reload : LoadOutcome) :
    SubscriptionRuntime :=
  if (runtime.payloadFormat = .json ∨ runtime.messageKey ≠ "") ∧
      runtime.rmwTypeSupport = false then
    { runtime with
      rmwTypeSupport := reload.rmw
      introspectionTypeSupport := reload.introspection
      payloadFormat := if reload.rmw && reload.introspection then runtime.payloadFormat else .cdr }
  else runtime

/-- The `n`-th entry of `build_subscriptions`. -/
def plannedSubscription (mqtt : MqttParameters) (outside : Activation) (n : Nat)
    (config : SubscriptionConfig) : PlannedSubscription SubscriptionRuntime :=
  let runtime := newRuntime mqtt (outside.load n) config
  { fresh :=
      { topicName := config.topicName, msgType := config.msgType, runtimeState := runtime }
    settled := runtime.settle (outside.reload n) }

/-! ### The node -/

/-- The configured subscriptions as `build_subscriptions` goes through them. -/
def planned (settings : Settings) (outside : Activation) :
    List (PlannedSubscription SubscriptionRuntime) :=
  settings.configuredSubscriptions.mapIdx (plannedSubscription settings.broker outside)

/-- What `mosquitto_sink` does in its own way. -/
def kind (reader : YamlReader) :
    Kind Name Name.Value SubscriptionConfig MqttParameters PUnit SubscriptionRuntime where
  configureFromParameters := configureFromParameters reader
  onParametersSet := onParametersSet reader
  planned := planned

abbrev Node := Sinks.Node Stored SubscriptionConfig MqttParameters PUnit SubscriptionRuntime

/-- The node as its constructor leaves it; `stored` are the declared values, or the ones that
override them. -/
def boot (stored : Stored) : Node where
  stored
  settings := initialSettings

end Ros2Dispatcher.MosquittoSink
