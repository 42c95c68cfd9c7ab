import Ros2Dispatcher.Consumers.Consumer

/-!
# `kafka_cdr_to_json`

The configuration of the node in `kafka_cdr_to_json_node.cpp`: its parameters, the members
they go to and their check.
-/

namespace Ros2Dispatcher.KafkaCdrToJson

open Consumers

/-- The parameters of the node; other names are not its own. -/
inductive Name
  | bootstrapServers
  | groupId
  | inputTopicPattern
  | outputTopicPrefix
  | offsetReset
  | includeRosType
  | includeTimestamp
  | metricsEnabled
  | metricsIntervalMs
  | metricsTopic
  | topicMappings
  | other (name : String)
deriving DecidableEq, Repr

abbrev Name.Value : Name → Type
  | bootstrapServers => String
  | groupId => String
  | inputTopicPattern => String
  | outputTopicPrefix => String
  | offsetReset => String
  | includeRosType => Bool
  | includeTimestamp => Bool
  | metricsEnabled => Bool
  | metricsIntervalMs => Int64
  | metricsTopic => String
  | topicMappings => String
  | other _ => Unit

/-- One parameter of a batch. -/
abbrev Parameter := (name : Name) × name.Value

/-- The stored parameter values. -/
abbrev Stored := (name : Name) → name.Value

/-- `KafkaParameters`. -/
structure KafkaParameters where
  bootstrapServers : String := "localhost:9092"
  groupId : String := "ros2-cdr-to-json"
  inputTopicPattern : String := "^ros2\\..*"
  outputTopicPrefix : String := "ros2_json"
  offsetReset : String := "latest"
deriving DecidableEq, Repr

/-- `JsonParameters`. -/
structure JsonParameters where
  includeRosType : Bool := true
  includeTimestamp : Bool := true
deriving DecidableEq, Repr

/-- The members that the parameters go to. -/
structure Members where
  kafkaParameters : KafkaParameters := {}
  jsonParameters : JsonParameters := {}
  metricsEnabled : Bool := true
  metricsIntervalMs : Int32 := 1000
  metricsTopic : String := "kafka_cdr2json/metrics"
  topicMappings : TopicMappings := []
deriving DecidableEq, Repr

/-- The values the constructor declares. -/
def defaults : Stored
  | .bootstrapServers => "localhost:9092"
  | .groupId => "ros2-cdr-to-json"
  | .inputTopicPattern => "^ros2\\..*"
  | .outputTopicPrefix => "ros2_json"
  | .offsetReset => "latest"
  | .includeRosType => true
  | .includeTimestamp => true
  | .metricsEnabled => true
  | .metricsIntervalMs => (1000 : Int64)
  | .metricsTopic => "kafka_cdr2json/metrics"
  | .topicMappings => ""
  | .other _ => ()

/-- One round of the loop of `on_parameters_set`. -/
def assign (members : Members) : Parameter → Members
  | ⟨.bootstrapServers, value⟩ =>
    { members with kafkaParameters := { members.kafkaParameters with bootstrapServers := value } }
  | ⟨.groupId, value⟩ =>
    { members with kafkaParameters := { members.kafkaParameters with groupId := value } }
  | ⟨.inputTopicPattern, value⟩ =>
    { members with kafkaParameters := { members.kafkaParameters with inputTopicPattern := value } }
  | ⟨.outputTopicPrefix, value⟩ =>
    { members with kafkaParameters := { members.kafkaParameters with outputTopicPrefix := value } }
  | ⟨.offsetReset, value⟩ =>
    { members with kafkaParameters := { members.kafkaParameters with offsetReset := value } }
  | ⟨.includeRosType, value⟩ =>
    { members with jsonParameters := { members.jsonParameters with includeRosType := value } }
  | ⟨.includeTimestamp, value⟩ =>
    { members with jsonParameters := { members.jsonParameters with includeTimestamp := value } }
  | ⟨.metricsEnabled, value⟩ => { members with metricsEnabled := value }
  | ⟨.metricsIntervalMs, value⟩ => { members with metricsIntervalMs := value.toInt32 }
  | ⟨.metricsTopic, value⟩ => { members with metricsTopic := value }
  | ⟨.topicMappings, value⟩ => { members with topicMappings := parseTopicMappings value }
  | ⟨.other _, _⟩ => members

/-- What `configure_from_parameters` reads. -/
def read (stored : Stored) : Members where
  kafkaParameters :=
    { bootstrapServers := stored .bootstrapServers
      groupId := stored .groupId
      inputTopicPattern := stored .inputTopicPattern
      outputTopicPrefix := stored .outputTopicPrefix
      offsetReset := stored .offsetReset }
  jsonParameters :=
    { includeRosType := stored .includeRosType
      includeTimestamp := stored .includeTimestamp }
  metricsEnabled := stored .metricsEnabled
  metricsIntervalMs := (stored .metricsIntervalMs).toInt32
  metricsTopic := stored .metricsTopic
  topicMappings := parseTopicMappings (stored .topicMappings)

/-- `validate_parameters`. -/
def validateParameters (members : Members) : Except String Unit :=
  let kafka := members.kafkaParameters
  if kafka.bootstrapServers = "" then .error "kafka.bootstrap_servers must be non-empty."
  else if kafka.groupId = "" then .error "kafka.group_id must be non-empty."
  else if kafka.inputTopicPattern = "" then .error "kafka.input_topic_pattern must be non-empty."
  else if kafka.offsetReset ≠ "latest" ∧ kafka.offsetReset ≠ "earliest" then
    .error "kafka.offset_reset must be 'latest' or 'earliest'."
  else if members.metricsIntervalMs ≤ 0 then .error "metrics.interval_ms must be > 0."
  else if members.metricsEnabled = true ∧ members.metricsTopic = "" then
    .error "metrics.topic must be non-empty when metrics are enabled."
  else .ok ⟨⟩

/-- What `kafka_cdr_to_json` does in its own way. -/
def kind : Kind Name Name.Value Members where
  assign
  read
  validateParameters
  metricsEnabled := Members.metricsEnabled
  metricsIntervalMs := Members.metricsIntervalMs
  hasProducer := true

/-- Assigning one parameter is reading the stored values with that one changed. -/
theorem assign_read (stored : Stored) (parameter : Parameter) :
    assign (read stored) parameter =
      read (Function.update stored parameter.1 parameter.2) := by
  obtain ⟨name, value⟩ := parameter
  cases name <;> simp [assign, read]

/-- The declared values are those of the members, and pass their check. -/
theorem read_defaults : read defaults = {} ∧ validateParameters (read defaults) = .ok ⟨⟩ := by
  decide +kernel

abbrev Node := Consumers.Node Stored Members

/-- The node as its constructor leaves it; `stored` are the declared values, or the ones that
override them. -/
def boot (stored : Stored) : Node where
  stored
  members := {}

end Ros2Dispatcher.KafkaCdrToJson
