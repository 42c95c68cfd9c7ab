import Ros2Dispatcher.Controller.Environment
import Ros2Dispatcher.KafkaClient.Types
import Ros2Dispatcher.Library.Lifecycle
import Ros2Dispatcher.Library.Tokens

/-!
# The nodes that consume Kafka

`kafka_source` and `kafka_cdr_to_json` are the same node around what they do with a record:
the same parameter callback, the same configuration, the same lifecycle callbacks. `Kind` is
what differs: the members a batch writes, their check, and whether there is a producer.

`on_parameters_set` writes the members parameter by parameter and checks them afterwards; a
rejection leaves them written. `on_configure` reads all of them from the stored values,
`on_activate` none.

A parameter is a name with a value of the type it is declared with. Integer parameters have
64 bits and the `int` members they go to 32.
-/

namespace Ros2Dispatcher.Consumers

open Lifecycle

/-! ### Topic mappings -/

/-- `topic_mappings_`, the entry that counts first. -/
abbrev TopicMappings := List (String × String)

/-- What one comma-separated segment adds to the mappings. -/
def addMapping (result : TopicMappings) (current : List Char) : TopicMappings :=
  match current.dropWhile (· ≠ '=') with
  | [] => result
  | _ :: rest =>
    let key := Tokens.trim (String.ofList (current.takeWhile (· ≠ '=')))
    let value := Tokens.trim (String.ofList rest)
    if key ≠ "" ∧ value ≠ "" then (key, value) :: result else result

/-- `parse_topic_mappings`; a later entry for a topic replaces an earlier one. -/
def parseTopicMappings (mappings : String) : TopicMappings :=
  (mappings.toList.splitOn ',').foldl addMapping []

/-- `topic_mappings_.find`. -/
def TopicMappings.find (mappings : TopicMappings) (topic : String) : Option String :=
  mappings.lookup topic

/-! ### Records -/

/-- A consumed record. A null payload is an empty one, and a record without a timestamp, or
with one that is not available, has none. -/
structure ConsumedRecord where
  topicName : String
  payload : List UInt8
  headers : List KafkaClient.KafkaHeader := []
  timestamp : Option Int64 := none
deriving DecidableEq, Repr

/-- The record a consumer gets of a produced message. -/
def ConsumedRecord.ofMessage (message : KafkaClient.Message) : ConsumedRecord where
  topicName := message.topic
  payload := message.payload
  headers := message.headers
  timestamp := some message.timestampMs

/-- The value of the first `ros_type` header, empty if there is none. -/
def ConsumedRecord.rosType (record : ConsumedRecord) : String :=
  match record.headers.find? fun header => header.key = "ros_type" with
  | some header => header.value
  | none => ""

/-! ### The outside -/

/-- How `start_consumer` or `start_producer` ends. -/
inductive StartOutcome
  | started
  | refused
  | throws
deriving DecidableEq, Repr

/-- The outside during one transition: the start of the consumer and the producer, and whether
creating the metrics publisher or the consumer thread throws. -/
structure Outside where
  consumer : StartOutcome := .started
  producer : StartOutcome := .started
  publisherThrows : Bool := false
  threadThrows : Bool := false
deriving DecidableEq, Repr

/-! ### What a consumer holds -/

/-- The members that hold something: pointers by whether they are set, the thread by whether
it is joinable. -/
structure Running where
  consumer : Bool := false
  producer : Bool := false
  consumerThread : Bool := false
  running : Bool := false
  isActive : Bool := false
  metricsPub : Bool := false
  metricsTimer : Bool := false
deriving DecidableEq, Repr

/-- Procedures on what a consumer holds; an exception carries its text. -/
abbrev Callback := EStateM String Running

/-- `start_consumer`: the consumer is kept once it is subscribed. -/
def startConsumer : StartOutcome → Callback Bool
  | .started => do
    modify fun held => { held with consumer := true }
    pure true
  | .refused => pure false
  | .throws => throw "start_consumer failed"

/-- `stop_consumer`. -/
def stopConsumer : Callback PUnit :=
  modify fun held => { held with consumer := false }

/-- `start_producer`: the producer is kept before it is started. -/
def startProducer : StartOutcome → Callback Bool
  | .started => do
    modify fun held => { held with producer := true }
    pure true
  | .refused => do
    modify fun held => { held with producer := false }
    pure false
  | .throws => do
    modify fun held => { held with producer := true }
    throw "start_producer failed"

/-- `stop_producer`. -/
def stopProducer : Callback PUnit :=
  modify fun held => { held with producer := false }

/-- `reset_metrics_timer`. A negative period makes `create_wall_timer` throw. -/
def resetMetricsTimer (enabled : Bool) (intervalMs : Int32) : Callback PUnit := do
  modify fun held => { held with metricsTimer := false }
  let held ← get
  if enabled && held.isActive then do
    (if intervalMs < 0 then throw "timer period cannot be negative" else pure ⟨⟩)
    modify fun held => { held with metricsTimer := true }
  else pure ⟨⟩

/-- Stop the loop of the consumer thread and join it. -/
def joinThread : Callback PUnit :=
  modify fun held => { held with running := false, consumerThread := false }

/-! ### The node -/

/-- A consumer between two calls: the stored parameter values, the members read from them and
what it holds. -/
structure Node (S M : Type) where
  stored : S
  members : M
  held : Running := {}

/-- What differs between the two consumers. `assign` is one round of the loop of
`on_parameters_set`, `read` what `configure_from_parameters` reads. -/
structure Kind (N : Type) (V : N → Type) (M : Type) where
  assign : M → ((name : N) × V name) → M
  read : ((name : N) → V name) → M
  validateParameters : M → Except String Unit
  metricsEnabled : M → Bool
  metricsIntervalMs : M → Int32
  hasProducer : Bool

/-- A node whose resources were changed by a callback. -/
def Node.after {S M : Type} (node : Node S M) (result : CallbackReturn × Running) :
    CallbackReturn × Node S M :=
  (result.1, { node with held := result.2 })

namespace Kind

variable {N : Type} {V : N → Type} {M : Type} (kind : Kind N V M)

/-- `on_parameters_set`: the answer, and the members after it. -/
def onParametersSet (isActive : Bool) (batch : List ((name : N) × V name)) (members : M) :
    SetParametersResult × M :=
  if isActive then (⟨false, "Cannot change parameters while node is active."⟩, members)
  else
    let members := batch.foldl kind.assign members
    match kind.validateParameters members with
    | .error reason => (⟨false, reason⟩, members)
    | .ok _ => (⟨true, "Parameters accepted."⟩, members)

/-- `on_configure`; `configure_from_parameters` reads the members and checks them. -/
def onConfigure (outside : Outside) (node : Node ((name : N) → V name) M) :
    CallbackReturn × Node ((name : N) → V name) M :=
  let node := { node with members := kind.read node.stored }
  match kind.validateParameters node.members with
  | .error _ => (.failure, node)
  | .ok _ =>
    if outside.publisherThrows then (.error, node)
    else (.success, { node with held := { node.held with metricsPub := true } })

/-- The consumer and the producer, where the node has one, started in turn. -/
def start (outside : Outside) : Callback Bool := do
  if ← startConsumer outside.consumer then
    if kind.hasProducer then
      if ← startProducer outside.producer then pure true
      else
        stopConsumer
        pure false
    else pure true
  else pure false

/-- The consumer and the producer stopped. -/
def stop : Callback PUnit := do
  stopConsumer
  if kind.hasProducer then stopProducer else pure ⟨⟩

/-- `on_activate`. -/
def onActivate (outside : Outside) (members : M) : Callback CallbackReturn := do
  if ← kind.start outside then
    modify fun held => { held with isActive := true }
    resetMetricsTimer (kind.metricsEnabled members) (kind.metricsIntervalMs members)
    modify fun held => { held with running := true }
    (if outside.threadThrows then throw "thread construction failed" else pure ⟨⟩)
    modify fun held => { held with consumerThread := true }
    pure .success
  else pure .failure

/-- `on_deactivate`. -/
def onDeactivate (members : M) : Callback CallbackReturn := do
  joinThread
  kind.stop
  modify fun held => { held with isActive := false }
  resetMetricsTimer (kind.metricsEnabled members) (kind.metricsIntervalMs members)
  pure .success

/-- `on_cleanup`. -/
def onCleanup : Callback CallbackReturn := do
  modify fun held => { held with isActive := false }
  joinThread
  kind.stop
  modify fun held => { held with metricsTimer := false, metricsPub := false }
  pure .success

/-- `on_shutdown`. -/
def onShutdown : Callback CallbackReturn := do
  modify fun held => { held with isActive := false }
  joinThread
  kind.stop
  pure .success

/-- The lifecycle callbacks. -/
def callback (transition : Lifecycle.Transition) (outside : Outside)
    (node : Node ((name : N) → V name) M) : CallbackReturn × Node ((name : N) → V name) M :=
  match transition with
  | .configure => kind.onConfigure outside node
  | .activate => node.after (callbackResult (kind.onActivate outside node.members) node.held)
  | .deactivate => node.after (callbackResult (kind.onDeactivate node.members) node.held)
  | .cleanup => node.after (callbackResult kind.onCleanup node.held)
  | .shutdown => node.after (callbackResult kind.onShutdown node.held)

/-- Setting parameters: the callback decides, and an accepted batch is stored. -/
def setParameters [DecidableEq N] (batch : List ((name : N) × V name))
    (node : Node ((name : N) → V name) M) : Node ((name : N) → V name) M :=
  let answer := kind.onParametersSet node.held.isActive batch node.members
  { node with
    stored := if answer.1.successful then storeBatch batch node.stored else node.stored
    members := answer.2 }

/-- A consumer as a managed node; it has no error callback of its own, and the default one
does not recover. -/
def managed [DecidableEq N] :
    Managed Outside (List ((name : N) × V name)) (Node ((name : N) → V name) M) where
  callback := kind.callback
  onError node := (.failure, node)
  setParameters _ := kind.setParameters

end Kind

end Ros2Dispatcher.Consumers
