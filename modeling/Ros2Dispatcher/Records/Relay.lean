import Mathlib.Algebra.BigOperators.Group.List.Basic
import Mathlib.Algebra.GroupWithZero.Nat
import Ros2Dispatcher.KafkaClient.Dropping
import Ros2Dispatcher.Library.PartitionedLog
import Ros2Dispatcher.Records.CdrPath

/-!
# The CDR relay

`kafka_sink` and `kafka_source` at work, with the broker in between: any number of activations of
the sink, each with settings of its own and a producer of its own; its subscription callbacks next
to the poll thread; and the consumer thread of the source. What librdkafka accepts is appended to
a log that keeps the order of the records with one topic and one key, as a Kafka broker does, and
that may lose records, since no delivery report is looked at.
-/

namespace Ros2Dispatcher.Relay

open Consumers KafkaClient KafkaSource Sinks Tokens

/-! ### The sink -/

/-- `build_producer_config`. -/
def producerConfig (kafka : KafkaSink.KafkaParameters) : KafkaProducerConfig where
  bootstrapServers := kafka.bootstrapServers
  clientId := kafka.clientId
  acks := kafka.acks
  lingerMs := kafka.lingerMs.map Int32.toInt
  batchSize := kafka.batchSize.map Int32.toInt
  maxQueueMessages := kafka.maxQueueMessages
  dropWhenFull := kafka.dropWhenFull
  startupMode := if kafka.strictStartup then .strict else .tolerant

/-- An active subscription with the entry it was built for. -/
structure Subscription where
  config : KafkaSink.SubscriptionConfig
  runtime : KafkaSink.SubscriptionRuntime
deriving DecidableEq, Repr

/-- The subscriptions of `build_subscriptions`, all of them created. -/
def subscriptions (kafka : KafkaSink.KafkaParameters) (configs : List KafkaSink.SubscriptionConfig)
    (outside : Activation) : List Subscription :=
  configs.mapIdx fun n config =>
    ⟨config, (KafkaSink.plannedSubscription kafka outside n config).settled⟩

/-- An activation of the sink: the producer with its poll thread, and the subscriptions. -/
structure Session where
  config : KafkaProducerConfig
  machine : Machine
  subscriptions : List Subscription
deriving DecidableEq, Repr

/-- A message that a subscription callback was called with. -/
structure Reception where
  subscription : Subscription
  msg : List UInt8
  nowNs : Int64
deriving DecidableEq, Repr

/-- The record that the callback of an active sink sends. -/
def Reception.record? (json : KafkaSink.JsonConversion) (reception : Reception) :
    Option QueuedRecord :=
  KafkaSink.onMessage json { isActive := true, client := true } reception.subscription.runtime
    reception.msg reception.nowNs

/-! ### The source -/

/-- What `consume` hands to `poll_loop`, a record by its place in the log. -/
inductive Consumed
  | null
  | timedOut
  | partitionEof
  | error
  | record (n : Nat)
deriving DecidableEq, Repr

/-- A message that the source published, with the record it is from. -/
structure Publication where
  message : Message
  publisher : Publisher
  bytes : List UInt8
deriving DecidableEq, Repr

/-! ### The system -/

/-- The partition of a record: the broker keeps the order of those with one topic and one key. -/
def partition (message : Message) : Option (String × List UInt8) :=
  message.key.map fun key => (message.topic, key)

/-- The two nodes and the broker. `producers` are those that `stop` has stopped. An exception of
`process_message` leaves the consumer thread and ends the process: `terminated`. -/
structure System where
  producers : List KafkaProducer := []
  session : Option Session := none
  received : List Reception := []
  broker : PartitionedLog Message := {}
  caches : Caches := {}
  published : List Publication := []
  terminated : Bool := false
deriving DecidableEq, Repr

/-- What can happen: the sink is activated with some settings, or deactivated; a subscription gets
a message; the poll thread takes a step; a round of the loop of the consumer thread; and a record
is lost on its way. -/
inductive Event
  | activate (kafka : KafkaSink.KafkaParameters) (configs : List KafkaSink.SubscriptionConfig)
    (outside : Activation) (rdkafka : RdKafka)
  | deactivate
  | receive (n : Nat) (msg : List UInt8) (nowNs : Int64) (rdkafka : RdKafka)
  | poll (step : PollStep)
  | consume (consumed : Consumed) (middleware : Middleware) (nowNs : Int64)
  | lose (n : Nat)

/-- The producer is in a new state: what librdkafka has accepted since goes to the broker. -/
def System.advance (s : System) (session : Session) (machine : Machine) : System :=
  { s with
    session := some { session with machine }
    broker := s.broker.append
      ((machine.producer.accepted.drop session.machine.producer.accepted.length).map
        fun sent => sent.record.message) }

/-- A round of `poll_loop` of the source that has a record. -/
def System.process (members : Members) (middleware : Middleware) (nowNs : Int64) (s : System)
    (message : Message) (broker : PartitionedLog Message) : System :=
  match processMessage members middleware nowNs (.ofMessage message) s.caches with
  | (.skipped, caches) => { s with broker, caches }
  | (.published publisher bytes, caches) =>
    { s with broker, caches, published := s.published ++ [⟨message, publisher, bytes⟩] }
  | (.threw, caches) => { s with broker, caches, terminated := true }

/-- One step, if it can happen. -/
def System.step (json : KafkaSink.JsonConversion) (members : Members) (s : System) :
    Event → Option System
  | .activate kafka configs outside rdkafka =>
    match s.session with
    | some _ => none
    | none =>
      match Machine.started (producerConfig kafka) rdkafka with
      | some machine => some { s with
          session := some ⟨producerConfig kafka, machine, subscriptions kafka configs outside⟩ }
      -- the activation fails
      | none => some s
  | .deactivate => s.session.map fun session =>
      { s with
        producers := s.producers ++ [(session.machine.stop session.config).producer]
        session := none }
  | .receive n msg nowNs rdkafka => do
    let session ← s.session
    let subscription ← session.subscriptions[n]?
    let reception := ⟨subscription, msg, nowNs⟩
    let s := { s with received := s.received ++ [reception] }
    match reception.record? json with
    | some record => some (s.advance session (session.machine.send session.config rdkafka record))
    -- a message that cannot be converted is counted by the subscription, and not sent
    | none => some s
  | .poll step => s.session.map fun session =>
      s.advance session (session.machine.poll session.config step)
  | .consume consumed middleware nowNs =>
    if s.terminated then none
    else
      match consumed with
      | .null => some s
      | .timedOut => some s
      | .partitionEof => some s
      | .error => some s
      | .record n => (s.broker.take partition n).map fun taken =>
          s.process members middleware nowNs taken.1 taken.2
  | .lose n => some { s with broker := s.broker.lose n }

/-! ### Routes -/

/-- The ROS name that a subscription's messages travel under. -/
def travelName (config : KafkaSink.SubscriptionConfig) : String :=
  config.kafkaName.getD config.topicName

/-- The Kafka topic of a name. -/
def kafkaTopic (name : RosName) : String :=
  String.ofList ("ros2.".toList ++ substitute '/' '.' (path '/' name.tokens).tail)

/-- The topic a name is published under: the tokens of the prefix stand before its own. -/
def target (tokens : List (List Char)) (name : RosName) : String :=
  String.ofList (path '/' (tokens ++ name.tokens))

/-- Settings of the sink that keep names apart, and records in order: no fixed topic, the prefix
that the source takes off again, and no record kept for a later try. -/
structure KeepsNames (kafka : KafkaSink.KafkaParameters) : Prop where
  mode : kafka.topicMappingMode = .prefixRosTopic
  topicPrefix : kafka.topicPrefix = "ros2" ∨ kafka.topicPrefix = "ros2."
  format : kafka.payloadFormat = .cdr
  dropWhenFull : kafka.dropWhenFull = true

/-- A source that adds a prefix with these tokens. -/
structure AddsPrefix (members : Members) (tokens : List (List Char)) : Prop where
  mappings : members.topicMappings = []
  valid : ValidTokens tokens
  written : WritesPrefix tokens members.rosTopicPrefix

/-- What a run is about: the sink is configured with names and types of the `routes`, a serialized
message has bytes, and the middleware can publish each of the routes. -/
def Event.OnRoutes (tokens : List (List Char)) (routes : RosName → String → Prop) :
    Event → Prop
  | .activate kafka configs _ _ => KeepsNames kafka ∧ ∀ config ∈ configs,
      ∃ name : RosName, travelName config = name.absolute ∧ routes name config.msgType
  | .receive _ msg _ _ => msg ≠ []
  | .consume _ middleware _ => ∀ name type, routes name type →
      middleware.Serves (target tokens name) type
  | _ => True

/-! ### What is relayed -/

/-- The messages received under a name, of a type, by subscriptions with a key. -/
def System.receivedOn (s : System) (name : RosName) (type : String) (key : List UInt8) :
    List (List UInt8) :=
  (s.received.filter fun reception =>
    travelName reception.subscription.config = name.absolute ∧
      reception.subscription.config.msgType = type ∧
      reception.subscription.runtime.messageKeyBytes = key).map Reception.msg

/-- The messages published under the target of a name, with a type, from records with a key. -/
def System.publishedOn (s : System) (tokens : List (List Char)) (name : RosName) (type : String)
    (key : List UInt8) : List (List UInt8) :=
  (s.published.filter fun publication =>
    publication.publisher = ⟨target tokens name, type⟩ ∧ publication.message.key = some key).map
      Publication.bytes

/-- The producers of the sink, one after the other. -/
def System.allProducers (s : System) : List KafkaProducer :=
  s.producers ++ s.session.toList.map fun session => session.machine.producer

/-- What librdkafka has accepted. -/
def System.accepted (s : System) : List Message :=
  s.allProducers.flatMap fun producer => producer.accepted.map fun sent => sent.record.message

/-- What was passed to `send`. -/
def System.sent (s : System) : List Message :=
  s.allProducers.flatMap fun producer => producer.sent.map fun sent => sent.record.message

/-- The sum of the `sent_ok_`. -/
def System.sentOk (s : System) : Nat :=
  (s.allProducers.map fun producer => producer.sentOk).sum

end Ros2Dispatcher.Relay
