import Mathlib.Tactic.Common

/-!
# The Kafka producer's data

The types of `kafka_producer.hpp`, in the source's words, and what the code uses of
librdkafka. Durations are milliseconds.

`RdKafka` is librdkafka as one critical section of the code meets it: whether it takes a
configuration entry, whether it creates a producer, and how each `produce` ends. Nothing
relates its answers to each other, or those of one section to those of the next.
-/

namespace Ros2Dispatcher.KafkaClient

structure KafkaHeader where
  key : String
  value : String
deriving DecidableEq, Repr

inductive StartupMode
  | strict
  | tolerant
deriving DecidableEq, Repr

inductive ProducerStatus
  | stopped
  | starting
  | running
  | degraded
  | failed
deriving DecidableEq, Repr

inductive SendStatus
  | sent
  | queueFull
  | producerUnavailable
  | error
deriving DecidableEq, Repr

structure KafkaProducerConfig where
  bootstrapServers : String := "localhost:9092"
  clientId : String := "kafka_client"
  acks : String := "all"
  lingerMs : Option Int := none
  batchSize : Option Int := none
  queueBufferingMaxKbytes : Option Int := none
  maxInFlight : Option Int := none
  retries : Option Int := none
  retryBackoffMs : Option Int := none
  enableIdempotence : Bool := false
  maxQueueMessages : Nat := 1024
  dropWhenFull : Bool := true
  startupMode : StartupMode := .tolerant
  pollTimeoutMs : Int := 100
  reconnectBackoffMs : Int := 1000
  flushTimeoutMs : Int := 3000
deriving DecidableEq, Repr

structure KafkaSendResult where
  status : SendStatus := .error
  errorMessage : String := ""
  buffered : Bool := false
deriving DecidableEq, Repr

structure ProducerHealth where
  status : ProducerStatus := .stopped
  lastError : String := ""
  sentOk : Nat := 0
  droppedQueueFull : Nat := 0
  sendErrors : Nat := 0
deriving DecidableEq, Repr

structure QueuedRecord where
  topic : String
  key : List UInt8
  value : List UInt8
  timestampMs : Int64 := 0
  headers : List KafkaHeader
deriving DecidableEq, Repr

/-- A record with the number of the `send` call that brought it. The number is not in the
source and no function reads it; it tells records with equal contents apart. -/
structure SentRecord where
  call : Nat
  record : QueuedRecord
deriving DecidableEq, Repr

/-! ### librdkafka -/

/-- The error codes the code tells apart. -/
inductive ErrorCode
  | noError
  | queueFull
  | other (code : Int)
deriving DecidableEq, Repr

/-- The arguments of `produce` that depend on the record. -/
structure Message where
  topic : String
  payload : List UInt8
  key : Option (List UInt8)
  timestampMs : Int64
  headers : List KafkaHeader
deriving DecidableEq, Repr

/-- What `try_produce_locked` hands over for a record: an empty key is passed as none. -/
def QueuedRecord.message (record : QueuedRecord) : Message where
  topic := record.topic
  payload := record.value
  key := if record.key.isEmpty then none else some record.key
  timestampMs := record.timestampMs
  headers := record.headers

/-- librdkafka during one critical section: the error of `Conf::set` for an entry, the error
of `Producer::create`, the outcome of `produce` for a record, and the error texts. A section
tries no record twice. -/
structure RdKafka where
  set : String → String → Option String := fun _ _ => none
  create : Option String := none
  produce : SentRecord → Message → ErrorCode := fun _ _ => .noError
  err2str : ErrorCode → String := fun _ => ""

/-- The entries `create_producer_locked` sets, in order. -/
def KafkaProducerConfig.entries (config : KafkaProducerConfig) : List (String × String) :=
  let optional (key : String) (value : Option Int) : List (String × String) :=
    value.toList.map fun value => (key, toString value)
  [("bootstrap.servers", config.bootstrapServers), ("client.id", config.clientId),
    ("acks", config.acks)]
    ++ optional "linger.ms" config.lingerMs
    ++ optional "batch.size" config.batchSize
    ++ optional "queue.buffering.max.kbytes" config.queueBufferingMaxKbytes
    ++ optional "max.in.flight.requests.per.connection" config.maxInFlight
    ++ optional "retries" config.retries
    ++ optional "retry.backoff.ms" config.retryBackoffMs
    ++ (if config.enableIdempotence then [("enable.idempotence", "true")] else [])

end Ros2Dispatcher.KafkaClient
