import Ros2Dispatcher.KafkaClient.Types

/-!
# The Kafka producer

`KafkaProducer` and its member functions, each of the `_locked` ones and each section that
holds `mutex_` as a function on the members. `send` is one such section from beginning to
end; of `start`, `stop` and `poll_loop` the sections are `startLocked`, `stopLocked` and
`pollLocked`, and `Threads` puts them together.

The counters are natural numbers. Deliveries carry two lists the source does not have: the
calls of `produce` with their outcomes, which is what librdkafka sees, and the calls of
`send` made while `running_`, with what they returned.
-/

namespace Ros2Dispatcher.KafkaClient

/-- The members about records, and the history of the calls. -/
structure Deliveries where
  pendingRecords : List SentRecord := []
  sentOk : Nat := 0
  droppedQueueFull : Nat := 0
  sendErrors : Nat := 0
  produced : List (SentRecord × ErrorCode) := []
  returned : List (SentRecord × KafkaSendResult) := []
deriving DecidableEq, Repr

/-- The members of `KafkaProducer`; `hasProducer` says that `producer_` is set. -/
structure KafkaProducer extends Deliveries where
  hasProducer : Bool := false
  running : Bool := false
  status : ProducerStatus := .stopped
  lastError : String := ""
deriving DecidableEq, Repr

/-- The records passed to `send` while `running_`, in order. -/
def Deliveries.sent (books : Deliveries) : List SentRecord :=
  books.returned.map Prod.fst

/-- The records `send` returned `buffered = true` for, in order. -/
def Deliveries.buffered (books : Deliveries) : List SentRecord :=
  (books.returned.filter fun call => call.2.buffered).map Prod.fst

/-- The records librdkafka accepted, in order. -/
def Deliveries.accepted (books : Deliveries) : List SentRecord :=
  (books.produced.filter fun call => call.2 = .noError).map Prod.fst

/-- The records librdkafka refused for good, in order. -/
def Deliveries.failed (books : Deliveries) : List SentRecord :=
  (books.produced.filter fun call => call.2 ≠ .noError ∧ call.2 ≠ .queueFull).map Prod.fst

section

variable (config : KafkaProducerConfig) (rdkafka : RdKafka)

/-- `create_producer_locked`; the error message is `none` where the source returns true. -/
def createProducerLocked (p : KafkaProducer) : Option String × KafkaProducer :=
  match config.entries.findSome? fun entry => rdkafka.set entry.1 entry.2 with
  | some error => (some error, p)
  | none =>
    match rdkafka.create with
    | some error => (some error, p)
    | none => (none, { p with hasProducer := true, status := .running, lastError := "" })

/-- A call of `produce` and its outcome. -/
def KafkaProducer.logProduce (p : KafkaProducer) (record : SentRecord) (code : ErrorCode) :
    KafkaProducer :=
  { p with produced := p.produced ++ [(record, code)] }

/-- `++dropped_queue_full_`. -/
def KafkaProducer.countDropped (p : KafkaProducer) : KafkaProducer :=
  { p with droppedQueueFull := p.droppedQueueFull + 1 }

/-- `try_produce_locked`. -/
def tryProduceLocked (record : SentRecord) (p : KafkaProducer) :
    KafkaSendResult × KafkaProducer :=
  if !p.hasProducer then (⟨.producerUnavailable, "producer not available", false⟩, p)
  else
    let result := rdkafka.produce record record.record.message
    let p := p.logProduce record result
    match result with
    | .noError => (⟨.sent, "", false⟩, { p with sentOk := p.sentOk + 1 })
    | .queueFull => (⟨.queueFull, rdkafka.err2str result, false⟩, p)
    | .other _ =>
      (⟨.error, rdkafka.err2str result, false⟩,
        { p with sendErrors := p.sendErrors + 1, lastError := rdkafka.err2str result })

/-- The end of `send`: buffer the record for a retry, if there is room. -/
def bufferRecord (record : SentRecord) (p : KafkaProducer) : KafkaSendResult × KafkaProducer :=
  if config.maxQueueMessages ≤ p.pendingRecords.length then
    -- the record is lost, and counted
    (⟨.queueFull, "pending buffer full", false⟩, p.countDropped)
  else
    (⟨.queueFull, "buffered for retry", true⟩,
      { p with pendingRecords := p.pendingRecords ++ [record] })

/-- `send` after the check of `running_`. -/
def sendRunning (record : SentRecord) (p : KafkaProducer) : KafkaSendResult × KafkaProducer :=
  if p.hasProducer then
    let (result, p) := tryProduceLocked rdkafka record p
    if result.status ≠ .queueFull || config.dropWhenFull then
      if result.status = .queueFull && config.dropWhenFull then (result, p.countDropped)
      else (result, p)
    -- librdkafka is full and buffering is allowed: the record is kept for a retry
    else bufferRecord config record p
  else bufferRecord config record p

/-- `send`; its arguments are the record it makes of them. -/
def send (record : QueuedRecord) (p : KafkaProducer) : KafkaSendResult × KafkaProducer :=
  if !p.running then (⟨.producerUnavailable, "producer stopped", false⟩, p)
  else
    let record := ⟨p.returned.length, record⟩
    let (result, p) := sendRunning config rdkafka record p
    (result, { p with returned := p.returned ++ [(record, result)] })

/-- The loop of `poll_loop` over `pending_records_`, which are `records`. -/
def drainPending : List SentRecord → KafkaProducer → KafkaProducer
  | [], p => p
  | record :: rest, p =>
    let (result, p) := tryProduceLocked rdkafka record p
    -- librdkafka is full: this record and those behind it wait for the next round
    if result.status = .queueFull && !config.dropWhenFull then p
    else
      let p := if result.status = .queueFull && config.dropWhenFull then p.countDropped else p
      drainPending rest { p with pendingRecords := rest }

/-- One iteration of `poll_loop` up to the point where it releases `mutex_`. -/
def pollLocked (p : KafkaProducer) : KafkaProducer :=
  let p :=
    if !p.hasProducer then
      match createProducerLocked config rdkafka p with
      | (some error, p) => { p with status := .degraded, lastError := error }
      | (none, p) => p
    else p
  -- records that were sent without a producer go out with the first iteration that has one
  if p.hasProducer then drainPending config rdkafka p.pendingRecords p else p

/-- The section of `start`, and whether it goes on to start the poll thread. -/
def startLocked (p : KafkaProducer) : Bool × KafkaProducer :=
  match createProducerLocked config rdkafka p with
  | (none, p) => (true, p)
  | (some error, p) =>
    if config.startupMode = .strict then
      (false, { p with running := false, status := .failed, lastError := error })
    else (true, { p with status := .degraded, lastError := error })

end

/-- The section of `stop`. Flushing changes no member. -/
def stopLocked (p : KafkaProducer) : KafkaProducer :=
  { p with hasProducer := false, pendingRecords := [], status := .stopped }

/-- `health`. -/
def health (p : KafkaProducer) : ProducerHealth where
  status := p.status
  lastError := p.lastError
  sentOk := p.sentOk
  droppedQueueFull := p.droppedQueueFull
  sendErrors := p.sendErrors

end Ros2Dispatcher.KafkaClient
