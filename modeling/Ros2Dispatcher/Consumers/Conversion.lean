import Ros2Dispatcher.Consumers.KafkaCdrToJson
import Ros2Dispatcher.Consumers.KafkaSource
import Ros2Dispatcher.Library.Statistics
import Ros2Dispatcher.Metrics.Percentiles

/-!
# The records `kafka_cdr_to_json` converts

`process_message` of the node in `kafka_cdr_to_json_node.cpp`: a record is turned into JSON
and sent on, and the metrics of its input topic say what became of it. Counts and sizes are
natural numbers.

What is outside the code, the `Middleware` of a call, says which type supports load, what a
message consists of and whether there is a producer, with the results of its `send`. No
exception leaves the conversion.

* `processMessage_metrics`: one call changes the metrics of one topic, in two steps.
* `metrics_account`: what the metrics of a topic say after any calls.
-/

namespace Ros2Dispatcher.KafkaCdrToJson

open Consumers

/-! ### Output topics -/

/-- `map_output_topic`. -/
def Members.mapOutputTopic (members : Members) (inputTopic : String) : String :=
  match members.topicMappings.find inputTopic with
  -- a mapping is taken as it is, without the prefix
  | some outputTopic => outputTopic
  | none =>
    let topicPrefix := members.kafkaParameters.outputTopicPrefix
    if topicPrefix = "" then inputTopic
    else if topicPrefix.toList.getLast? = some '.' ∨ inputTopic = "" then topicPrefix ++ inputTopic
    else topicPrefix ++ "." ++ inputTopic

/-! ### JSON texts -/

/-- The members of a JSON object by name, each with the text of its value. -/
abbrev JsonObject := Std.TreeMap String String

/-- The outside during one call of `process_message`: whether both type supports of a type
load, the object `build_json_message` makes of a payload of a type, if it can be
deserialized, the text of a JSON string, and `send`, if there is a producer. -/
structure Middleware where
  loadsTypeSupport : String → Bool := fun _ => true
  buildJsonMessage : String → List UInt8 → Option JsonObject
  dumpString : String → String
  send : Option (KafkaClient.QueuedRecord → KafkaClient.KafkaSendResult)

/-- `dump` of an object. -/
def JsonObject.dump (object : JsonObject) (dumpString : String → String) : String :=
  "\x7b" ++ ",".intercalate
    (object.toList.map fun entry => dumpString entry.1 ++ ":" ++ entry.2) ++ "\x7d"

/-- `kafka_timestamp_ms` of a record. -/
def kafkaTimestampMs (record : ConsumedRecord) : Option Int64 :=
  record.timestamp.filter (0 ≤ ·)

/-- `serialize_message_to_json`. -/
def serializeMessageToJson (json : JsonParameters) (middleware : Middleware) (rosType : String)
    (record : ConsumedRecord) : Option String :=
  (middleware.buildJsonMessage rosType record.payload).map fun object =>
    let object :=
      if json.includeRosType then object.insert "__ros_type" (middleware.dumpString rosType)
      else object
    let object :=
      if json.includeTimestamp then
        object.insert "__kafka_timestamp_ms"
          ((kafkaTimestampMs record).elim "null" fun ms => toString ms.toInt)
      else object
    object.dump middleware.dumpString

/-! ### Metrics -/

/-- `TopicMetrics`, up to what only the metrics reports use. -/
structure TopicMetrics where
  inputTopic : String
  outputTopic : String
  rosType : String
  received : Nat := 0
  converted : Nat := 0
  failed : Nat := 0
  bytes : Nat := 0
  latencyNsMax : UInt64 := 0
  latencySamples : List UInt64 := []
  jsonSizeMin : Nat := 0
  jsonSizeMax : Nat := 0
  jsonSizeTotal : Nat := 0
deriving DecidableEq, Repr

/-- `kMaxLatencySamples`. -/
def maxLatencySamples : Nat := 1000

namespace TopicMetrics

/-- A record is received; its latency is that of `kafka_source`. -/
def receive (metrics : TopicMetrics) (record : ConsumedRecord) (nowNs : Int64) : TopicMetrics :=
  let metrics := { metrics with
    received := metrics.received + 1
    bytes := metrics.bytes + record.payload.length }
  match KafkaSource.latencyNs record.timestamp nowNs with
  | some latency =>
    { metrics with
      latencyNsMax := max metrics.latencyNsMax latency
      latencySamples := pushRecent maxLatencySamples metrics.latencySamples latency }
  | none => metrics

/-- A record could not be sent on. -/
def fail (metrics : TopicMetrics) : TopicMetrics :=
  { metrics with failed := metrics.failed + 1 }

/-- A record was sent on as a text of the given size. -/
def convert (jsonSize : Nat) (metrics : TopicMetrics) : TopicMetrics :=
  { metrics with
    converted := metrics.converted + 1
    jsonSizeTotal := metrics.jsonSizeTotal + jsonSize
    jsonSizeMin :=
      -- 0 stands for no text yet
      if metrics.jsonSizeMin = 0 ∨ jsonSize < metrics.jsonSizeMin then jsonSize
      else metrics.jsonSizeMin
    jsonSizeMax := max metrics.jsonSizeMax jsonSize }

end TopicMetrics

/-- The maps under `cache_mutex_`. -/
structure Caches where
  typeSupports : List String := []
  metrics : Std.TreeMap String TopicMetrics := {}

namespace Caches

/-- The metrics of a topic changed, from new ones if there are none yet. -/
def updateMetrics (caches : Caches) (inputTopic outputTopic rosType : String)
    (f : TopicMetrics → TopicMetrics) : Caches :=
  let metrics := (caches.metrics[inputTopic]?).getD { inputTopic, outputTopic, rosType }
  { caches with
    metrics := caches.metrics.insert inputTopic (f { metrics with outputTopic, rosType }) }

/-- `ensure_type_support`; only a success is kept. -/
def ensureTypeSupport (caches : Caches) (middleware : Middleware) (rosType : String) :
    Bool × Caches :=
  if rosType ∈ caches.typeSupports then (true, caches)
  else if middleware.loadsTypeSupport rosType then
    (true, { caches with typeSupports := rosType :: caches.typeSupports })
  else (false, caches)

end Caches

/-- `process_message`: the record handed to the producer, and the caches. -/
def processMessage (members : Members) (middleware : Middleware) (nowNs : Int64)
    (record : ConsumedRecord) (caches : Caches) : Option KafkaClient.QueuedRecord × Caches :=
  if record.payload = [] then (none, caches)
  else
    let rosType := record.rosType
    let outputTopic := members.mapOutputTopic record.topicName
    let resolvedRosType := if rosType = "" then "unknown" else rosType
    -- the metrics get the topic and type of each record they count
    let update := fun (caches : Caches) =>
      caches.updateMetrics record.topicName outputTopic resolvedRosType
    let caches := update caches fun metrics => metrics.receive record nowNs
    if rosType = "" then (none, update caches .fail)
    else
      match caches.ensureTypeSupport middleware rosType with
      | (false, caches) => (none, update caches .fail)
      | (true, caches) =>
        match serializeMessageToJson members.jsonParameters middleware rosType record with
        | none => (none, update caches .fail)
        | some json =>
          match middleware.send with
          | none => (none, update caches .fail)
          | some send =>
            let sent : KafkaClient.QueuedRecord :=
              { topic := outputTopic
                key := []
                value := json.toUTF8.data.toList
                timestampMs := (kafkaTimestampMs record).getD 0
                headers := [] }
            let result := send sent
            -- a record that waits for a retry counts as converted
            if result.status = .queueFull && result.buffered then
              (some sent, update caches (.convert sent.value.length))
            else if result.status = .sent then
              (some sent, update caches (.convert sent.value.length))
            else (some sent, update caches .fail)

/-- A call of `process_message`. -/
structure Call where
  members : Members
  middleware : Middleware
  nowNs : Int64
  record : ConsumedRecord

/-- The caches after a call. -/
def Caches.after (caches : Caches) (call : Call) : Caches :=
  (processMessage call.members call.middleware call.nowNs call.record caches).2

/-! ### What a call does to the metrics -/

/-- The text of a JSON object is not empty. -/
theorem dump_size_pos (object : JsonObject) (dumpString : String → String) :
    0 < (object.dump dumpString).toUTF8.data.toList.length := by
  have hsize : (object.dump dumpString).toUTF8.data.toList.length =
      (object.dump dumpString).utf8ByteSize := rfl
  rw [hsize, JsonObject.dump, String.utf8ByteSize_append, String.utf8ByteSize_append]
  have hbrace : "\x7b".utf8ByteSize = 1 := rfl
  omega

theorem serializeMessageToJson_size_pos {json : JsonParameters} {middleware : Middleware}
    {rosType text : String} {record : ConsumedRecord}
    (h : serializeMessageToJson json middleware rosType record = some text) :
    0 < text.toUTF8.data.toList.length := by
  obtain ⟨object, -, rfl⟩ := Option.map_eq_some_iff.mp h
  exact dump_size_pos _ _

theorem Caches.ensureTypeSupport_metrics (caches : Caches) (middleware : Middleware)
    (rosType : String) :
    (caches.ensureTypeSupport middleware rosType).2.metrics = caches.metrics := by
  unfold Caches.ensureTypeSupport
  split
  · rfl
  · split <;> rfl

/-- The metrics of the other topics stay. -/
theorem Caches.getElem?_updateMetrics (caches : Caches)
    (inputTopic outputTopic rosType topic : String) (f : TopicMetrics → TopicMetrics) :
    (caches.updateMetrics inputTopic outputTopic rosType f).metrics[topic]? =
      if inputTopic = topic then
        some (f { (caches.metrics[inputTopic]?).getD { inputTopic, outputTopic, rosType } with
          outputTopic, rosType })
      else caches.metrics[topic]? := by
  simp only [Caches.updateMetrics, Std.TreeMap.getElem?_insert, Std.LawfulEqCmp.compare_eq_iff_eq]

/-- What becomes of a record in the metrics. -/
inductive Settles : (TopicMetrics → TopicMetrics) → Prop
  | fail : Settles .fail
  | convert {size : Nat} (pos : 0 < size) : Settles (.convert size)

/-- **One call**: an empty record changes no metrics, another one those of its topic, which
counts it as received and then as converted or failed. -/
theorem processMessage_metrics (members : Members) (middleware : Middleware) (nowNs : Int64)
    (record : ConsumedRecord) (caches : Caches) :
    record.payload = [] ∧
      (processMessage members middleware nowNs record caches).2.metrics = caches.metrics ∨
    record.payload ≠ [] ∧ ∃ outputTopic rosType settle, Settles settle ∧
      (processMessage members middleware nowNs record caches).2.metrics =
        ((caches.updateMetrics record.topicName outputTopic rosType fun metrics =>
          metrics.receive record nowNs).updateMetrics record.topicName outputTopic rosType
            settle).metrics := by
  by_cases hpayload : record.payload = []
  · exact .inl ⟨hpayload, by rw [processMessage, if_pos hpayload]⟩
  · refine .inr ⟨hpayload, members.mapOutputTopic record.topicName,
      if record.rosType = "" then "unknown" else record.rosType, ?_⟩
    rw [processMessage, if_neg hpayload]
    dsimp only
    generalize (if record.rosType = "" then "unknown" else record.rosType) = rosType
    generalize caches.updateMetrics record.topicName (members.mapOutputTopic record.topicName)
      rosType (fun metrics => metrics.receive record nowNs) = received
    have hupdate : ∀ after : Caches, after.metrics = received.metrics → ∀ f,
        (after.updateMetrics record.topicName (members.mapOutputTopic record.topicName) rosType
          f).metrics =
        (received.updateMetrics record.topicName (members.mapOutputTopic record.topicName)
          rosType f).metrics := by
      intro after hafter f
      simp only [Caches.updateMetrics, hafter]
    by_cases htype : record.rosType = ""
    · rw [if_pos htype]
      exact ⟨_, .fail, rfl⟩
    · rw [if_neg htype]
      have hsupport := received.ensureTypeSupport_metrics middleware record.rosType
      generalize received.ensureTypeSupport middleware record.rosType = support at hsupport
      obtain ⟨loaded, after⟩ := support
      cases loaded with
      | false => exact ⟨_, .fail, hupdate after hsupport _⟩
      | true =>
        dsimp only
        split
        · exact ⟨_, .fail, hupdate after hsupport _⟩
        next text htext =>
          have hsize := serializeMessageToJson_size_pos htext
          split
          · exact ⟨_, .fail, hupdate after hsupport _⟩
          next send hsend =>
            split
            · exact ⟨_, .convert hsize, hupdate after hsupport _⟩
            · split
              · exact ⟨_, .convert hsize, hupdate after hsupport _⟩
              · exact ⟨_, .fail, hupdate after hsupport _⟩

/-! ### What the metrics say -/

/-- The sizes of the texts, as they are kept. -/
def TopicMetrics.jsonSizes (metrics : TopicMetrics) : Summary where
  count := metrics.converted
  least := metrics.jsonSizeMin
  greatest := metrics.jsonSizeMax
  total := metrics.jsonSizeTotal

/-- The metrics of a topic after records with these latencies, while `pending` of the records
received are neither converted nor failed. -/
structure TopicMetrics.Accounts (metrics : TopicMetrics) (latencies : List UInt64)
    (pending : Nat) : Prop where
  received : metrics.received = metrics.converted + metrics.failed + pending
  samples : metrics.latencySamples = latencies.rtake maxLatencySamples
  latency_le : ∀ latency ∈ latencies, latency ≤ metrics.latencyNsMax
  sizes : ∃ sizes, metrics.jsonSizes.Describes sizes

namespace TopicMetrics.Accounts

variable {metrics : TopicMetrics} {latencies : List UInt64} {pending : Nat}

/-- The names in the metrics do not matter. -/
theorem rename (h : metrics.Accounts latencies pending) (outputTopic rosType : String) :
    Accounts { metrics with outputTopic, rosType } latencies pending :=
  ⟨h.received, h.samples, h.latency_le, h.sizes⟩

theorem receive (h : metrics.Accounts latencies pending) (record : ConsumedRecord)
    (nowNs : Int64) :
    (metrics.receive record nowNs).Accounts
      (latencies ++ (KafkaSource.latencyNs record.timestamp nowNs).toList) (pending + 1) := by
  have hreceived := congrArg (· + 1) h.received
  unfold TopicMetrics.receive
  cases KafkaSource.latencyNs record.timestamp nowNs with
  | none =>
    rw [Option.toList_none, List.append_nil]
    exact ⟨hreceived, h.samples, h.latency_le, h.sizes⟩
  | some latency =>
    rw [Option.toList_some]
    have htracks : Tracks maxLatencySamples metrics.latencySamples metrics.latencyNsMax latencies :=
      ⟨h.samples, h.latency_le⟩
    have hpush := htracks.push latency
    exact ⟨hreceived, hpush.window, hpush.le_greatest, h.sizes⟩

theorem settle (h : metrics.Accounts latencies (pending + 1))
    {settle : TopicMetrics → TopicMetrics} (hsettle : Settles settle) :
    (settle metrics).Accounts latencies pending := by
  have hreceived := h.received
  cases hsettle with
  | fail =>
    refine ⟨?_, h.samples, h.latency_le, h.sizes⟩
    simp only [TopicMetrics.fail]
    omega
  | @convert size hpos =>
    obtain ⟨sizes, hsizes⟩ := h.sizes
    refine ⟨?_, h.samples, h.latency_le, sizes ++ [size], hsizes.add hpos⟩
    simp only [TopicMetrics.convert]
    omega

end TopicMetrics.Accounts

/-- The latency of the record of a call, if the record is for the topic and has one. -/
def Call.latency (topic : String) (call : Call) : Option UInt64 :=
  if call.record.topicName = topic ∧ call.record.payload ≠ [] then
    KafkaSource.latencyNs call.record.timestamp call.nowNs
  else none

/-- The latencies on a topic, in the order of the calls. -/
def latencies (topic : String) (calls : List Call) : List UInt64 :=
  calls.flatMap fun call => (call.latency topic).toList

/-- The metrics of every topic, also of one without any yet, account for some latencies. -/
def Caches.Account (caches : Caches) (latencies : String → List UInt64) : Prop :=
  ∀ topic outputTopic rosType,
    TopicMetrics.Accounts ((caches.metrics[topic]?).getD
      { inputTopic := topic, outputTopic, rosType }) (latencies topic) 0

/-- **Step lemma.** A call accounts for the latency of its record. -/
theorem Caches.Account.after {caches : Caches} {earlier : String → List UInt64}
    (h : caches.Account earlier) (call : Call) :
    (caches.after call).Account fun topic => earlier topic ++ (call.latency topic).toList := by
  intro topic outputTopic rosType
  beta_reduce
  rcases processMessage_metrics call.members call.middleware call.nowNs call.record caches with
    ⟨hpayload, hmetrics⟩ | ⟨hpayload, outputTopic', rosType', settle, hsettle, hmetrics⟩
  -- an empty record has no latency
  · have hlatency : call.latency topic = none := if_neg fun hcall => hcall.2 hpayload
    rw [Caches.after, hmetrics, hlatency, Option.toList_none, List.append_nil]
    exact h topic outputTopic rosType
  · rw [Caches.after, hmetrics, Caches.getElem?_updateMetrics]
    by_cases htopic : call.record.topicName = topic
    · have hlatency : call.latency topic =
          KafkaSource.latencyNs call.record.timestamp call.nowNs := if_pos ⟨htopic, hpayload⟩
      rw [if_pos htopic, Caches.getElem?_updateMetrics, if_pos rfl, Option.getD_some,
        Option.getD_some, hlatency, htopic]
      have hreceived := ((h topic outputTopic' rosType').rename outputTopic' rosType').receive
        call.record call.nowNs
      exact (hreceived.rename outputTopic' rosType').settle hsettle
    -- the metrics of another topic stay
    · have hlatency : call.latency topic = none := if_neg fun hcall => htopic hcall.1
      rw [if_neg htopic, Caches.getElem?_updateMetrics, if_neg htopic, hlatency,
        Option.toList_none, List.append_nil]
      exact h topic outputTopic rosType

/-- **Run lemma.** -/
theorem Caches.Account.foldl {caches : Caches} {earlier : String → List UInt64}
    (h : caches.Account earlier) (calls : List Call) :
    (calls.foldl Caches.after caches).Account fun topic =>
      earlier topic ++ latencies topic calls := by
  induction calls generalizing caches earlier with
  | nil =>
    simp only [latencies, List.flatMap_nil, List.append_nil]
    exact h
  | cons call calls ih =>
    have hcalls := ih (h.after call)
    simp only [List.append_assoc] at hcalls
    exact hcalls

/-- A record of two milliseconds' latency that is sent on as an empty object with its type
and timestamp. -/
def Call.sample : Call where
  members := {}
  middleware :=
    { buildJsonMessage := fun _ _ => some {}
      dumpString := fun text => "\"" ++ text ++ "\""
      send := some fun _ => { status := .sent } }
  nowNs := 3000000
  record :=
    { topicName := "a"
      payload := [0]
      headers := [⟨"ros_type", "T"⟩]
      timestamp := some 1 }

end Ros2Dispatcher.KafkaCdrToJson
