import Ros2Dispatcher.Records.CdrPath

/-!
# The format of a record

A record of `kafka_sink` carries the type of its message and not the format of its value, so
`kafka_source` takes every value for a CDR encoding. `published_is_cdr_iff` says exactly when
that is right: unless the subscription sends JSON, that is, the format is `json` and the type
support was loaded, and `kafka_source` publishes records of that topic and type.
-/

namespace Ros2Dispatcher

open Consumers KafkaSource Sinks

section Formats

variable {kafka : KafkaSink.KafkaParameters} {config : KafkaSink.SubscriptionConfig}
variable {outside : Activation} {n : Nat}

/-- The topic a subscription sends to. -/
def KafkaSink.SubscriptionConfig.kafkaTopic (config : KafkaSink.SubscriptionConfig)
    (kafka : KafkaSink.KafkaParameters) : String :=
  KafkaSink.mapKafkaTopic kafka (config.kafkaName.getD config.topicName)

/-- The state of a subscription of the format `json` whose type support was loaded. -/
theorem settled_json (hformat : kafka.payloadFormat = .json)
    (hloaded : (outside.load n).loaded = true) :
    (KafkaSink.plannedSubscription kafka outside n config).settled =
      { rosTopic := config.topicName
        msgType := config.msgType
        kafkaTopic := config.kafkaTopic kafka
        messageKeyBytes := (config.kafkaKey.getD kafka.messageKey).toUTF8.data.toList
        payloadFormat := .json
        rmwTypeSupport := true
        introspectionTypeSupport := true } := by
  obtain ⟨hrmw, hintrospection⟩ := (outside.load n).both_of_loaded hloaded
  simp [KafkaSink.plannedSubscription, KafkaSink.newRuntime, KafkaSink.SubscriptionRuntime.settle,
    KafkaSink.SubscriptionConfig.kafkaTopic, hformat, hloaded, hrmw, hintrospection]

/-- Every other subscription sends CDR: `json` falls back to `cdr` where the load fails. -/
theorem settled_cdr (h : ¬(kafka.payloadFormat = .json ∧ (outside.load n).loaded = true)) :
    (KafkaSink.plannedSubscription kafka outside n config).settled.payloadFormat = .cdr := by
  cases hformat : kafka.payloadFormat with
  | cdr =>
    simp [KafkaSink.plannedSubscription, KafkaSink.newRuntime,
      KafkaSink.SubscriptionRuntime.settle, hformat]
  | json =>
    have hloaded : (outside.load n).loaded = false := by simpa [hformat] using h
    simp [KafkaSink.plannedSubscription, KafkaSink.newRuntime,
      KafkaSink.SubscriptionRuntime.settle, hformat, hloaded]

end Formats

/-- One message and what it meets: the subscription, as it was set up during an activation of
`kafka_sink`, and the `kafka_source` its record comes to. -/
structure Delivery where
  kafka : KafkaSink.KafkaParameters
  config : KafkaSink.SubscriptionConfig
  outside : Activation := {}
  n : Nat := 0
  json : KafkaSink.JsonConversion
  held : KafkaSink.Resources := { isActive := true, client := true }
  msg : List UInt8
  sentNs : Int64 := 0
  members : Members := {}
  middleware : Middleware := .permissive
  receivedNs : Int64 := 0
  caches : Caches := {}

namespace Delivery

variable (delivery : Delivery)

/-- The subscription as it was set up. -/
def runtime : KafkaSink.SubscriptionRuntime :=
  (KafkaSink.plannedSubscription delivery.kafka delivery.outside delivery.n
    delivery.config).settled

/-- The record `kafka_sink` produces for the message. -/
def record : Option KafkaClient.QueuedRecord :=
  KafkaSink.onMessage delivery.json delivery.held delivery.runtime delivery.msg delivery.sentNs

/-- What `kafka_source` does with a record. -/
def processed (record : KafkaClient.QueuedRecord) : Processed :=
  (processMessage delivery.members delivery.middleware delivery.receivedNs
    (.ofMessage record.message) delivery.caches).1

/-- `kafka_source` publishes nothing but the bytes of the message, and no JSON. -/
def PublishedIsCdr : Prop :=
  ∀ record, delivery.record = some record → ∀ publisher bytes,
    delivery.processed record = .published publisher bytes →
      bytes = delivery.msg ∧ delivery.runtime.payloadFormat = .cdr

/-- The subscription sends JSON: the format is `json` and its type support was loaded. -/
def SendsJson : Prop :=
  delivery.kafka.payloadFormat = .json ∧
    (delivery.outside.load delivery.n).loaded = true

/-- A running sink converts the message to a JSON text that is not empty. -/
def Converts : Prop :=
  delivery.held.isActive = true ∧ delivery.held.client = true ∧ ∃ payload value,
    delivery.json.serializeMessageToJson delivery.config.msgType delivery.msg = some payload ∧
      delivery.json.applyTsEnvelopeToJson payload delivery.sentNs = some value ∧ value ≠ []

/-- `kafka_source` has, or gets, the type support and the publisher for the records of the
subscription. -/
def Accepts : Prop :=
  delivery.caches.HasTypeSupport delivery.middleware delivery.config.msgType ∧
    (delivery.caches.publisherFor delivery.middleware
      (delivery.members.rosTopic (delivery.config.kafkaTopic delivery.kafka))
      delivery.config.msgType).isSome = true

variable {delivery}

/-- What a subscription that sends CDR sends is the message. -/
theorem value_of_not_sendsJson (h : ¬delivery.SendsJson) {record : KafkaClient.QueuedRecord}
    (hrecord : delivery.record = some record) : record.value = delivery.msg := by
  have hformat : delivery.runtime.payloadFormat = .cdr := settled_cdr h
  unfold Delivery.record KafkaSink.onMessage KafkaSink.SubscriptionRuntime.value at hrecord
  rw [hformat] at hrecord
  split at hrecord
  · rw [← Option.some.inj hrecord]
  · cases hrecord

/-- The record of a JSON text. -/
def jsonRecord (delivery : Delivery) (value : List UInt8) : KafkaClient.QueuedRecord where
  topic := delivery.config.kafkaTopic delivery.kafka
  key := (delivery.config.kafkaKey.getD delivery.kafka.messageKey).toUTF8.data.toList
  value
  timestampMs := delivery.sentNs / 1000000
  headers := [⟨"ros_type", delivery.config.msgType⟩]

/-- A subscription that sends JSON sends the text that comes of the message. -/
theorem record_eq_some_iff (h : delivery.SendsJson) {record : KafkaClient.QueuedRecord} :
    delivery.record = some record ↔
      delivery.held.isActive = true ∧ delivery.held.client = true ∧ ∃ payload value,
        delivery.json.serializeMessageToJson delivery.config.msgType delivery.msg = some payload ∧
          delivery.json.applyTsEnvelopeToJson payload delivery.sentNs = some value ∧
          delivery.jsonRecord value = record := by
  have hruntime : delivery.runtime = _ := settled_json h.1 h.2
  unfold Delivery.record KafkaSink.onMessage KafkaSink.SubscriptionRuntime.value
  simp only [hruntime, Bool.and_self, if_true, Option.ite_none_right_eq_some, Bool.and_eq_true,
    Option.map_eq_some_iff, Option.bind_eq_bind, Option.bind_eq_some_iff, and_assoc, jsonRecord]
  refine and_congr_right fun _ => and_congr_right fun _ => ?_
  constructor
  · rintro ⟨value, ⟨payload, hserialize, happly⟩, hrecord⟩
    exact ⟨payload, value, hserialize, happly, hrecord⟩
  · rintro ⟨payload, value, hserialize, happly, hrecord⟩
    exact ⟨value, ⟨payload, hserialize, happly⟩, hrecord⟩

/-- What `kafka_source` does with the record of a JSON text. -/
theorem processed_jsonRecord {value bytes : List UInt8} {publisher : Publisher} :
    delivery.processed (delivery.jsonRecord value) = .published publisher bytes ↔
      bytes = value ∧ value ≠ [] ∧
        delivery.caches.HasTypeSupport delivery.middleware delivery.config.msgType ∧
        delivery.caches.publisherFor delivery.middleware
          (delivery.members.rosTopic (delivery.config.kafkaTopic delivery.kafka))
          delivery.config.msgType = some publisher := by
  refine (processMessage_publishes.published publisher bytes).trans ?_
  constructor
  · rintro ⟨hbytes, hready, hpublisher⟩
    exact ⟨hbytes, hready.payload, hready.typeSupport, hpublisher⟩
  · rintro ⟨hbytes, hvalue, hsupport, hpublisher⟩
    exact ⟨hbytes, ⟨hvalue, delivery.config.msgType_ne, hsupport⟩, hpublisher⟩

/-- **Only CDR is published** exactly if the subscription does not send JSON, or no JSON text
comes of the message, or `kafka_source` does not publish records of its topic and type. -/
theorem published_is_cdr_iff (delivery : Delivery) :
    delivery.PublishedIsCdr ↔
      ¬delivery.SendsJson ∨ ¬delivery.Converts ∨ ¬delivery.Accepts := by
  by_cases hjson : delivery.SendsJson
  · have hformat : delivery.runtime.payloadFormat ≠ .cdr := by
      rw [show delivery.runtime = _ from settled_json hjson.1 hjson.2]
      exact fun h => PayloadFormat.noConfusion h
    simp only [hjson, not_true, false_or, ← not_and_or]
    constructor
    · rintro hcdr ⟨⟨hactive, hclient, payload, value, hserialize, happly, hvalue⟩, hsupport, hsome⟩
      obtain ⟨publisher, hpublisher⟩ := Option.isSome_iff_exists.mp hsome
      refine hformat (hcdr (delivery.jsonRecord value) ?_ publisher value ?_).2
      · exact (record_eq_some_iff hjson).mpr
          ⟨hactive, hclient, payload, value, hserialize, happly, rfl⟩
      · exact processed_jsonRecord.mpr ⟨rfl, hvalue, hsupport, hpublisher⟩
    · intro hnot record hrecord publisher bytes hpublished
      obtain ⟨hactive, hclient, payload, value, hserialize, happly, rfl⟩ :=
        (record_eq_some_iff hjson).mp hrecord
      obtain ⟨-, hvalue, hsupport, hpublisher⟩ := processed_jsonRecord.mp hpublished
      refine absurd ⟨⟨hactive, hclient, payload, value, hserialize, happly, hvalue⟩, hsupport, ?_⟩
        hnot
      rw [hpublisher]
      rfl
  · refine iff_of_true (fun record hrecord publisher bytes hpublished => ?_) (.inl hjson)
    have hbytes := ((processMessage_publishes.published publisher bytes).mp hpublished).1
    exact ⟨hbytes.trans (value_of_not_sendsJson hjson hrecord), settled_cdr hjson⟩

/-- The JSON text of a `std_msgs/msg/String` with the data `hi`, received 5 ns after the epoch. -/
def hiText : List UInt8 :=
  "\x7b\"_ts\":\x7b\"t1_ns\":5\x7d,\"data\":\"hi\"\x7d".toUTF8.data.toList

/-- The message itself, sent by a sink of the format `json`. -/
def hi : Delivery where
  kafka := { payloadFormat := .json }
  config := { topicName := "/a", msgType := "std_msgs/msg/String" }
  json :=
    { serializeMessageToJson := fun _ _ => some "\x7b\"data\":\"hi\"\x7d".toUTF8.data.toList
      applyTsEnvelopeToJson := fun _ _ => some hiText }
  msg := [0, 1, 0, 0, 3, 0, 0, 0, 104, 105, 0]
  sentNs := 5

/-- Its JSON text is published as a serialized `std_msgs/msg/String`. -/
theorem json_published :
    ∃ record, hi.record = some record ∧
      hi.processed record = .published ⟨"/kafka_decoded/a", "std_msgs/msg/String"⟩ hiText ∧
      hiText ≠ hi.msg := by
  refine ⟨hi.jsonRecord hiText, ?_, ?_, ?_⟩
  · decide +kernel
  · decide +kernel
  · decide +kernel

end Delivery

end Ros2Dispatcher
