import Ros2Dispatcher.Consumers.Consumer

/-!
# `kafka_source`

The node of `kafka_source_node.cpp`: its parameters, the members they go to and their check;
`derive_ros_topic`; and `process_message` with the caches and the counters it keeps.

What the middleware does with a type or a topic is the `Middleware` of a call. An exception of
`create_generic_publisher` leaves `process_message`, and with it the consumer thread.
-/

namespace Ros2Dispatcher.KafkaSource

open Consumers

/-! ### Parameters -/

/-- The parameters of the node; other names are not its own. -/
inductive Name
  | bootstrapServers
  | groupId
  | topicPattern
  | offsetReset
  | rosTopicPrefix
  | qosDepth
  | metricsEnabled
  | metricsIntervalMs
  | metricsTopic
  | topicMappings
  | other (name : String)
deriving DecidableEq, Repr

abbrev Name.Value : Name → Type
  | bootstrapServers => String
  | groupId => String
  | topicPattern => String
  | offsetReset => String
  | rosTopicPrefix => String
  | qosDepth => Int64
  | metricsEnabled => Bool
  | metricsIntervalMs => Int64
  | metricsTopic => String
  | topicMappings => String
  | other _ => Unit

/-- One parameter of a batch. -/
abbrev Parameter := (name : Name) × name.Value

/-- The stored parameter values. -/
abbrev Stored := (name : Name) → name.Value

/-- `KafkaParameters`. -/
structure KafkaParameters where
  bootstrapServers : String := "localhost:9092"
  groupId : String := "ros2-kafka-source"
  topicPattern : String := "^ros2\\..*"
  offsetReset : String := "latest"
deriving DecidableEq, Repr

/-- The members that the parameters go to. -/
structure Members where
  kafkaParameters : KafkaParameters := {}
  rosTopicPrefix : String := "/kafka_decoded"
  qosDepth : Int32 := 10
  metricsEnabled : Bool := true
  metricsIntervalMs : Int32 := 1000
  metricsTopic : String := "kafka_source/metrics"
  topicMappings : TopicMappings := []
deriving DecidableEq, Repr

/-- The values the constructor declares. -/
def defaults : Stored
  | .bootstrapServers => "localhost:9092"
  | .groupId => "ros2-kafka-source"
  | .topicPattern => "^ros2\\..*"
  | .offsetReset => "latest"
  | .rosTopicPrefix => "/kafka_decoded"
  | .qosDepth => (10 : Int64)
  | .metricsEnabled => true
  | .metricsIntervalMs => (1000 : Int64)
  | .metricsTopic => "kafka_source/metrics"
  | .topicMappings => ""
  | .other _ => ()

/-- One round of the loop of `on_parameters_set`. -/
def assign (members : Members) : Parameter → Members
  | ⟨.bootstrapServers, value⟩ =>
    { members with kafkaParameters := { members.kafkaParameters with bootstrapServers := value } }
  | ⟨.groupId, value⟩ =>
    { members with kafkaParameters := { members.kafkaParameters with groupId := value } }
  | ⟨.topicPattern, value⟩ =>
    { members with kafkaParameters := { members.kafkaParameters with topicPattern := value } }
  | ⟨.offsetReset, value⟩ =>
    { members with kafkaParameters := { members.kafkaParameters with offsetReset := value } }
  | ⟨.rosTopicPrefix, value⟩ => { members with rosTopicPrefix := value }
  | ⟨.qosDepth, value⟩ => { members with qosDepth := value.toInt32 }
  | ⟨.metricsEnabled, value⟩ => { members with metricsEnabled := value }
  | ⟨.metricsIntervalMs, value⟩ => { members with metricsIntervalMs := value.toInt32 }
  | ⟨.metricsTopic, value⟩ => { members with metricsTopic := value }
  | ⟨.topicMappings, value⟩ => { members with topicMappings := parseTopicMappings value }
  | ⟨.other _, _⟩ => members

/-- What `configure_from_parameters` reads. -/
def read (stored : Stored) : Members where
  kafkaParameters :=
    { bootstrapServers := stored .bootstrapServers
      groupId := stored .groupId
      topicPattern := stored .topicPattern
      offsetReset := stored .offsetReset }
  rosTopicPrefix := stored .rosTopicPrefix
  qosDepth := (stored .qosDepth).toInt32
  metricsEnabled := stored .metricsEnabled
  metricsIntervalMs := (stored .metricsIntervalMs).toInt32
  metricsTopic := stored .metricsTopic
  topicMappings := parseTopicMappings (stored .topicMappings)

/-- `validate_parameters`. -/
def validateParameters (members : Members) : Except String Unit :=
  let kafka := members.kafkaParameters
  if kafka.bootstrapServers = "" then .error "kafka.bootstrap_servers must be non-empty."
  else if kafka.groupId = "" then .error "kafka.group_id must be non-empty."
  else if kafka.topicPattern = "" then .error "kafka.topic_pattern must be non-empty."
  else if kafka.offsetReset ≠ "latest" ∧ kafka.offsetReset ≠ "earliest" then
    .error "kafka.offset_reset must be 'latest' or 'earliest'."
  else if members.qosDepth ≤ 0 then .error "qos_depth must be > 0."
  else if members.metricsIntervalMs ≤ 0 then .error "metrics.interval_ms must be > 0."
  else if members.metricsEnabled = true ∧ members.metricsTopic = "" then
    .error "metrics.topic must be non-empty when metrics are enabled."
  else .ok ⟨⟩

/-- What `kafka_source` does in its own way. -/
def kind : Kind Name Name.Value Members where
  assign
  read
  validateParameters
  metricsEnabled := Members.metricsEnabled
  metricsIntervalMs := Members.metricsIntervalMs
  hasProducer := false

/-- Assigning one parameter is reading the stored values with that one changed. -/
theorem assign_read (stored : Stored) (parameter : Parameter) :
    assign (read stored) parameter =
      read (Function.update stored parameter.1 parameter.2) := by
  obtain ⟨name, value⟩ := parameter
  cases name <;> simp [assign, read]

/-- The declared values are those of the members, and pass their check. -/
theorem read_defaults : read defaults = {} ∧ validateParameters (read defaults) = .ok ⟨⟩ := by
  decide +kernel

abbrev Node := Consumers.Node Stored Members

/-- The node as its constructor leaves it; `stored` are the declared values, or the ones that
override them. -/
def boot (stored : Stored) : Node where
  stored
  members := {}

/-! ### Topic names -/

/-- `derive_ros_topic`. -/
def deriveRosTopic (rosTopicPrefix kafkaTopic : String) : String :=
  let suffix :=
    Tokens.substitute '.' '/' (Tokens.dropStart "ros2.".toList kafkaTopic.toList)
  let topicPrefix := Tokens.addLeading '/' (Tokens.dropTrailing '/' rosTopicPrefix.toList)
  if suffix = [] then
    if topicPrefix = [] then "/" else String.ofList topicPrefix
  else
    let topic := if topicPrefix = [] then '/' :: suffix else topicPrefix ++ '/' :: suffix
    let topic := Tokens.collapse '/' topic
    String.ofList (if 1 < topic.length then Tokens.dropTrailing '/' topic else topic)

/-- The topic a record is published on: the mapped one, or the derived one. -/
def Members.rosTopic (members : Members) (kafkaTopic : String) : String :=
  match members.topicMappings.find kafkaTopic with
  | some rosTopic => rosTopic
  | none => deriveRosTopic members.rosTopicPrefix kafkaTopic

/-! ### Records -/

/-- What `create_generic_publisher` yields. -/
inductive PublisherOutcome
  | created
  | null
  | throws
deriving DecidableEq, Repr

/-- The middleware during one call of `process_message`: whether both type supports of a type
load, and what creating a publisher yields. -/
structure Middleware where
  loadsTypeSupport : String → Bool := fun _ => true
  createGenericPublisher : String → String → PublisherOutcome := fun _ _ => .created

/-- A generic publisher. -/
structure Publisher where
  topic : String
  type : String
deriving DecidableEq, Repr

/-- `TopicMetrics`, up to what only the metrics reports use. -/
structure TopicMetrics where
  rosTopic : String
  rosType : String
  received : UInt64 := 0
  decoded : UInt64 := 0
  failed : UInt64 := 0
  bytes : UInt64 := 0
  latencyNsAccum : UInt64 := 0
  latencyNsMax : UInt64 := 0
  latencySamples : List UInt64 := []
deriving DecidableEq, Repr

/-- The maps under `cache_mutex_`: the entry that counts first. A publisher may be null. -/
structure Caches where
  typeSupports : List String := []
  publishers : List (String × Option Publisher) := []
  metrics : List (String × TopicMetrics) := []
deriving DecidableEq, Repr

/-- The key of a publisher and of its metrics. -/
def cacheKey (rosTopic rosType : String) : String :=
  rosTopic ++ "|" ++ rosType

/-- `kMaxLatencySamples`. -/
def maxLatencySamples : Nat := 1000

/-- The latency of a record that arrived before now. The product is one of 64 bits. -/
def latencyNs (timestamp : Option Int64) (nowNs : Int64) : Option UInt64 :=
  match timestamp with
  | some ms =>
    if 0 ≤ ms ∧ ms * 1000000 < nowNs then some (nowNs - ms * 1000000).toUInt64 else none
  | none => none

/-- The metrics with one more record received. -/
def TopicMetrics.receive (metrics : TopicMetrics) (record : ConsumedRecord) (nowNs : Int64) :
    TopicMetrics :=
  let metrics := { metrics with
    received := metrics.received + 1
    bytes := metrics.bytes + record.payload.length.toUInt64 }
  match latencyNs record.timestamp nowNs with
  | some latency =>
    let samples := metrics.latencySamples ++ [latency]
    { metrics with
      latencyNsAccum := metrics.latencyNsAccum + latency
      latencyNsMax := max metrics.latencyNsMax latency
      latencySamples := if maxLatencySamples < samples.length then samples.tail else samples }
  | none => metrics

/-- What became of a record. -/
inductive Processed
  | skipped
  | published (publisher : Publisher) (bytes : List UInt8)
  | threw
deriving DecidableEq, Repr

namespace Caches

/-- The metrics of a topic and type changed, from new ones if there are none yet. -/
def updateMetrics (caches : Caches) (rosTopic rosType : String)
    (f : TopicMetrics → TopicMetrics) : Caches :=
  let key := cacheKey rosTopic rosType
  let metrics := (caches.metrics.lookup key).getD { rosTopic, rosType }
  { caches with metrics := (key, f metrics) :: caches.metrics.filter (·.1 ≠ key) }

/-- `ensure_type_support`; only a success is kept. -/
def ensureTypeSupport (caches : Caches) (middleware : Middleware) (rosType : String) :
    Bool × Caches :=
  if rosType ∈ caches.typeSupports then (true, caches)
  else if middleware.loadsTypeSupport rosType then
    (true, { caches with typeSupports := rosType :: caches.typeSupports })
  else (false, caches)

/-- `get_or_create_publisher`: the publisher, or an exception. -/
def getOrCreatePublisher (caches : Caches) (middleware : Middleware) (rosTopic rosType : String) :
    Option (Option Publisher × Caches) :=
  let key := cacheKey rosTopic rosType
  match caches.publishers.lookup key with
  | some publisher => some (publisher, caches)
  | none =>
    match middleware.createGenericPublisher rosTopic rosType with
    | .throws => none
    -- a null publisher is cached too, and no other is created for its key
    | .null => some (none, { caches with publishers := (key, none) :: caches.publishers })
    | .created =>
      let publisher := { topic := rosTopic, type := rosType }
      some (some publisher,
        { caches with publishers := (key, some publisher) :: caches.publishers })

end Caches

/-- `process_message`. -/
def processMessage (members : Members) (middleware : Middleware) (nowNs : Int64)
    (record : ConsumedRecord) (caches : Caches) : Processed × Caches :=
  if record.payload = [] then (.skipped, caches)
  else
    let rosType := record.rosType
    if rosType = "" then (.skipped, caches)
    else
      let rosTopic := members.rosTopic record.topicName
      let caches := caches.updateMetrics rosTopic rosType fun metrics =>
        metrics.receive record nowNs
      let failed := fun (caches : Caches) => caches.updateMetrics rosTopic rosType fun metrics =>
        { metrics with failed := metrics.failed + 1 }
      match caches.ensureTypeSupport middleware rosType with
      | (false, caches) => (.skipped, failed caches)
      | (true, caches) =>
        match caches.getOrCreatePublisher middleware rosTopic rosType with
        -- the exception leaves the callback, so the record is not counted as failed
        | none => (.threw, caches)
        | some (none, caches) => (.skipped, failed caches)
        | some (some publisher, caches) =>
          (.published publisher record.payload,
            caches.updateMetrics rosTopic rosType fun metrics =>
              { metrics with decoded := metrics.decoded + 1 })

/-! ### What is published -/

section Publishing

variable {members : Members} {middleware : Middleware} {nowNs : Int64} {record : ConsumedRecord}
variable {caches : Caches} {rosTopic rosType : String}

/-- The type support of a type is cached or loads. -/
def Caches.HasTypeSupport (caches : Caches) (middleware : Middleware) (rosType : String) : Prop :=
  rosType ∈ caches.typeSupports ∨ middleware.loadsTypeSupport rosType = true

/-- The publisher a record for a topic and type goes to: the cached one, or a new one. -/
def Caches.publisherFor (caches : Caches) (middleware : Middleware) (rosTopic rosType : String) :
    Option Publisher :=
  match caches.publishers.lookup (cacheKey rosTopic rosType) with
  | some publisher => publisher
  | none =>
    match middleware.createGenericPublisher rosTopic rosType with
    | .created => some ⟨rosTopic, rosType⟩
    | .null => none
    | .throws => none

/-- A type support is found where there is one, and no publisher is touched. -/
theorem Caches.ensureTypeSupport_spec (caches : Caches) (middleware : Middleware)
    (rosType : String) :
    ((caches.ensureTypeSupport middleware rosType).1 = true ↔
        caches.HasTypeSupport middleware rosType) ∧
      (caches.ensureTypeSupport middleware rosType).2.publishers = caches.publishers := by
  unfold Caches.ensureTypeSupport Caches.HasTypeSupport
  by_cases hcached : rosType ∈ caches.typeSupports
  · rw [if_pos hcached]
    exact ⟨iff_of_true rfl (.inl hcached), rfl⟩
  · rw [if_neg hcached]
    by_cases hloads : middleware.loadsTypeSupport rosType = true
    · rw [if_pos hloads]
      exact ⟨iff_of_true rfl (.inr hloads), rfl⟩
    · rw [if_neg hloads]
      exact ⟨iff_of_false Bool.false_ne_true fun h => h.elim hcached hloads, rfl⟩

/-- What `getOrCreatePublisher` can add to the cache: the publisher it creates. -/
structure Caches.Adds (caches caches' : Caches) (middleware : Middleware)
    (rosTopic rosType : String) : Prop where
  created : middleware.createGenericPublisher rosTopic rosType ≠ .throws
  publishers : caches'.publishers = (cacheKey rosTopic rosType,
    if middleware.createGenericPublisher rosTopic rosType = .created then
      some ⟨rosTopic, rosType⟩ else none) :: caches.publishers

/-- No publisher is cached, and creating one throws. -/
structure Caches.Refused (caches : Caches) (middleware : Middleware) (rosTopic rosType : String) :
    Prop where
  uncached : caches.publishers.lookup (cacheKey rosTopic rosType) = none
  throws : middleware.createGenericPublisher rosTopic rosType = .throws

theorem Caches.Refused.publisherFor (h : caches.Refused middleware rosTopic rosType) :
    caches.publisherFor middleware rosTopic rosType = none := by
  simp [Caches.publisherFor, h.uncached, h.throws]

/-- It is refused, or yields the publisher for the topic and type and keeps the cached ones. -/
theorem Caches.getOrCreatePublisher_cases (caches : Caches) (middleware : Middleware)
    (rosTopic rosType : String) :
    (caches.Refused middleware rosTopic rosType ∧
      caches.getOrCreatePublisher middleware rosTopic rosType = none) ∨
    ¬caches.Refused middleware rosTopic rosType ∧
      ∃ caches', caches.getOrCreatePublisher middleware rosTopic rosType =
          some (caches.publisherFor middleware rosTopic rosType, caches') ∧
        (caches'.publishers = caches.publishers ∨
          caches.Adds caches' middleware rosTopic rosType) ∧
        caches'.metrics = caches.metrics := by
  unfold Caches.getOrCreatePublisher Caches.publisherFor
  cases hlookup : caches.publishers.lookup (cacheKey rosTopic rosType) with
  | some publisher =>
    refine .inr ⟨fun h => ?_, caches, by simp only [hlookup], .inl rfl, rfl⟩
    exact Option.some_ne_none _ (hlookup.symm.trans h.uncached)
  | none =>
    have hthrows : ∀ outcome, middleware.createGenericPublisher rosTopic rosType = outcome →
        outcome ≠ .throws → ¬caches.Refused middleware rosTopic rosType :=
      fun outcome houtcome hne h => hne (houtcome.symm.trans h.throws)
    cases hcreate : middleware.createGenericPublisher rosTopic rosType with
    | throws => exact .inl ⟨⟨hlookup, hcreate⟩, by simp only [hlookup]⟩
    | null =>
      refine .inr ⟨hthrows _ hcreate PublisherOutcome.noConfusion, { caches with
        publishers := (cacheKey rosTopic rosType, none) :: caches.publishers }, ?_,
          .inr ⟨?_, ?_⟩, rfl⟩
      · simp only [hlookup]
      · simp [hcreate]
      · simp [hcreate]
    | created =>
      refine .inr ⟨hthrows _ hcreate PublisherOutcome.noConfusion, { caches with publishers :=
        (cacheKey rosTopic rosType, some ⟨rosTopic, rosType⟩) :: caches.publishers }, ?_,
          .inr ⟨?_, ?_⟩, rfl⟩
      · simp only [hlookup]
      · simp [hcreate]
      · simp [hcreate]

/-- The publisher depends on the cached ones only. -/
theorem Caches.publisherFor_congr {caches' : Caches} (middleware : Middleware)
    (rosTopic rosType : String) (h : caches'.publishers = caches.publishers) :
    caches'.publisherFor middleware rosTopic rosType =
      caches.publisherFor middleware rosTopic rosType := by
  unfold Caches.publisherFor
  rw [h]

theorem Caches.ensureTypeSupport_metrics (caches : Caches) (middleware : Middleware)
    (rosType : String) :
    (caches.ensureTypeSupport middleware rosType).2.metrics = caches.metrics := by
  unfold Caches.ensureTypeSupport
  split
  · rfl
  · split <;> rfl

/-- A record for which a publisher is asked for. -/
structure Ready (middleware : Middleware) (record : ConsumedRecord) (caches : Caches) : Prop where
  payload : record.payload ≠ []
  rosType : record.rosType ≠ ""
  typeSupport : caches.HasTypeSupport middleware record.rosType

/-- How a call runs, with the caches it leaves. What is left before the record is settled has
the metrics of a received record, and the publishers of before with at most a new one. -/
inductive CallRuns (members : Members) (middleware : Middleware) (nowNs : Int64)
    (record : ConsumedRecord) (caches : Caches) : Processed × Caches → Prop
  | skipped (skips : record.payload = [] ∨ record.rosType = "") :
    CallRuns members middleware nowNs record caches (.skipped, caches)
  | unsupported {after : Caches} (given : ¬(record.payload = [] ∨ record.rosType = ""))
    (unsupported : ¬caches.HasTypeSupport middleware record.rosType)
    (publishers : after.publishers = caches.publishers)
    (metrics : after.metrics = (caches.updateMetrics (members.rosTopic record.topicName)
      record.rosType fun metrics => metrics.receive record nowNs).metrics) :
    CallRuns members middleware nowNs record caches
      (.skipped, after.updateMetrics (members.rosTopic record.topicName) record.rosType
        fun metrics => { metrics with failed := metrics.failed + 1 })
  | refused {after : Caches} (ready : Ready middleware record caches)
    (refused : caches.Refused middleware (members.rosTopic record.topicName) record.rosType)
    (publishers : after.publishers = caches.publishers) :
    CallRuns members middleware nowNs record caches (.threw, after)
  | unpublished {after : Caches} (ready : Ready middleware record caches)
    (served : ¬caches.Refused middleware (members.rosTopic record.topicName) record.rosType)
    (publisher : caches.publisherFor middleware (members.rosTopic record.topicName)
      record.rosType = none)
    (publishers : after.publishers = caches.publishers ∨
      caches.Adds after middleware (members.rosTopic record.topicName) record.rosType)
    (metrics : after.metrics = (caches.updateMetrics (members.rosTopic record.topicName)
      record.rosType fun metrics => metrics.receive record nowNs).metrics) :
    CallRuns members middleware nowNs record caches
      (.skipped, after.updateMetrics (members.rosTopic record.topicName) record.rosType
        fun metrics => { metrics with failed := metrics.failed + 1 })
  | published {after : Caches} {publisher : Publisher} (ready : Ready middleware record caches)
    (served : ¬caches.Refused middleware (members.rosTopic record.topicName) record.rosType)
    (publisher_eq : caches.publisherFor middleware (members.rosTopic record.topicName)
      record.rosType = some publisher)
    (publishers : after.publishers = caches.publishers ∨
      caches.Adds after middleware (members.rosTopic record.topicName) record.rosType)
    (metrics : after.metrics = (caches.updateMetrics (members.rosTopic record.topicName)
      record.rosType fun metrics => metrics.receive record nowNs).metrics) :
    CallRuns members middleware nowNs record caches
      (.published publisher record.payload,
        after.updateMetrics (members.rosTopic record.topicName) record.rosType
          fun metrics => { metrics with decoded := metrics.decoded + 1 })

theorem processMessage_runs (members : Members) (middleware : Middleware) (nowNs : Int64)
    (record : ConsumedRecord) (caches : Caches) :
    CallRuns members middleware nowNs record caches
      (processMessage members middleware nowNs record caches) := by
  unfold processMessage
  by_cases hpayload : record.payload = []
  · rw [if_pos hpayload]
    exact .skipped (.inl hpayload)
  by_cases htype : record.rosType = ""
  · rw [if_neg hpayload, if_pos htype]
    exact .skipped (.inr htype)
  simp only [if_neg hpayload, if_neg htype]
  -- the metrics are counted first, and the rest does not look at them
  generalize hreceived : caches.updateMetrics (members.rosTopic record.topicName) record.rosType
    (fun metrics => metrics.receive record nowNs) = received
  have hmetrics := received.ensureTypeSupport_metrics middleware record.rosType
  obtain ⟨hfound, hkept⟩ := received.ensureTypeSupport_spec middleware record.rosType
  have hsupport : received.HasTypeSupport middleware record.rosType ↔
      caches.HasTypeSupport middleware record.rosType := by
    rw [← hreceived]
    rfl
  have hpublishers : received.publishers = caches.publishers := by
    rw [← hreceived]
    rfl
  cases hensure : received.ensureTypeSupport middleware record.rosType with
  | mk found supported =>
    rw [hensure, hsupport] at hfound
    rw [hensure, hpublishers] at hkept
    rw [hensure, ← hreceived] at hmetrics
    cases found with
    | false =>
      refine .unsupported (not_or.mpr ⟨hpayload, htype⟩) (fun h => ?_) hkept hmetrics
      exact Bool.false_ne_true (hfound.mpr h)
    | true =>
      have hready : Ready middleware record caches := ⟨hpayload, htype, hfound.mp rfl⟩
      have hfor := Caches.publisherFor_congr middleware (members.rosTopic record.topicName)
        record.rosType hkept
      have hrefused : supported.Refused middleware (members.rosTopic record.topicName)
          record.rosType ↔
          caches.Refused middleware (members.rosTopic record.topicName) record.rosType :=
        ⟨fun h => ⟨hkept ▸ h.uncached, h.throws⟩, fun h => ⟨hkept ▸ h.uncached, h.throws⟩⟩
      -- the type support is there: what is left is the publisher
      rcases supported.getOrCreatePublisher_cases middleware
        (members.rosTopic record.topicName) record.rosType with
        ⟨hthrows, hget⟩ | ⟨hserved, after, hget, hadds, hsame⟩
      · simp only [hget]
        exact .refused hready (hrefused.mp hthrows) hkept
      · have hadds' : after.publishers = caches.publishers ∨
            caches.Adds after middleware (members.rosTopic record.topicName) record.rosType :=
          hadds.imp (·.trans hkept) fun h => ⟨h.created, by rw [h.publishers, hkept]⟩
        rw [hrefused] at hserved
        simp only [hget, hfor]
        cases hpublisher : caches.publisherFor middleware (members.rosTopic record.topicName)
          record.rosType with
        | none => exact .unpublished hready hserved hpublisher hadds' (hsame.trans hmetrics)
        | some publisher =>
          exact .published hready hserved hpublisher hadds' (hsame.trans hmetrics)

/-- How a record is published, and what is added to the cached publishers. -/
structure Publishes (members : Members) (middleware : Middleware) (record : ConsumedRecord)
    (caches : Caches) (result : Processed × Caches) : Prop where
  published : ∀ publisher bytes, result.1 = .published publisher bytes ↔
    bytes = record.payload ∧ Ready middleware record caches ∧
      caches.publisherFor middleware (members.rosTopic record.topicName) record.rosType =
        some publisher
  publishers : result.2.publishers = caches.publishers ∨
    caches.Adds result.2 middleware (members.rosTopic record.topicName) record.rosType

/-- **What is published.** A record is published with its own bytes, on the publisher found for
its topic and type. -/
theorem processMessage_publishes :
    Publishes members middleware record caches
      (processMessage members middleware nowNs record caches) := by
  have hruns := processMessage_runs members middleware nowNs record caches
  generalize processMessage members middleware nowNs record caches = result at hruns
  cases hruns with
  | skipped hskips =>
    refine ⟨fun publisher bytes => iff_of_false Processed.noConfusion ?_, .inl rfl⟩
    exact fun h => hskips.elim h.2.1.payload h.2.1.rosType
  | unsupported _ hunsupported hpublishers _ =>
    refine ⟨fun publisher bytes => iff_of_false Processed.noConfusion ?_, .inl hpublishers⟩
    exact fun h => hunsupported h.2.1.typeSupport
  | refused _ hrefused hpublishers =>
    refine ⟨fun publisher bytes => iff_of_false Processed.noConfusion fun h => ?_,
      .inl hpublishers⟩
    exact Option.some_ne_none _ (h.2.2.symm.trans hrefused.publisherFor)
  | unpublished _ _ hpublisher hpublishers _ =>
    refine ⟨fun publisher bytes => iff_of_false Processed.noConfusion fun h => ?_,
      hpublishers.imp id fun h => ⟨h.created, h.publishers⟩⟩
    exact Option.some_ne_none _ (h.2.2.symm.trans hpublisher)
  | published hready _ hpublisher hpublishers _ =>
    refine ⟨fun publisher bytes => ?_, hpublishers.imp id fun h => ⟨h.created, h.publishers⟩⟩
    simp only [Processed.published.injEq, hpublisher, Option.some_inj, hready, true_and]
    exact ⟨fun h => ⟨h.2.symm, h.1⟩, fun h => ⟨h.2, h.1.symm⟩⟩

end Publishing

end Ros2Dispatcher.KafkaSource
