import Ros2Dispatcher.Consumers.TopicNames
import Ros2Dispatcher.Library.Entries
import Ros2Dispatcher.Records.RosNames

/-!
# Records that end the consumer thread

The names and types of a record go through `process_message` unchecked: they are only compared,
cut and joined there, so that a text stands for any bytes, one letter each. What rejects them is
the middleware. A type whose support does not load is counted as a failure; but
`create_generic_publisher` is called outside any `try`, and its exception ends the thread.

* `processMessage_ends`: how a call ends, and what it counts.
* `survives_iff`: which records the thread survives.
* `isFullTopicName_deriveRosTopic`: which derived names a publisher can be created for.
-/

namespace Ros2Dispatcher.KafkaSource

open Consumers Tokens

/-! ### Counting -/

section Counting

variable {members : Members} {middleware : Middleware} {nowNs : Int64} {record : ConsumedRecord}
variable {caches : Caches} {rosTopic rosType key : String}

/-- A counter of the metrics under a key. -/
def Caches.count (caches : Caches) (key : String) (counter : TopicMetrics → UInt64) : UInt64 :=
  ((caches.metrics.lookup key).map counter).getD 0

/-- One record is counted under the key, and under no other. -/
structure CountedOnce (caches caches' : Caches) (key : String) : Prop where
  others : ∀ key' ≠ key, caches'.metrics.lookup key' = caches.metrics.lookup key'
  received : caches'.count key TopicMetrics.received =
    caches.count key TopicMetrics.received + 1
  settled :
    (caches'.count key TopicMetrics.decoded = caches.count key TopicMetrics.decoded + 1 ∧
      caches'.count key TopicMetrics.failed = caches.count key TopicMetrics.failed) ∨
    (caches'.count key TopicMetrics.decoded = caches.count key TopicMetrics.decoded ∧
      caches'.count key TopicMetrics.failed = caches.count key TopicMetrics.failed + 1)

/-- What becomes of a received record in the metrics. -/
inductive Settles : (TopicMetrics → TopicMetrics) → Prop
  | decode : Settles fun metrics => { metrics with decoded := metrics.decoded + 1 }
  | fail : Settles fun metrics => { metrics with failed := metrics.failed + 1 }

/-- The metrics under the other keys stay. -/
theorem Caches.lookup_updateMetrics {f : TopicMetrics → TopicMetrics} :
    (caches.updateMetrics rosTopic rosType f).metrics.lookup key =
      if key = cacheKey rosTopic rosType then
        some (f ((caches.metrics.lookup key).getD { rosTopic, rosType }))
      else caches.metrics.lookup key := by
  simp only [Caches.updateMetrics, Entries.lookup_cons_eq]
  split
  next heq => rw [heq]
  next hne => exact Entries.lookup_filter_ne hne _

/-- A received record changes neither of the outcomes. -/
theorem TopicMetrics.receive_counts (record : ConsumedRecord) (nowNs : Int64)
    (metrics : TopicMetrics) :
    (metrics.receive record nowNs).received = metrics.received + 1 ∧
      (metrics.receive record nowNs).decoded = metrics.decoded ∧
      (metrics.receive record nowNs).failed = metrics.failed := by
  unfold TopicMetrics.receive
  cases latencyNs record.timestamp nowNs with
  | none => exact ⟨rfl, rfl, rfl⟩
  | some latency => exact ⟨rfl, rfl, rfl⟩

/-- A counter that new metrics have at zero, after an update of the metrics. -/
theorem Caches.count_updateMetrics {f : TopicMetrics → TopicMetrics}
    (counter : TopicMetrics → UInt64) (change : UInt64 → UInt64)
    (hfresh : counter { rosTopic, rosType } = 0)
    (hchange : ∀ metrics, counter (f metrics) = change (counter metrics)) :
    (caches.updateMetrics rosTopic rosType f).count (cacheKey rosTopic rosType) counter =
      change (caches.count (cacheKey rosTopic rosType) counter) := by
  rw [Caches.count, Caches.lookup_updateMetrics, if_pos rfl, Caches.count]
  cases caches.metrics.lookup (cacheKey rosTopic rosType) with
  | none => exact (hchange _).trans (congrArg change hfresh)
  | some metrics => exact hchange metrics

/-- Receiving a record and settling it counts it once. -/
theorem Settles.countedOnce {settle : TopicMetrics → TopicMetrics} (h : Settles settle) :
    CountedOnce caches ((caches.updateMetrics rosTopic rosType fun metrics =>
      metrics.receive record nowNs).updateMetrics rosTopic rosType settle)
        (cacheKey rosTopic rosType) := by
  have hothers : ∀ f g : TopicMetrics → TopicMetrics, ∀ key' ≠ cacheKey rosTopic rosType,
      ((caches.updateMetrics rosTopic rosType f).updateMetrics rosTopic rosType g).metrics.lookup
        key' = caches.metrics.lookup key' := by
    intro f g key' hkey
    rw [Caches.lookup_updateMetrics, if_neg hkey, Caches.lookup_updateMetrics, if_neg hkey]
  have hreceived : (caches.updateMetrics rosTopic rosType fun metrics =>
      metrics.receive record nowNs).count (cacheKey rosTopic rosType) TopicMetrics.received =
      caches.count (cacheKey rosTopic rosType) TopicMetrics.received + 1 :=
    Caches.count_updateMetrics _ (· + 1) rfl fun metrics =>
      (metrics.receive_counts record nowNs).1
  have hdecoded : (caches.updateMetrics rosTopic rosType fun metrics =>
      metrics.receive record nowNs).count (cacheKey rosTopic rosType) TopicMetrics.decoded =
      caches.count (cacheKey rosTopic rosType) TopicMetrics.decoded :=
    Caches.count_updateMetrics _ id rfl fun metrics => (metrics.receive_counts record nowNs).2.1
  have hfailed : (caches.updateMetrics rosTopic rosType fun metrics =>
      metrics.receive record nowNs).count (cacheKey rosTopic rosType) TopicMetrics.failed =
      caches.count (cacheKey rosTopic rosType) TopicMetrics.failed :=
    Caches.count_updateMetrics _ id rfl fun metrics => (metrics.receive_counts record nowNs).2.2
  cases h with
  | decode =>
    refine ⟨hothers _ _, ?_, .inl ⟨?_, ?_⟩⟩
    · exact Eq.trans (Caches.count_updateMetrics _ id rfl fun _ => rfl) hreceived
    · exact Eq.trans (Caches.count_updateMetrics _ (· + 1) rfl fun _ => rfl)
        (congrArg (· + 1) hdecoded)
    · exact Eq.trans (Caches.count_updateMetrics _ id rfl fun _ => rfl) hfailed
  | fail =>
    refine ⟨hothers _ _, ?_, .inr ⟨?_, ?_⟩⟩
    · exact Eq.trans (Caches.count_updateMetrics _ id rfl fun _ => rfl) hreceived
    · exact Eq.trans (Caches.count_updateMetrics _ id rfl fun _ => rfl) hdecoded
    · exact Eq.trans (Caches.count_updateMetrics _ (· + 1) rfl fun _ => rfl)
        (congrArg (· + 1) hfailed)

/-- What is counted is up to the metrics alone. -/
theorem CountedOnce.congr {caches' caches'' : Caches} (h : CountedOnce caches caches' key)
    (hmetrics : caches''.metrics = caches'.metrics) : CountedOnce caches caches'' key := by
  have hcount : ∀ counter, caches''.count key counter = caches'.count key counter := by
    intro counter
    rw [Caches.count, hmetrics, Caches.count]
  refine ⟨fun key' hkey => ?_, ?_, ?_⟩
  · rw [hmetrics, h.others key' hkey]
  · rw [hcount, h.received]
  · rw [hcount, hcount]
    exact h.settled

/-! ### How a call ends -/

/-- How a call for a record ends: it skips an empty record and one without a type, throws where
a publisher is refused, and counts any other record once. -/
inductive CallEnds (members : Members) (middleware : Middleware) (record : ConsumedRecord)
    (caches : Caches) : Processed × Caches → Prop
  | skipped (skips : record.payload = [] ∨ record.rosType = "") :
    CallEnds members middleware record caches (.skipped, caches)
  | threw {caches' : Caches} (ready : Ready middleware record caches)
    (refused : caches.Refused middleware (members.rosTopic record.topicName) record.rosType) :
    CallEnds members middleware record caches (.threw, caches')
  | counted {processed : Processed} {caches' : Caches}
    (given : ¬(record.payload = [] ∨ record.rosType = ""))
    (served : Ready middleware record caches →
      ¬caches.Refused middleware (members.rosTopic record.topicName) record.rosType)
    (returned : processed ≠ .threw)
    (counted : CountedOnce caches caches'
      (cacheKey (members.rosTopic record.topicName) record.rosType)) :
    CallEnds members middleware record caches (processed, caches')

theorem processMessage_ends (members : Members) (middleware : Middleware) (nowNs : Int64)
    (record : ConsumedRecord) (caches : Caches) :
    CallEnds members middleware record caches
      (processMessage members middleware nowNs record caches) := by
  have hcounted : ∀ settle, Settles settle → ∀ after : Caches,
      after.metrics = (caches.updateMetrics (members.rosTopic record.topicName) record.rosType
        fun metrics => metrics.receive record nowNs).metrics →
      CountedOnce caches (after.updateMetrics (members.rosTopic record.topicName) record.rosType
        settle) (cacheKey (members.rosTopic record.topicName) record.rosType) := by
    intro settle hsettle after hafter
    have hsettled : CountedOnce caches ((caches.updateMetrics (members.rosTopic record.topicName)
        record.rosType fun metrics => metrics.receive record nowNs).updateMetrics
          (members.rosTopic record.topicName) record.rosType settle)
            (cacheKey (members.rosTopic record.topicName) record.rosType) := hsettle.countedOnce
    refine hsettled.congr ?_
    simp only [Caches.updateMetrics, hafter]
  have hruns := processMessage_runs members middleware nowNs record caches
  generalize processMessage members middleware nowNs record caches = result at hruns
  cases hruns with
  | skipped hskips => exact .skipped hskips
  | unsupported hgiven hunsupported _ hmetrics =>
    refine .counted hgiven (fun hready => ?_) Processed.noConfusion (hcounted _ .fail _ hmetrics)
    exact absurd hready.typeSupport hunsupported
  | refused hready hrefused _ => exact .threw hready hrefused
  | unpublished hready hserved _ _ hmetrics =>
    exact .counted (not_or.mpr ⟨hready.payload, hready.rosType⟩) (fun _ => hserved)
      Processed.noConfusion (hcounted _ .fail _ hmetrics)
  | published hready hserved _ _ hmetrics =>
    exact .counted (not_or.mpr ⟨hready.payload, hready.rosType⟩) (fun _ => hserved)
      Processed.noConfusion (hcounted _ .decode _ hmetrics)

end Counting

/-! ### What the thread survives -/

/-- A call ends without an exception; it leaves the metrics of an empty record and of one
without a type alone, and counts any other one once. -/
structure Survives (members : Members) (middleware : Middleware) (nowNs : Int64)
    (record : ConsumedRecord) (caches : Caches) : Prop where
  returned : (processMessage members middleware nowNs record caches).1 ≠ .threw
  metrics : if record.payload = [] ∨ record.rosType = "" then
      (processMessage members middleware nowNs record caches).2.metrics = caches.metrics
    else CountedOnce caches (processMessage members middleware nowNs record caches).2
      (cacheKey (members.rosTopic record.topicName) record.rosType)

/-- `create_generic_publisher` throws for a name that is not valid and for an unknown type, and
in no other case. -/
def Middleware.Checks (middleware : Middleware) (validName knownType : String → Prop) : Prop :=
  ∀ rosTopic rosType, middleware.createGenericPublisher rosTopic rosType = .throws ↔
    ¬(validName rosTopic ∧ knownType rosType)

/-- **Which records the thread survives**: those that are empty, have no type or one whose
support does not load, have a publisher cached, or whose ROS topic is a valid name, with a type
that is known. -/
theorem survives_iff (members : Members) (middleware : Middleware) (nowNs : Int64)
    (record : ConsumedRecord) (caches : Caches) {validName knownType : String → Prop}
    (h : middleware.Checks validName knownType) :
    Survives members middleware nowNs record caches ↔
      record.payload = [] ∨ record.rosType = "" ∨
        ¬caches.HasTypeSupport middleware record.rosType ∨
        (caches.publishers.lookup
          (cacheKey (members.rosTopic record.topicName) record.rosType)).isSome = true ∨
        (validName (members.rosTopic record.topicName) ∧ knownType record.rosType) := by
  have hends := processMessage_ends members middleware nowNs record caches
  have hstate : Survives members middleware nowNs record caches ↔
      ¬(Ready middleware record caches ∧
        caches.Refused middleware (members.rosTopic record.topicName) record.rosType) := by
    generalize hresult : processMessage members middleware nowNs record caches = result at hends
    cases hends with
    | skipped hskips =>
      refine iff_of_true ⟨?_, ?_⟩ fun hboth => hskips.elim hboth.1.payload hboth.1.rosType
      · rw [hresult]
        exact Processed.noConfusion
      · rw [if_pos hskips, hresult]
    | threw hready hrefused =>
      refine iff_of_false (fun hsurvives => hsurvives.returned ?_) (not_not.mpr ⟨hready, hrefused⟩)
      rw [hresult]
    | counted hgiven hserved hreturned hcounted =>
      refine iff_of_true ⟨?_, ?_⟩ fun hboth => hserved hboth.1 hboth.2
      · rwa [hresult]
      · rwa [if_neg hgiven, hresult]
  have hready : Ready middleware record caches ↔ record.payload ≠ [] ∧ record.rosType ≠ "" ∧
      caches.HasTypeSupport middleware record.rosType :=
    ⟨fun hall => ⟨hall.payload, hall.rosType, hall.typeSupport⟩, fun hall =>
      ⟨hall.1, hall.2.1, hall.2.2⟩⟩
  have hrefused : caches.Refused middleware (members.rosTopic record.topicName) record.rosType ↔
      (caches.publishers.lookup
        (cacheKey (members.rosTopic record.topicName) record.rosType)).isSome = false ∧
      ¬(validName (members.rosTopic record.topicName) ∧ knownType record.rosType) := by
    rw [← h, Option.isSome_eq_false_iff, Option.isNone_iff_eq_none]
    exact ⟨fun hall => ⟨hall.uncached, hall.throws⟩, fun hall => ⟨hall.1, hall.2⟩⟩
  rw [hstate, hready, hrefused]
  grind

/-- A middleware that knows all types and the rules for names. -/
def Middleware.strict : Middleware where
  createGenericPublisher rosTopic _ := if isFullTopicName rosTopic then .created else .throws

theorem Middleware.strict_checks :
    Middleware.strict.Checks (isFullTopicName · = true) fun _ => True := by
  intro rosTopic rosType
  by_cases hname : isFullTopicName rosTopic = true
  · simp [Middleware.strict, hname]
  · simp [Middleware.strict, hname]

/-- A record with a string for a Kafka topic. -/
def stringRecord (topicName : String) : ConsumedRecord where
  topicName
  payload := [0, 1, 0, 0]
  headers := [⟨"ros_type", "std_msgs/msg/String"⟩]

/-- A record for `/kafka_decoded/chatter` is survived. -/
theorem survives_iff_chatter :
    isFullTopicName "/kafka_decoded/chatter" = true ∧
      Survives {} .strict 0 (stringRecord "ros2.chatter") {} := by
  have hname : isFullTopicName "/kafka_decoded/chatter" = true := by decide +kernel
  have htopic : ({} : Members).rosTopic (stringRecord "ros2.chatter").topicName =
      "/kafka_decoded/chatter" := by decide +kernel
  refine ⟨hname, (survives_iff {} .strict 0 (stringRecord "ros2.chatter") {}
    Middleware.strict_checks).mpr ?_⟩
  rw [htopic]
  exact .inr (.inr (.inr (.inr ⟨hname, trivial⟩)))

/-- The letters of a Kafka topic name. -/
def isKafkaNameChar (c : Char) : Bool :=
  c.isAlphanum || c = '.' || c = '_' || c = '-'

/-- A record on a Kafka topic with a hyphen in its name ends the thread. -/
theorem hyphen_ends_thread :
    ¬∀ (members : Members) (middleware : Middleware) (nowNs : Int64) (record : ConsumedRecord)
      (caches : Caches) (validName knownType : String → Prop),
      middleware.Checks validName knownType →
      record.topicName.toList.all isKafkaNameChar = true →
      Survives members middleware nowNs record caches := by
  intro h
  have hsurvives := h {} .strict 0 (stringRecord "ros2.front-camera") {}
    (isFullTopicName · = true) (fun _ => True) Middleware.strict_checks (by decide)
  refine hsurvives.returned ?_
  decide +kernel

/-! ### The names behind a prefix -/

/-- **Which derived names are full names**, for a Kafka topic that leaves a suffix: those whose
prefix and suffix have nothing but tokens of a name between slashes, and at least one. -/
theorem isFullTopicName_deriveRosTopic {rosTopicPrefix kafkaTopic : String}
    (h : topicSuffix kafkaTopic ≠ []) :
    isFullTopicName (deriveRosTopic rosTopicPrefix kafkaTopic) =
      let tokens := tokensOf '/' rosTopicPrefix.toList ++ tokensOf '/' (topicSuffix kafkaTopic)
      !tokens.isEmpty && tokens.all isNameToken := by
  have hproper : Proper '/'
      (tokensOf '/' rosTopicPrefix.toList ++ tokensOf '/' (topicSuffix kafkaTopic)) :=
    List.forall_mem_append.mpr ⟨tokensOf_proper _ _, tokensOf_proper _ _⟩
  rw [deriveRosTopic_eq h]
  split
  next hnone =>
    simp only [hnone]
    exact isFullTopicName_root
  · exact isFullTopicName_path hproper

end Ros2Dispatcher.KafkaSource
