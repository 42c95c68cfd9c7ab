import Ros2Dispatcher.Consumers.BadRecords
import Ros2Dispatcher.Consumers.Conversion

/-!
# The latencies of consumed records

Both consumers turn the timestamp of a record from milliseconds into nanoseconds before they
compare it with the clock, and any timestamp that is not negative is accepted. From
9223372036855 on the product does not fit into 64 bits; it goes on below zero, and the record of
a far future counts as one of a far past.

* `KafkaSource.processMessage_latencies`, `KafkaCdrToJson.processMessage_latencies`: which
  statistics a call changes, and by which latency.
* `latencyExact_iff`: the timestamps whose latencies are right.
* `exists_latencyNs_of_future`: each other timestamp counts as one of the past at some time.
-/

namespace Ros2Dispatcher

/-! ### Statistics of latencies -/

/-- What is kept of the latencies on a topic: the greatest one and the most recent ones. -/
structure LatencyStatistics where
  greatest : Nat := 0
  recent : List Nat := []
deriving DecidableEq, Repr

/-- The statistics with one more latency, if there is one. -/
def LatencyStatistics.add (statistics : LatencyStatistics) :
    Option Nat → LatencyStatistics
  | none => statistics
  | some latency =>
    { greatest := max statistics.greatest latency
      recent := pushRecent 1000 statistics.recent latency }

/-- The nanoseconds that a record of a time in milliseconds is older than now, if it is. -/
def latency (ms nowNs : ℤ) : Option Nat :=
  if ms * 1000000 < nowNs then some (nowNs - ms * 1000000).toNat else none

/-- The order of 64-bit numbers is that of their values. -/
theorem toNat_max (a b : UInt64) : (max a b).toNat = max a.toNat b.toNat :=
  Monotone.map_max (f := UInt64.toNat) fun _ _ h => UInt64.le_iff_toNat_le.mp h

/-! ### What a call records -/

namespace KafkaSource

open Consumers

variable {members : Members} {middleware : Middleware} {nowNs : Int64} {record : ConsumedRecord}
variable {caches : Caches} {rosTopic rosType : String}

/-- The statistics in the metrics of a topic and type. -/
def TopicMetrics.latencies (metrics : TopicMetrics) : LatencyStatistics where
  greatest := metrics.latencyNsMax.toNat
  recent := metrics.latencySamples.map UInt64.toNat

/-- The statistics under a key, those of new metrics if there are none yet. -/
def Caches.latencies (caches : Caches) (key : String) : LatencyStatistics :=
  ((caches.metrics.lookup key).map TopicMetrics.latencies).getD {}

theorem TopicMetrics.latencies_receive (metrics : TopicMetrics) :
    (metrics.receive record nowNs).latencies =
      metrics.latencies.add ((latencyNs record.timestamp nowNs).map UInt64.toNat) := by
  unfold TopicMetrics.receive
  cases latencyNs record.timestamp nowNs with
  | none => rfl
  | some latency =>
    rw [TopicMetrics.latencies, LatencyStatistics.mk.injEq]
    exact ⟨toNat_max _ _, map_pushRecent UInt64.toNat maxLatencySamples _ latency⟩

theorem Caches.latencies_updateMetrics {f : TopicMetrics → TopicMetrics}
    (change : LatencyStatistics → LatencyStatistics)
    (hchange : ∀ metrics, (f metrics).latencies = change metrics.latencies) (key : String) :
    (caches.updateMetrics rosTopic rosType f).latencies key =
      if key = cacheKey rosTopic rosType then change (caches.latencies key)
      else caches.latencies key := by
  rw [Caches.latencies, Caches.lookup_updateMetrics]
  split
  next heq =>
    rw [Option.map_some, Option.getD_some, hchange, Caches.latencies]
    cases caches.metrics.lookup key <;> rfl
  next => rfl

/-- Settling a record leaves the statistics. -/
theorem Caches.latencies_settle {settle : TopicMetrics → TopicMetrics} (h : Settles settle)
    (key : String) :
    (caches.updateMetrics rosTopic rosType settle).latencies key = caches.latencies key := by
  have hsettle : ∀ metrics, (settle metrics).latencies = id metrics.latencies := by
    cases h <;> exact fun _ => rfl
  rw [Caches.latencies_updateMetrics id hsettle]
  exact ite_self _

/-- **A call records** the latency of its record, under the key of its topic and type alone. -/
theorem processMessage_latencies (hpayload : record.payload ≠ []) (htype : record.rosType ≠ "")
    (key : String) :
    (processMessage members middleware nowNs record caches).2.latencies key =
      if key = cacheKey (members.rosTopic record.topicName) record.rosType then
        (caches.latencies key).add ((latencyNs record.timestamp nowNs).map UInt64.toNat)
      else caches.latencies key := by
  have hreceive : (caches.updateMetrics (members.rosTopic record.topicName) record.rosType
      fun metrics => metrics.receive record nowNs).latencies key = _ :=
    Caches.latencies_updateMetrics
      (fun statistics => statistics.add ((latencyNs record.timestamp nowNs).map UInt64.toNat))
      (fun metrics => metrics.latencies_receive) key
  rw [← hreceive]
  have hcongr : ∀ {before after : Caches}, after.metrics = before.metrics →
      after.latencies key = before.latencies key := fun h => by
    rw [Caches.latencies, h, Caches.latencies]
  rw [processMessage, if_neg hpayload]
  dsimp only
  rw [if_neg htype]
  generalize caches.updateMetrics (members.rosTopic record.topicName) record.rosType
    (fun metrics => metrics.receive record nowNs) = received
  have hsupport := received.ensureTypeSupport_metrics middleware record.rosType
  generalize received.ensureTypeSupport middleware record.rosType = support at hsupport
  obtain ⟨loaded, supported⟩ := support
  cases loaded with
  | false => exact (Caches.latencies_settle .fail key).trans (hcongr hsupport)
  | true =>
    dsimp only
    rcases supported.getOrCreatePublisher_cases middleware (members.rosTopic record.topicName)
      record.rosType with ⟨-, hget⟩ | ⟨-, after, hget, -, hsame⟩
    · rw [hget]
      exact hcongr hsupport
    · rw [hget]
      split
      next heq => cases heq
      next heq =>
        obtain ⟨-, rfl⟩ := Prod.mk.inj (Option.some.inj heq)
        exact (Caches.latencies_settle .fail key).trans (hcongr (hsame.trans hsupport))
      next heq =>
        obtain ⟨-, rfl⟩ := Prod.mk.inj (Option.some.inj heq)
        exact (Caches.latencies_settle .decode key).trans (hcongr (hsame.trans hsupport))

end KafkaSource

namespace KafkaCdrToJson

open Consumers

variable {members : Members} {middleware : Middleware} {nowNs : Int64} {record : ConsumedRecord}
variable {caches : Caches} {inputTopic outputTopic rosType : String}

/-- The statistics in the metrics of a topic. -/
def TopicMetrics.latencies (metrics : TopicMetrics) : LatencyStatistics where
  greatest := metrics.latencyNsMax.toNat
  recent := metrics.latencySamples.map UInt64.toNat

/-- The statistics of a topic, those of new metrics if there are none yet. -/
def Caches.latencies (caches : Caches) (topic : String) : LatencyStatistics :=
  ((caches.metrics[topic]?).map TopicMetrics.latencies).getD {}

theorem TopicMetrics.latencies_receive (metrics : TopicMetrics) :
    (metrics.receive record nowNs).latencies =
      metrics.latencies.add
        ((KafkaSource.latencyNs record.timestamp nowNs).map UInt64.toNat) := by
  unfold TopicMetrics.receive
  cases KafkaSource.latencyNs record.timestamp nowNs with
  | none => rfl
  | some latency =>
    rw [TopicMetrics.latencies, LatencyStatistics.mk.injEq]
    exact ⟨toNat_max _ _, map_pushRecent UInt64.toNat maxLatencySamples _ latency⟩

theorem Caches.latencies_updateMetrics {f : TopicMetrics → TopicMetrics}
    (change : LatencyStatistics → LatencyStatistics)
    (hchange : ∀ metrics, (f metrics).latencies = change metrics.latencies) (topic : String) :
    (caches.updateMetrics inputTopic outputTopic rosType f).latencies topic =
      if inputTopic = topic then change (caches.latencies topic) else caches.latencies topic := by
  rw [Caches.latencies, Caches.getElem?_updateMetrics]
  split
  next heq =>
    rw [Option.map_some, Option.getD_some, hchange, Caches.latencies, ← heq]
    cases caches.metrics[inputTopic]? <;> rfl
  next => rfl

/-- **A call records** the latency of its record, for its topic alone. -/
theorem processMessage_latencies (hpayload : record.payload ≠ []) (topic : String) :
    (processMessage members middleware nowNs record caches).2.latencies topic =
      if record.topicName = topic then
        (caches.latencies topic).add
          ((KafkaSource.latencyNs record.timestamp nowNs).map UInt64.toNat)
      else caches.latencies topic := by
  rcases processMessage_metrics members middleware nowNs record caches with
    ⟨hempty, -⟩ | ⟨-, outputTopic, rosType, settle, hsettle, hmetrics⟩
  · exact absurd hempty hpayload
  · have hkeeps : ∀ metrics, (settle metrics).latencies = id metrics.latencies := by
      cases hsettle <;> exact fun _ => rfl
    rw [Caches.latencies, hmetrics]
    change Caches.latencies (Caches.updateMetrics _ _ _ _ _) topic = _
    rw [Caches.latencies_updateMetrics id hkeeps, Caches.latencies_updateMetrics
      (fun statistics => statistics.add
        ((KafkaSource.latencyNs record.timestamp nowNs).map UInt64.toNat))
      (fun metrics => metrics.latencies_receive)]
    exact ite_self _

end KafkaCdrToJson

/-! ### Which latencies are right -/

/-- The latency of a record of a time, at a time, is right: its nanoseconds fit into 64 bits, and
both consumers record how much older than now it is, if it is, and nothing otherwise. -/
structure LatencyExact (ms nowNs : Int64) : Prop where
  fits : ms.toInt * 1000000 < 2 ^ 63
  kafkaSource : ∀ members middleware (record : Consumers.ConsumedRecord) caches,
    record.payload ≠ [] → record.rosType ≠ "" → record.timestamp = some ms → ∀ key,
    (KafkaSource.processMessage members middleware nowNs record caches).2.latencies key =
      if key = KafkaSource.cacheKey (members.rosTopic record.topicName) record.rosType then
        (caches.latencies key).add (latency ms.toInt nowNs.toInt)
      else caches.latencies key
  kafkaCdrToJson : ∀ members middleware (record : Consumers.ConsumedRecord) caches,
    record.payload ≠ [] → record.timestamp = some ms → ∀ topic,
    (KafkaCdrToJson.processMessage members middleware nowNs record caches).2.latencies topic =
      if record.topicName = topic then
        (caches.latencies topic).add (latency ms.toInt nowNs.toInt)
      else caches.latencies topic

section Exact

variable {ms nowNs : Int64}

theorem fits_iff : ms.toInt * 1000000 < 2 ^ 63 ↔ ms ≤ 9223372036854 := by
  have hbound : (9223372036854 : Int64).toInt = 9223372036854 := by decide
  rw [Int64.le_iff_toInt_le, hbound]
  omega

/-- The product is the one of the numbers, as long as it fits. -/
theorem toInt_nanoseconds (hms : 0 ≤ ms) (hfits : ms.toInt * 1000000 < 2 ^ 63) :
    (ms * 1000000).toInt = ms.toInt * 1000000 := by
  have hfactor : (1000000 : Int64).toInt = 1000000 := by decide
  have hnonneg : 0 ≤ ms.toInt := Int64.le_iff_toInt_le.mp hms
  rw [Int64.toInt_mul, hfactor]
  exact Int.bmod_eq_of_le (by omega) (by omega)

/-- A latency that fits is the one of the numbers. -/
theorem latencyNs_of_fits (hms : 0 ≤ ms) (hfits : ms.toInt * 1000000 < 2 ^ 63) :
    (KafkaSource.latencyNs (some ms) nowNs).map UInt64.toNat =
      latency ms.toInt nowNs.toInt := by
  have hproduct := toInt_nanoseconds hms hfits
  have hnonneg : 0 ≤ ms.toInt := Int64.le_iff_toInt_le.mp hms
  have hnow := nowNs.toInt_lt
  have hold : ms * 1000000 < nowNs ↔ ms.toInt * 1000000 < nowNs.toInt := by
    rw [Int64.lt_iff_toInt_lt, hproduct]
  rw [KafkaSource.latencyNs, latency]
  simp only [hms, true_and, hold]
  split
  next hlt =>
    have hsub : (nowNs - ms * 1000000).toInt = nowNs.toInt - ms.toInt * 1000000 := by
      rw [Int64.toInt_sub, hproduct]
      exact Int.bmod_eq_of_le (by omega) (by omega)
    have hpos : 0 ≤ nowNs - ms * 1000000 := by
      rw [Int64.le_iff_toInt_le, hsub]
      exact Int.sub_nonneg_of_le hlt.le
    rw [Option.map_some, Int64.toNat_toUInt64_of_le hpos, Int64.toNatClampNeg, hsub]
  next => rfl

/-- **Latencies**: they are right for the timestamps whose nanoseconds fit into 64 bits. -/
theorem latencyExact_iff (hms : 0 ≤ ms) :
    LatencyExact ms nowNs ↔ ms ≤ 9223372036854 := by
  refine ⟨fun h => fits_iff.mp h.fits, fun h => ?_⟩
  have hfits := fits_iff.mpr h
  have hlatency : (KafkaSource.latencyNs (some ms) nowNs).map UInt64.toNat =
      latency ms.toInt nowNs.toInt := latencyNs_of_fits hms hfits
  refine ⟨hfits, fun members middleware record caches hpayload htype hms' key => ?_,
    fun members middleware record caches hpayload hms' topic => ?_⟩
  · rw [KafkaSource.processMessage_latencies hpayload htype, hms', hlatency]
  · rw [KafkaCdrToJson.processMessage_latencies hpayload, hms', hlatency]

/-- A record of two milliseconds ago. -/
theorem latencyExact_recent : LatencyExact 1 3000000 :=
  (latencyExact_iff (by decide)).mpr (by decide)

/-- A record of one of the other timestamps is newer than any time, and has a latency at the
last one: the product is even, so it is below that time. -/
theorem exists_latencyNs_of_future (hms : 9223372036854 < ms) :
    ∃ nowNs : Int64, 0 ≤ nowNs ∧ nowNs.toInt < ms.toInt * 1000000 ∧
      (KafkaSource.latencyNs (some ms) nowNs).isSome := by
  have hlast : Int64.maxValue.toInt = 2 ^ 63 - 1 := by decide
  have hbound : (9223372036854 : Int64).toInt = 9223372036854 := by decide
  have hfactor : (1000000 : Int64).toInt = 1000000 := by decide
  have hms' : 9223372036854 < ms.toInt := hbound ▸ Int64.lt_iff_toInt_lt.mp hms
  have hpos : 0 ≤ ms := Int64.le_iff_toInt_le.mpr (by rw [Int64.toInt_zero]; omega)
  have hold : ms * 1000000 < Int64.maxValue := by
    have hwrap := Int.bmod_add_bdiv (ms.toInt * 1000000) (2 ^ 64)
    have hlt := (ms * 1000000).toInt_lt
    rw [Int64.lt_iff_toInt_lt, hlast]
    rw [Int64.toInt_mul, hfactor] at hlt ⊢
    omega
  refine ⟨Int64.maxValue, by decide, by omega, ?_⟩
  rw [KafkaSource.latencyNs, if_pos ⟨hpos, hold⟩]
  rfl

end Exact

/-- A record of the year 2262. -/
def farRecord : Consumers.ConsumedRecord where
  topicName := "ros2.a"
  payload := [0]
  headers := [⟨"ros_type", "std_msgs/msg/Empty"⟩]
  timestamp := some 9223372036855

/-- In 2026 both consumers take it for one of before 1970: they record a latency of more than three
centuries, the greatest ever. -/
theorem latencyExact_farRecord :
    (KafkaSource.processMessage {} {} 1767225600000000000 farRecord {}).2.latencies
        "/kafka_decoded/a|std_msgs/msg/Empty" =
      { greatest := 10990597636854551616, recent := [10990597636854551616] } ∧
    (KafkaCdrToJson.processMessage {} KafkaCdrToJson.Call.sample.middleware 1767225600000000000
        farRecord {}).2.latencies "ros2.a" =
      { greatest := 10990597636854551616, recent := [10990597636854551616] } ∧
    latency 9223372036855 1767225600000000000 = none ∧
    ¬LatencyExact 9223372036855 1767225600000000000 := by
  have hsource : (KafkaSource.processMessage {} {} 1767225600000000000 farRecord {}).2.latencies
      "/kafka_decoded/a|std_msgs/msg/Empty" =
      { greatest := 10990597636854551616, recent := [10990597636854551616] } := by decide +kernel
  refine ⟨hsource, by decide +kernel, by decide, fun h => ?_⟩
  have hexact := h.kafkaSource {} {} farRecord {} (by decide) (by decide) rfl
    "/kafka_decoded/a|std_msgs/msg/Empty"
  rw [hsource] at hexact
  exact absurd hexact (by decide +kernel)

end Ros2Dispatcher
