import Ros2Dispatcher.Library.Statistics
import Ros2Dispatcher.Metrics.Percentiles
import Ros2Dispatcher.Sinks.Totals

/-!
# The metrics reports of `kafka_sink`

The callback of a subscription keeps statistics of the messages it hands to the producer, in
counters of 64 bits: the totals, the extremes of the sizes and times since the activation, and
the latest of the times. `publish_metrics` reports them for every active subscription, with the
change since its last report; the rates and ratios it computes from them are left out.

* `Statistics.Account`: what the statistics say of the messages handed over so far.
* `report_consistent`: the numbers of any report fit together.
-/

namespace Ros2Dispatcher.KafkaSink

open KafkaClient Sinks

/-! ### Statistics -/

/-- The counters whose change is reported. -/
structure Reported where
  msgsTotal : UInt64 := 0
  sentOk : UInt64 := 0
  dropped : UInt64 := 0
  errors : UInt64 := 0
  bytesTotal : UInt64 := 0
  serializeTimeNsAccum : UInt64 := 0
  sendTimeNsAccum : UInt64 := 0
deriving DecidableEq, Repr

/-- The statistics of `SubscriptionRuntime`. -/
structure Statistics extends Reported where
  serializeTimeNsMax : UInt64 := 0
  sendTimeNsMax : UInt64 := 0
  msgSizeMin : UInt64 := 0xffffffffffffffff
  msgSizeMax : UInt64 := 0
  serializeSamples : List UInt64 := []
  sendSamples : List UInt64 := []
  /-- The counters at the last report. -/
  prev : Reported := {}
deriving DecidableEq, Repr

/-- `kMaxSamples`. -/
def maxSamples : Nat := 1000

/-- A message for a subscription, with the times its serialization and its `send` take. -/
structure TimedDelivery extends Delivery where
  serializeNs : UInt64
  sendNs : UInt64

namespace Statistics

/-- A value is about to be sent. -/
def receive (serializeNs msgSize : UInt64) (statistics : Statistics) : Statistics :=
  { statistics with
    serializeTimeNsAccum := statistics.serializeTimeNsAccum + serializeNs
    serializeTimeNsMax := max statistics.serializeTimeNsMax serializeNs
    msgSizeMin := min statistics.msgSizeMin msgSize
    msgSizeMax := max statistics.msgSizeMax msgSize
    serializeSamples := pushRecent maxSamples statistics.serializeSamples serializeNs
    msgsTotal := statistics.msgsTotal + 1
    bytesTotal := statistics.bytesTotal + msgSize }

/-- `send` has returned. -/
def complete (sendNs : UInt64) (result : KafkaSendResult) (statistics : Statistics) : Statistics :=
  let statistics := { statistics with
    sendTimeNsAccum := statistics.sendTimeNsAccum + sendNs
    sendTimeNsMax := max statistics.sendTimeNsMax sendNs
    sendSamples := pushRecent maxSamples statistics.sendSamples sendNs }
  if result.status = .sent then { statistics with sentOk := statistics.sentOk + 1 }
  else if result.status = .queueFull && !result.buffered then
    { statistics with dropped := statistics.dropped + 1 }
  -- a record that waits for a retry counts as an error
  else { statistics with errors := statistics.errors + 1 }

end Statistics

/-- The record the callback hands to the producer, if it gets that far. -/
def SubscriptionRuntime.handsOver (runtime : SubscriptionRuntime) (delivery : TimedDelivery) :
    Option QueuedRecord :=
  if runtime.unserialized delivery.toDelivery then none
  else onMessage delivery.json delivery.held runtime delivery.msg delivery.nowNs

/-- What the callback does to the statistics. -/
def SubscriptionRuntime.measure (runtime : SubscriptionRuntime) (delivery : TimedDelivery)
    (statistics : Statistics) : Statistics :=
  if runtime.unserialized delivery.toDelivery then
    { statistics with errors := statistics.errors + 1 }
  else
    match runtime.handsOver delivery with
    | some record =>
      (statistics.receive delivery.serializeNs record.value.length.toUInt64).complete
        delivery.sendNs (delivery.send record)
    | none => statistics

/-! ### Reports -/

/-- The entry of a report for a subscription, without its rates and ratios. -/
structure ReportEntry where
  rosTopic : String
  kafkaTopic : String
  msgType : String
  payloadFormat : PayloadFormat
  intervalMs : Int32
  delta : Reported
  minBytes : UInt64
  maxBytes : UInt64
  serializeAvg : UInt64
  serializeP95 : UInt64
  serializeP99 : UInt64
  serializeMax : UInt64
  sendAvg : UInt64
  sendP95 : UInt64
  sendP99 : UInt64
  sendMax : UInt64
  totals : Reported
deriving DecidableEq, Repr

/-- The change of the counters, which wraps as they do. -/
def Reported.since (reported prev : Reported) : Reported where
  msgsTotal := reported.msgsTotal - prev.msgsTotal
  sentOk := reported.sentOk - prev.sentOk
  dropped := reported.dropped - prev.dropped
  errors := reported.errors - prev.errors
  bytesTotal := reported.bytesTotal - prev.bytesTotal
  serializeTimeNsAccum := reported.serializeTimeNsAccum - prev.serializeTimeNsAccum
  sendTimeNsAccum := reported.sendTimeNsAccum - prev.sendTimeNsAccum

/-- The round of `publish_metrics` for a subscription. -/
def reportEntry (intervalMs : Int32) (runtime : SubscriptionRuntime) (statistics : Statistics) :
    ReportEntry :=
  let delta := statistics.toReported.since statistics.prev
  { rosTopic := runtime.rosTopic
    kafkaTopic := runtime.kafkaTopic
    msgType := runtime.msgType
    payloadFormat := runtime.payloadFormat
    intervalMs
    delta
    -- the initial value stands for no message
    minBytes := if statistics.msgSizeMin = 0xffffffffffffffff then 0 else statistics.msgSizeMin
    maxBytes := statistics.msgSizeMax
    serializeAvg :=
      if 0 < delta.msgsTotal then delta.serializeTimeNsAccum / delta.msgsTotal else 0
    serializeP95 := calculatePercentile statistics.serializeSamples (95 / 100)
    serializeP99 := calculatePercentile statistics.serializeSamples (99 / 100)
    serializeMax := statistics.serializeTimeNsMax
    sendAvg := if 0 < delta.msgsTotal then delta.sendTimeNsAccum / delta.msgsTotal else 0
    sendP95 := calculatePercentile statistics.sendSamples (95 / 100)
    sendP99 := calculatePercentile statistics.sendSamples (99 / 100)
    sendMax := statistics.sendTimeNsMax
    totals := statistics.toReported }

/-- A subscription of an activation with its statistics. -/
structure MeasuredSubscription where
  runtime : SubscriptionRuntime
  statistics : Statistics := {}
deriving DecidableEq, Repr

/-- `publish_metrics`, where metrics are enabled: the report, and the subscriptions after it. -/
def publishMetrics (intervalMs : Int32) (subscriptions : List MeasuredSubscription) :
    List ReportEntry × List MeasuredSubscription :=
  (subscriptions.map fun subscription =>
      reportEntry intervalMs subscription.runtime subscription.statistics,
    subscriptions.map fun subscription =>
      { subscription with statistics :=
        { subscription.statistics with prev := subscription.statistics.toReported } })

/-- What happens to the subscriptions of an activation: a message for one of them, or a
report. -/
inductive Happening
  | message (subscription : Nat) (delivery : TimedDelivery)
  | report

/-- The subscriptions after it. -/
def Happening.apply (intervalMs : Int32) (subscriptions : List MeasuredSubscription) :
    Happening → List MeasuredSubscription
  | message i delivery => subscriptions.modify i fun subscription =>
    { subscription with
      statistics := subscription.runtime.measure delivery subscription.statistics }
  | report => (publishMetrics intervalMs subscriptions).2

/-- The subscriptions of an activation after some happenings. -/
def afterHappenings (intervalMs : Int32) (runtimes : List SubscriptionRuntime)
    (happenings : List Happening) : List MeasuredSubscription :=
  happenings.foldl (Happening.apply intervalMs) (runtimes.map fun runtime => { runtime })

/-! ### What the statistics say -/

/-- A message that was handed over: its size and the two times. -/
structure Handled where
  size : Nat
  serializeNs : UInt64
  sendNs : UInt64
deriving DecidableEq, Repr

/-- What a message adds to those handed over. -/
def SubscriptionRuntime.handled (runtime : SubscriptionRuntime) (delivery : TimedDelivery) :
    Option Handled :=
  (runtime.handsOver delivery).map fun record =>
    ⟨record.value.length, delivery.serializeNs, delivery.sendNs⟩

/-- The message that a happening hands over for the subscription with the given number. -/
def Happening.handled (runtime : SubscriptionRuntime) (i : Nat) : Happening → Option Handled
  | message j delivery => if j = i then runtime.handled delivery else none
  | report => none

/-- The statistics are those of the messages handed over. -/
structure Statistics.Account (statistics : Statistics) (handled : List Handled) : Prop where
  msgs : statistics.msgsTotal = .ofNat handled.length
  bytes : statistics.bytesTotal = .ofNat (handled.map Handled.size).sum
  least_le : ∀ message ∈ handled, statistics.msgSizeMin ≤ .ofNat message.size
  le_greatest : ∀ message ∈ handled, .ofNat message.size ≤ statistics.msgSizeMax
  serialize : Tracks maxSamples statistics.serializeSamples statistics.serializeTimeNsMax
    (handled.map Handled.serializeNs)
  send : Tracks maxSamples statistics.sendSamples statistics.sendTimeNsMax
    (handled.map Handled.sendNs)

namespace Statistics.Account

variable {statistics : Statistics} {handled : List Handled}

protected theorem nil : Account {} [] :=
  ⟨rfl, rfl, nofun, nofun, .nil 0, .nil 0⟩

/-- The outcomes and the last report do not matter. -/
theorem congr (h : statistics.Account handled) {statistics' : Statistics}
    (hmsgs : statistics'.msgsTotal = statistics.msgsTotal)
    (hbytes : statistics'.bytesTotal = statistics.bytesTotal)
    (hsizes : statistics'.msgSizeMin = statistics.msgSizeMin ∧
      statistics'.msgSizeMax = statistics.msgSizeMax)
    (hserialize : statistics'.serializeSamples = statistics.serializeSamples ∧
      statistics'.serializeTimeNsMax = statistics.serializeTimeNsMax)
    (hsend : statistics'.sendSamples = statistics.sendSamples ∧
      statistics'.sendTimeNsMax = statistics.sendTimeNsMax) :
    statistics'.Account handled := by
  refine ⟨hmsgs.trans h.msgs, hbytes.trans h.bytes, ?_, ?_, ?_, ?_⟩
  · rw [hsizes.1]
    exact h.least_le
  · rw [hsizes.2]
    exact h.le_greatest
  · rw [hserialize.1, hserialize.2]
    exact h.serialize
  · rw [hsend.1, hsend.2]
    exact h.send

/-- One more message is handed over and sent. -/
theorem hand (h : statistics.Account handled) (message : Handled) (result : KafkaSendResult) :
    ((statistics.receive message.serializeNs (.ofNat message.size)).complete message.sendNs
      result).Account (handled ++ [message]) := by
  have hcounted : Account
      { statistics.receive message.serializeNs (.ofNat message.size) with
        sendTimeNsAccum := statistics.sendTimeNsAccum + message.sendNs
        sendTimeNsMax := max statistics.sendTimeNsMax message.sendNs
        sendSamples := pushRecent maxSamples statistics.sendSamples message.sendNs }
      (handled ++ [message]) := by
    have hserialize := h.serialize.push message.serializeNs
    have hsend := h.send.push message.sendNs
    refine ⟨?_, ?_, ?_, ?_, ?_, ?_⟩
    · simp only [receive, h.msgs, List.length_append, List.length_singleton, UInt64.ofNat_add]
      rfl
    · simp only [receive, h.bytes, List.map_append, List.map_singleton, List.sum_append,
        List.sum_singleton, UInt64.ofNat_add]
    · refine List.forall_mem_append.mpr ⟨fun earlier hearlier => ?_, ?_⟩
      · exact (min_le_left _ _).trans (h.least_le earlier hearlier)
      · exact List.forall_mem_singleton.mpr (min_le_right _ _)
    · refine List.forall_mem_append.mpr ⟨fun earlier hearlier => ?_, ?_⟩
      · exact (h.le_greatest earlier hearlier).trans (le_max_left _ _)
      · exact List.forall_mem_singleton.mpr (le_max_right _ _)
    · rwa [List.map_append]
    · rwa [List.map_append]
  unfold complete
  dsimp only
  split
  · exact hcounted.congr rfl rfl ⟨rfl, rfl⟩ ⟨rfl, rfl⟩ ⟨rfl, rfl⟩
  · split
    · exact hcounted.congr rfl rfl ⟨rfl, rfl⟩ ⟨rfl, rfl⟩ ⟨rfl, rfl⟩
    · exact hcounted.congr rfl rfl ⟨rfl, rfl⟩ ⟨rfl, rfl⟩ ⟨rfl, rfl⟩

/-- **Step lemma.** A message adds what it hands over. -/
theorem measure (h : statistics.Account handled) (runtime : SubscriptionRuntime)
    (delivery : TimedDelivery) :
    (runtime.measure delivery statistics).Account
      (handled ++ (runtime.handled delivery).toList) := by
  unfold SubscriptionRuntime.measure SubscriptionRuntime.handled
  split
  next hfails =>
    rw [SubscriptionRuntime.handsOver, if_pos hfails, Option.map_none, Option.toList_none,
      List.append_nil]
    exact h.congr rfl rfl ⟨rfl, rfl⟩ ⟨rfl, rfl⟩ ⟨rfl, rfl⟩
  · cases runtime.handsOver delivery with
    | none =>
      rw [Option.map_none, Option.toList_none, List.append_nil]
      exact h
    | some record => exact h.hand ⟨record.value.length, delivery.serializeNs, delivery.sendNs⟩ _

end Statistics.Account

/-! ### What the reports say -/

section Runs

variable {i : Nat} {runtime : SubscriptionRuntime} {subscriptions : List MeasuredSubscription}
variable {statistics : Statistics} {handled : List Handled}

/-- What happens to the subscription with the given number: it accounts for its own messages. -/
theorem Happening.apply_account (intervalMs : Int32) (happening : Happening)
    (hsubscription : subscriptions[i]? = some ⟨runtime, statistics⟩)
    (h : statistics.Account handled) :
    ∃ statistics' : Statistics,
      (happening.apply intervalMs subscriptions)[i]? = some ⟨runtime, statistics'⟩ ∧
      statistics'.Account (handled ++ (happening.handled runtime i).toList) := by
  cases happening with
  | message j delivery =>
    rw [Happening.apply, List.getElem?_modify, hsubscription, Happening.handled]
    by_cases hj : j = i
    · rw [if_pos hj]
      exact ⟨_, by simp [hj], h.measure runtime delivery⟩
    · rw [if_neg hj, Option.toList_none, List.append_nil]
      exact ⟨statistics, by simp [hj], h⟩
  | report =>
    rw [Happening.apply, publishMetrics, List.getElem?_map, hsubscription, Happening.handled,
      Option.toList_none, List.append_nil]
    exact ⟨_, rfl, h.congr rfl rfl ⟨rfl, rfl⟩ ⟨rfl, rfl⟩ ⟨rfl, rfl⟩⟩

/-- **Run lemma.** The statistics of a subscription account for the messages that were handed
over for it. -/
theorem foldl_apply_account (intervalMs : Int32) (happenings : List Happening)
    (hsubscription : subscriptions[i]? = some ⟨runtime, statistics⟩)
    (h : statistics.Account handled) :
    ∃ statistics' : Statistics,
      (happenings.foldl (Happening.apply intervalMs) subscriptions)[i]? =
        some ⟨runtime, statistics'⟩ ∧
      statistics'.Account (handled ++ happenings.filterMap (Happening.handled runtime i)) := by
  induction happenings generalizing subscriptions statistics handled with
  | nil => exact ⟨statistics, hsubscription, by rwa [List.filterMap_nil, List.append_nil]⟩
  | cons happening happenings ih =>
    obtain ⟨statistics', hnext, haccount⟩ := happening.apply_account intervalMs hsubscription h
    obtain ⟨statistics'', hlast, hall⟩ := ih hnext haccount
    have hfilter : (happening :: happenings).filterMap (Happening.handled runtime i) =
        (happening.handled runtime i).toList ++
          happenings.filterMap (Happening.handled runtime i) := by
      cases hhandled : happening.handled runtime i <;> simp [hhandled]
    rw [List.append_assoc, ← hfilter] at hall
    exact ⟨statistics'', hlast, hall⟩

/-- The numbers of an entry fit together. -/
structure ReportEntry.Consistent (entry : ReportEntry) : Prop where
  serialize : entry.serializeP95 ≤ entry.serializeP99 ∧ entry.serializeP99 ≤ entry.serializeMax
  send : entry.sendP95 ≤ entry.sendP99 ∧ entry.sendP99 ≤ entry.sendMax
  least : entry.minBytes.toNat * entry.totals.msgsTotal.toNat ≤ entry.totals.bytesTotal.toNat
  greatest : entry.totals.bytesTotal.toNat ≤ entry.maxBytes.toNat * entry.totals.msgsTotal.toNat

/-- The percentiles of tracked times are in order and none is above the greatest time. -/
theorem percentiles_le {samples times : List UInt64} {greatest : UInt64}
    (h : Tracks maxSamples samples greatest times) :
    calculatePercentile samples (95 / 100) ≤ calculatePercentile samples (99 / 100) ∧
      calculatePercentile samples (99 / 100) ≤ greatest :=
  ⟨calculatePercentile_mono (by decide +kernel) (by decide +kernel),
    calculatePercentile_le h.window_le (by decide +kernel)⟩

/-- An entry of statistics that account for some messages, as long as their totals fit. -/
theorem Statistics.Account.consistent (h : statistics.Account handled) (intervalMs : Int32)
    (runtime : SubscriptionRuntime) (hmsgs : handled.length < 2 ^ 64)
    (hbytes : (handled.map Handled.size).sum < 2 ^ 64) :
    (reportEntry intervalMs runtime statistics).Consistent := by
  have hsize : ∀ message ∈ handled, (UInt64.ofNat message.size).toNat = message.size := by
    intro message hmessage
    have hle := List.single_le_sum (l := handled.map Handled.size) (by simp) message.size
      (List.mem_map_of_mem hmessage)
    exact UInt64.toNat_ofNat_of_lt' (hle.trans_lt hbytes)
  have hmin : (reportEntry intervalMs runtime statistics).minBytes ≤ statistics.msgSizeMin := by
    unfold reportEntry
    dsimp only
    split
    · exact UInt64.zero_le
    · exact le_rfl
  have htotals : (reportEntry intervalMs runtime statistics).totals = statistics.toReported := rfl
  have hmsgsTotal : statistics.msgsTotal.toNat = (handled.map Handled.size).length := by
    rw [h.msgs, UInt64.toNat_ofNat_of_lt' hmsgs, List.length_map]
  have hbytesTotal : statistics.bytesTotal.toNat = (handled.map Handled.size).sum := by
    rw [h.bytes, UInt64.toNat_ofNat_of_lt' hbytes]
  refine ⟨percentiles_le h.serialize, percentiles_le h.send, ?_, ?_⟩
  · rw [htotals, hmsgsTotal, hbytesTotal, Nat.mul_comm, ← Nat.nsmul_eq_mul]
    refine List.card_nsmul_le_sum _ _ (List.forall_mem_map.mpr fun message hmessage => ?_)
    rw [← hsize message hmessage]
    exact UInt64.le_iff_toNat_le.mp (hmin.trans (h.least_le message hmessage))
  · rw [htotals, hmsgsTotal, hbytesTotal, Nat.mul_comm, ← Nat.nsmul_eq_mul]
    refine List.sum_le_card_nsmul _ _ (List.forall_mem_map.mpr fun message hmessage => ?_)
    rw [← hsize message hmessage]
    exact UInt64.le_iff_toNat_le.mp (h.le_greatest message hmessage)

/-- **The reports are consistent.** A report after any messages and reports has percentiles in
order, up to the greatest time, and a total size between the extremes times the count, as long
as the totals fit into 64 bits; and the samples are the latest times, in order. -/
theorem report_consistent (intervalMs : Int32) (runtimes : List SubscriptionRuntime)
    (happenings : List Happening) (hruntime : runtimes[i]? = some runtime)
    (hmsgs : (happenings.filterMap (Happening.handled runtime i)).length < 2 ^ 64)
    (hbytes : ((happenings.filterMap (Happening.handled runtime i)).map Handled.size).sum <
      2 ^ 64) :
    ∃ statistics, (afterHappenings intervalMs runtimes happenings)[i]? =
        some ⟨runtime, statistics⟩ ∧
      (publishMetrics intervalMs (afterHappenings intervalMs runtimes happenings)).1[i]? =
        some (reportEntry intervalMs runtime statistics) ∧
      (reportEntry intervalMs runtime statistics).Consistent ∧
      statistics.serializeSamples = ((happenings.filterMap (Happening.handled runtime i)).map
        Handled.serializeNs).rtake maxSamples ∧
      statistics.sendSamples = ((happenings.filterMap (Happening.handled runtime i)).map
        Handled.sendNs).rtake maxSamples := by
  have hfresh : (runtimes.map fun runtime => ({ runtime } : MeasuredSubscription))[i]? =
      some ⟨runtime, {}⟩ := by
    rw [List.getElem?_map, hruntime]
    rfl
  obtain ⟨statistics, hsubscription, haccount⟩ :=
    foldl_apply_account intervalMs happenings hfresh .nil
  rw [List.nil_append] at haccount
  refine ⟨statistics, hsubscription, ?_, haccount.consistent intervalMs runtime hmsgs hbytes,
    haccount.serialize.window, haccount.send.window⟩
  rw [publishMetrics, List.getElem?_map]
  exact congrArg (Option.map _) hsubscription

/-- A message of two bytes that takes some time. -/
def timedSample : TimedDelivery where
  msg := [1, 2]
  serializeMessageToJson _ _ := .failed
  applyTsEnvelopeToJson payload _ := some payload
  send _ := { status := .sent }
  serializeNs := 30
  sendNs := 40

/-- Two messages with a report between them. -/
theorem report_consistent_sample :
    ∃ statistics, (publishMetrics 1000 (afterHappenings 1000 [.sample]
        [.message 0 timedSample, .report, .message 0 timedSample])).1[0]? =
          some (reportEntry 1000 .sample statistics) ∧
      (reportEntry 1000 .sample statistics).Consistent ∧
      statistics.serializeSamples = [30, 30] ∧ statistics.msgsTotal = 2 := by
  obtain ⟨statistics, hsubscription, hentry, hconsistent, hserialize, -⟩ :=
    report_consistent 1000 [.sample] [.message 0 timedSample, .report, .message 0 timedSample]
      (i := 0) rfl (by decide +kernel) (by decide +kernel)
  refine ⟨statistics, hentry, hconsistent, hserialize, ?_⟩
  have hstatistics := congrArg (Option.map fun subscription : MeasuredSubscription =>
    subscription.statistics.msgsTotal) hsubscription
  exact (Option.some.inj hstatistics).symm

end Runs

end Ros2Dispatcher.KafkaSink
