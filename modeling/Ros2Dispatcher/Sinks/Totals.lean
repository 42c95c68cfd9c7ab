import Ros2Dispatcher.Sinks.Counters
import Ros2Dispatcher.Sinks.MosquittoSink

/-!
# The totals of a subscription

Both sinks count, for each subscription, the messages it received and what became of them,
and publish these counters as its `totals`. The callback counts a message as received just
before it hands it to the client, and its outcome right after; but a message that cannot be
turned into JSON is counted as an error before that, and never as received.

* `Totals.Follows`: what one callback counts, with the messages it counts as errors only.
* `totals_balanced_iff`: over any deliveries to any subscriptions of either sink, the totals
  of a subscription add up exactly if each of its messages could be serialized.
* `unserialized_message_not_received`: they do not add up in general.
-/

namespace Ros2Dispatcher.Sinks

/-! ### Counting -/

/-- The counters of `SubscriptionRuntime` that `publish_metrics` publishes as totals. -/
structure Totals extends KafkaSink.Counters where
  msgsTotal : Nat := 0
  bytesTotal : Nat := 0
deriving DecidableEq, Repr

namespace Totals

/-- The message is about to be handed to the client. -/
def receive (size : Nat) (totals : Totals) : Totals :=
  { totals with msgsTotal := totals.msgsTotal + 1, bytesTotal := totals.bytesTotal + size }

/-- The client took the message. -/
def countSent (totals : Totals) : Totals :=
  { totals with sentOk := totals.sentOk + 1 }

def countError (totals : Totals) : Totals :=
  { totals with errors := totals.errors + 1 }

/-- The messages with an outcome. -/
def outcomes (totals : Totals) : Nat :=
  totals.sentOk + totals.dropped + totals.errors

/-- The totals add up. -/
def Balanced (totals : Totals) : Prop :=
  totals.msgsTotal = totals.outcomes

instance (totals : Totals) : Decidable totals.Balanced :=
  inferInstanceAs (Decidable (_ = _))

end Totals

/-- How `serialize_message_to_json` ends: with the text, with `false`, or in an exception. -/
inductive Serialization
  | text (payload : List UInt8)
  | failed
  | thrown
deriving DecidableEq, Repr

/-- The text, if there is one. -/
def Serialization.payload? : Serialization → Option (List UInt8)
  | .text payload => some payload
  | _ => none

/-- A callback goes on past its first checks, and `serialize_message_to_json` returns `false`,
which it does at once without the type support. -/
def unserialized {R : Type} (held : Resources R) (format : PayloadFormat)
    (rmwTypeSupport introspectionTypeSupport : Bool) (serialization : Serialization) : Bool :=
  held.isActive && held.client && decide (format = .json) &&
    (!(rmwTypeSupport && introspectionTypeSupport) || decide (serialization = .failed))

end Ros2Dispatcher.Sinks

/-! ### The callback of `kafka_sink` -/

namespace Ros2Dispatcher.KafkaSink

open KafkaClient Sinks

/-- A message for a subscription, with what the callback meets: the members of the node, the
clock, the steps to the JSON text (no result is an exception of the second), and the result
of `send`. -/
structure Delivery where
  held : Resources := { isActive := true, client := true }
  msg : List UInt8
  nowNs : Int64 := 0
  serializeMessageToJson : String → List UInt8 → Serialization
  applyTsEnvelopeToJson : List UInt8 → Int64 → Option (List UInt8)
  send : QueuedRecord → KafkaSendResult

/-- The two steps as `onMessage` takes them. -/
def Delivery.json (delivery : Delivery) : JsonConversion where
  serializeMessageToJson msgType msg := (delivery.serializeMessageToJson msgType msg).payload?
  applyTsEnvelopeToJson := delivery.applyTsEnvelopeToJson

/-- The message cannot be turned into JSON. -/
def SubscriptionRuntime.unserialized (runtime : SubscriptionRuntime) (delivery : Delivery) :
    Bool :=
  Sinks.unserialized delivery.held runtime.payloadFormat runtime.rmwTypeSupport
    runtime.introspectionTypeSupport
    (delivery.serializeMessageToJson runtime.msgType delivery.msg)

/-- The counting of the callback. -/
def SubscriptionRuntime.callback (runtime : SubscriptionRuntime) (delivery : Delivery)
    (totals : Totals) : Totals :=
  if runtime.unserialized delivery then totals.countError
  else
    match onMessage delivery.json delivery.held runtime delivery.msg delivery.nowNs with
    | some record =>
      let received := totals.receive record.value.length
      { received with toCounters := received.toCounters.count (delivery.send record) }
    -- the sink is not active, or an exception leaves the callback
    | none => totals

end Ros2Dispatcher.KafkaSink

/-! ### The callback of `mosquitto_sink` -/

namespace Ros2Dispatcher.MosquittoSink

open Sinks

/-- The MQTT client during one `publish`: whether it is connected, and the text of the
exception it throws, if it does. -/
structure AsyncClient where
  isConnected : Bool := true
  publish : String → List UInt8 → Int32 → Bool → Option String := fun _ _ _ _ => none

/-- `MqttClient::publish`, with its error message. -/
def publish (client : AsyncClient) (topic : String) (payload : List UInt8) (qos : Int32)
    (retain : Bool) : Except String Unit :=
  if client.isConnected then
    match client.publish topic payload qos retain with
    | none => .ok ()
    | some what => .error what
  else .error "client not connected"

/-- A message for a subscription, with what the callback meets: the members of the node, the
clock, the steps to the JSON text (no result is an exception of the second or third), the
message with another frame id, if `inject_frame_id_into_cdr` replaces it, and the client. -/
structure Delivery where
  held : Resources := { isActive := true, client := true }
  msg : List UInt8
  nowNs : Int64 := 0
  serializeMessageToJson : String → List UInt8 → Serialization
  applyMessageKeyToJson : List UInt8 → String → Option (List UInt8)
  applyTsEnvelopeToJson : List UInt8 → Int64 → Option (List UInt8)
  injectFrameIdIntoCdr : String → List UInt8 → String → Option (List UInt8)
  client : AsyncClient := {}

/-- The message cannot be turned into JSON. -/
def SubscriptionRuntime.unserialized (runtime : SubscriptionRuntime) (delivery : Delivery) :
    Bool :=
  Sinks.unserialized delivery.held runtime.payloadFormat runtime.rmwTypeSupport
    runtime.introspectionTypeSupport
    (delivery.serializeMessageToJson runtime.msgType delivery.msg)

/-- The bytes the callback publishes for a message. -/
def SubscriptionRuntime.value (runtime : SubscriptionRuntime) (delivery : Delivery) :
    Option (List UInt8) :=
  match runtime.payloadFormat with
  | .cdr =>
    if runtime.messageKey ≠ "" ∧ runtime.rmwTypeSupport ∧ runtime.introspectionTypeSupport then
      some ((delivery.injectFrameIdIntoCdr runtime.msgType delivery.msg
        runtime.messageKey).getD delivery.msg)
    else some delivery.msg
  | .json =>
    if runtime.rmwTypeSupport && runtime.introspectionTypeSupport then do
      let payload ← (delivery.serializeMessageToJson runtime.msgType delivery.msg).payload?
      let keyed ← if runtime.messageKey = "" then some payload
        else delivery.applyMessageKeyToJson payload runtime.messageKey
      delivery.applyTsEnvelopeToJson keyed delivery.nowNs
    else none

/-- The counting of the callback; nothing is ever dropped. -/
def SubscriptionRuntime.callback (mqtt : MqttParameters) (runtime : SubscriptionRuntime)
    (delivery : Delivery) (totals : Totals) : Totals :=
  if runtime.unserialized delivery then totals.countError
  else if delivery.held.isActive && delivery.held.client then
    match runtime.value delivery with
    | some value =>
      let received := totals.receive value.length
      match publish delivery.client runtime.mqttTopic value mqtt.qos mqtt.retain with
      | .ok _ => received.countSent
      | .error _ => received.countError
    -- an exception leaves the callback
    | none => totals
  else totals

end Ros2Dispatcher.MosquittoSink

namespace Ros2Dispatcher.Sinks

/-! ### What one callback counts -/

namespace Totals

/-- The second totals count some more messages as received, each with its outcome, and
`unserialized` others as errors alone. -/
def Follows (unserialized : Nat) (totals totals' : Totals) : Prop :=
  ∃ received, totals'.msgsTotal = totals.msgsTotal + received ∧
    totals'.outcomes = totals.outcomes + received + unserialized

namespace Follows

variable {m n : Nat} {totals totals' totals'' : Totals}

protected theorem refl (totals : Totals) : Follows 0 totals totals :=
  ⟨0, rfl, rfl⟩

protected theorem trans (h : Follows m totals totals') (h' : Follows n totals' totals'') :
    Follows (m + n) totals totals'' := by
  obtain ⟨received, hmsgs, houtcomes⟩ := h
  obtain ⟨received', hmsgs', houtcomes'⟩ := h'
  exact ⟨received + received', by omega, by omega⟩

/-- A message is counted as an error, and not as received. -/
theorem countError (totals : Totals) : Follows 1 totals totals.countError :=
  ⟨0, rfl, rfl⟩

/-- A message is received and gets one outcome. -/
theorem of_received (hmsgs : totals'.msgsTotal = totals.msgsTotal + 1)
    (houtcomes : totals'.outcomes = totals.outcomes + 1) : Follows 0 totals totals' :=
  ⟨1, hmsgs, houtcomes⟩

/-- From fresh counters on, the totals add up exactly if every message was serialized. -/
theorem balanced_iff (h : Follows n {} totals) : totals.Balanced ↔ n = 0 := by
  obtain ⟨received, hmsgs, houtcomes⟩ := h
  have hfresh : ({} : Totals).msgsTotal = 0 ∧ ({} : Totals).outcomes = 0 := ⟨rfl, rfl⟩
  unfold Balanced
  omega

end Follows

end Totals

end Ros2Dispatcher.Sinks

namespace Ros2Dispatcher.KafkaSink

open KafkaClient Sinks

/-- One result, one outcome. -/
theorem Counters.count_outcomes (counters : Counters) (result : KafkaSendResult) :
    (counters.count result).sentOk + (counters.count result).dropped +
      (counters.count result).errors =
      counters.sentOk + counters.dropped + counters.errors + 1 := by
  unfold Counters.count
  split
  · dsimp only
    omega
  · split
    · dsimp only
      omega
    · rfl

/-- **Step lemma** for `kafka_sink`. -/
theorem callback_follows (runtime : SubscriptionRuntime) (delivery : Delivery)
    (totals : Totals) : Totals.Follows (runtime.unserialized delivery).toNat totals
      (runtime.callback delivery totals) := by
  unfold SubscriptionRuntime.callback
  by_cases hfails : runtime.unserialized delivery = true
  · rw [if_pos hfails, hfails]
    exact .countError totals
  · rw [if_neg hfails, Bool.eq_false_iff.mpr hfails]
    split
    next record _ =>
      have houtcomes := Counters.count_outcomes totals.toCounters (delivery.send record)
      exact .of_received rfl houtcomes
    · exact .refl totals

end Ros2Dispatcher.KafkaSink

namespace Ros2Dispatcher.MosquittoSink

open Sinks

/-- **Step lemma** for `mosquitto_sink`. -/
theorem callback_follows (mqtt : MqttParameters) (runtime : SubscriptionRuntime)
    (delivery : Delivery) (totals : Totals) :
    Totals.Follows (runtime.unserialized delivery).toNat totals
      (runtime.callback mqtt delivery totals) := by
  unfold SubscriptionRuntime.callback
  by_cases hfails : runtime.unserialized delivery = true
  · rw [if_pos hfails, hfails]
    exact .countError totals
  · rw [if_neg hfails, Bool.eq_false_iff.mpr hfails]
    split
    · split
      next value _ =>
        dsimp only
        split
        · refine .of_received rfl ?_
          simp only [Totals.countSent, Totals.receive, Totals.outcomes]
          omega
        · exact .of_received rfl rfl
      · exact .refl totals
    · exact .refl totals

end Ros2Dispatcher.MosquittoSink

namespace Ros2Dispatcher.Sinks

/-! ### Deliveries -/

/-- A subscription of an activation with its totals. -/
structure CountedSubscription (R : Type) where
  runtime : R
  totals : Totals := {}
deriving DecidableEq, Repr

section Deliveries

variable {R D : Type} (callback : R → D → Totals → Totals)

/-- A message for the subscription with the given number. -/
def deliver (subscriptions : List (CountedSubscription R)) (delivery : Nat × D) :
    List (CountedSubscription R) :=
  subscriptions.modify delivery.1 fun subscription =>
    { subscription with
      totals := callback subscription.runtime delivery.2 subscription.totals }

/-- The messages for one subscription. -/
def deliveriesTo (i : Nat) (deliveries : List (Nat × D)) : List D :=
  deliveries.filterMap fun delivery => if delivery.1 = i then some delivery.2 else none

variable {callback}

/-- What happens to a subscription is up to the messages for it. -/
theorem getElem?_foldl_deliver (deliveries : List (Nat × D))
    (subscriptions : List (CountedSubscription R)) (i : Nat) :
    (deliveries.foldl (deliver callback) subscriptions)[i]? =
      subscriptions[i]?.map fun subscription =>
        { subscription with
          totals := (deliveriesTo i deliveries).foldl
            (fun totals delivery => callback subscription.runtime delivery totals)
            subscription.totals } := by
  induction deliveries generalizing subscriptions with
  | nil =>
    rw [List.foldl_nil]
    exact Option.map_id'.symm
  | cons delivery deliveries ih =>
    rw [List.foldl_cons, ih, deliver, List.getElem?_modify, Option.map_eq_map, Option.map_map]
    by_cases hi : delivery.1 = i
    · simp [deliveriesTo, hi, Function.comp_def]
    · simp [deliveriesTo, hi, Function.comp_def]

/-- **Run lemma.** All messages for a subscription: those that cannot be serialized are
counted as errors alone. -/
theorem Totals.Follows.foldl {runtime : R} {unserialized : D → Bool}
    (hcallback : ∀ delivery totals,
      Follows (unserialized delivery).toNat totals (callback runtime delivery totals))
    (deliveries : List D) (totals : Totals) :
    Follows (deliveries.countP unserialized) totals
      (deliveries.foldl (fun totals delivery => callback runtime delivery totals) totals) := by
  induction deliveries generalizing totals with
  | nil => exact .refl totals
  | cons delivery deliveries ih =>
    have hstep := (hcallback delivery totals).trans (ih (callback runtime delivery totals))
    have hcount : (delivery :: deliveries).countP unserialized =
        (unserialized delivery).toNat + deliveries.countP unserialized := by
      rw [List.countP_cons, Nat.add_comm]
      cases unserialized delivery <;> rfl
    rw [List.foldl_cons, hcount]
    exact hstep

end Deliveries

/-! ### The two sinks -/

/-- The two sinks, one of them with its MQTT parameters. -/
inductive SinkNode
  | kafka
  | mosquitto (mqtt : MosquittoSink.MqttParameters)

namespace SinkNode

/-- `SubscriptionRuntime` of the sink. -/
abbrev Runtime : SinkNode → Type
  | kafka => KafkaSink.SubscriptionRuntime
  | mosquitto _ => MosquittoSink.SubscriptionRuntime

abbrev Delivery : SinkNode → Type
  | kafka => KafkaSink.Delivery
  | mosquitto _ => MosquittoSink.Delivery

/-- The counting of its callback. -/
def callback : (sink : SinkNode) → sink.Runtime → sink.Delivery → Totals → Totals
  | kafka => KafkaSink.SubscriptionRuntime.callback
  | mosquitto mqtt => MosquittoSink.SubscriptionRuntime.callback mqtt

/-- The message cannot be turned into JSON. -/
def unserialized : (sink : SinkNode) → sink.Runtime → sink.Delivery → Bool
  | kafka => KafkaSink.SubscriptionRuntime.unserialized
  | mosquitto _ => MosquittoSink.SubscriptionRuntime.unserialized

theorem callback_follows (sink : SinkNode) (runtime : sink.Runtime) (delivery : sink.Delivery)
    (totals : Totals) : Totals.Follows (sink.unserialized runtime delivery).toNat totals
      (sink.callback runtime delivery totals) := by
  cases sink with
  | kafka => exact KafkaSink.callback_follows runtime delivery totals
  | mosquitto mqtt => exact MosquittoSink.callback_follows mqtt runtime delivery totals

/-- The subscriptions of an activation after some messages. -/
def afterDeliveries (sink : SinkNode) (runtimes : List sink.Runtime)
    (deliveries : List (Nat × sink.Delivery)) : List (CountedSubscription sink.Runtime) :=
  deliveries.foldl (deliver sink.callback) (runtimes.map fun runtime => { runtime })

end SinkNode

/-- **The totals add up** after any messages to the subscriptions of either sink exactly for
those subscriptions whose messages could all be serialized. -/
theorem totals_balanced_iff (sink : SinkNode) (runtimes : List sink.Runtime)
    (deliveries : List (Nat × sink.Delivery)) (i : Nat)
    {subscription : CountedSubscription sink.Runtime}
    (h : (sink.afterDeliveries runtimes deliveries)[i]? = some subscription) :
    subscription.totals.Balanced ↔ ∀ delivery ∈ deliveries, delivery.1 = i →
      sink.unserialized subscription.runtime delivery.2 = false := by
  unfold SinkNode.afterDeliveries at h
  rw [getElem?_foldl_deliver, List.getElem?_map, Option.map_map, Option.map_eq_some_iff] at h
  obtain ⟨runtime, -, rfl⟩ := h
  have hfollows := Totals.Follows.foldl (sink.callback_follows runtime)
    (deliveriesTo i deliveries) {}
  refine hfollows.balanced_iff.trans (List.countP_eq_zero.trans ?_)
  simp only [deliveriesTo, List.mem_filterMap, Bool.not_eq_true]
  constructor
  · intro hserialized delivery hdelivery hi
    exact hserialized delivery.2 ⟨delivery, hdelivery, if_pos hi⟩
  · rintro hserialized message ⟨delivery, hdelivery, hmessage⟩
    split at hmessage
    next hi =>
      obtain rfl := Option.some.inj hmessage
      exact hserialized delivery hdelivery hi
    · cases hmessage

/-- A message that cannot be turned into JSON. -/
def unreadableForKafka : KafkaSink.Delivery where
  msg := [0]
  serializeMessageToJson _ _ := .failed
  applyTsEnvelopeToJson payload _ := some payload
  send _ := { status := .sent }

/-- A message that cannot be turned into JSON. -/
def unreadableForMqtt : MosquittoSink.Delivery where
  msg := [0]
  serializeMessageToJson _ _ := .failed
  applyMessageKeyToJson payload _ := some payload
  applyTsEnvelopeToJson payload _ := some payload
  injectFrameIdIntoCdr _ _ _ := none

/-- A subscription of `mosquitto_sink` to `/a` in CDR. -/
def cdrForMqtt : MosquittoSink.SubscriptionRuntime where
  rosTopic := "/a"
  msgType := "T"
  mqttTopic := "ros2/a"
  messageKey := ""

/-- In CDR the message is received and sent. -/
theorem totals_balanced_iff_cdr :
    (∃ subscription, (SinkNode.kafka.afterDeliveries [.sample] [(0, unreadableForKafka)])[0]? =
      some subscription ∧ subscription.totals.msgsTotal = 1 ∧ subscription.totals.Balanced) ∧
    ∃ subscription, ((SinkNode.mosquitto {}).afterDeliveries [cdrForMqtt]
      [(0, unreadableForMqtt)])[0]? = some subscription ∧
      subscription.totals.msgsTotal = 1 ∧ subscription.totals.Balanced := by
  constructor
  · refine ⟨_, rfl, rfl, ?_⟩
    exact (totals_balanced_iff .kafka [.sample] [(0, unreadableForKafka)] 0 rfl).mpr
      (List.forall_mem_singleton.mpr fun _ => rfl)
  · refine ⟨_, rfl, rfl, ?_⟩
    exact (totals_balanced_iff (.mosquitto {}) [cdrForMqtt] [(0, unreadableForMqtt)] 0 rfl).mpr
      (List.forall_mem_singleton.mpr fun _ => rfl)

/-- In JSON it is an error of both sinks and received by neither. -/
theorem unserialized_message_not_received :
    (¬∀ (runtimes : List SinkNode.kafka.Runtime)
      (deliveries : List (Nat × SinkNode.kafka.Delivery)) (i : Nat)
      (subscription : CountedSubscription SinkNode.kafka.Runtime),
      (SinkNode.kafka.afterDeliveries runtimes deliveries)[i]? = some subscription →
        subscription.totals.Balanced) ∧
    ¬∀ (mqtt : MosquittoSink.MqttParameters) (runtimes : List (SinkNode.mosquitto mqtt).Runtime)
      (deliveries : List (Nat × (SinkNode.mosquitto mqtt).Delivery)) (i : Nat)
      (subscription : CountedSubscription (SinkNode.mosquitto mqtt).Runtime),
      ((SinkNode.mosquitto mqtt).afterDeliveries runtimes deliveries)[i]? = some subscription →
        subscription.totals.Balanced := by
  constructor
  · intro h
    have hbalanced := h [{ KafkaSink.SubscriptionRuntime.sample with
      payloadFormat := .json, rmwTypeSupport := true, introspectionTypeSupport := true }]
      [(0, unreadableForKafka)] 0 _ rfl
    exact absurd hbalanced (by decide)
  · intro h
    have hbalanced := h {} [{ cdrForMqtt with
      payloadFormat := .json, rmwTypeSupport := true, introspectionTypeSupport := true }]
      [(0, unreadableForMqtt)] 0 _ rfl
    exact absurd hbalanced (by decide)

end Ros2Dispatcher.Sinks
