import Ros2Dispatcher.Records.Relay

/-!
# What the CDR relay keeps

`System.Coherent` is kept by every step: every record is that of a reception (`sent`), what
librdkafka accepted is at the broker or was taken from it (`delivers`), and each record that was
taken has been published (`published`), because its name can be read off its topic and the cached
publishers are keyed. `cdr_relay_faithful` is what it says in terms of the messages.
-/

namespace Ros2Dispatcher.Relay

open Consumers KafkaClient KafkaSource Sinks Tokens

variable {kafka : KafkaSink.KafkaParameters} {members : Members} {tokens : List (List Char)}
variable {routes : RosName → String → Prop} {name name' : RosName} {type : String}
variable {json : KafkaSink.JsonConversion} {s s' : System} {session : Session}
variable {machine : Machine} {message : Message} {key : List UInt8}

/-! ### Names -/

theorem AddsPrefix.rosTopic (h : AddsPrefix members tokens) (name : RosName) :
    members.rosTopic (kafkaTopic name) = target tokens name := by
  rw [Members.rosTopic, h.mappings]
  exact deriveRosTopic_encoded h.valid h.written

/-- Names are kept apart on the way: by their topics, and by their targets. -/
theorem target_inj : target tokens name = target tokens name' ↔ name.absolute = name'.absolute := by
  rw [target, target, RosName.absolute, RosName.absolute, path_append, path_append,
    String.ofList_inj, String.ofList_inj, List.append_cancel_left_eq]

theorem kafkaTopic_inj : kafkaTopic name = kafkaTopic name' ↔ name.absolute = name'.absolute := by
  constructor
  · intro h
    have hplain : AddsPrefix { rosTopicPrefix := "" } [] :=
      ⟨rfl, by simp [ValidTokens], [], .inl rfl, .inl rfl⟩
    have htarget := hplain.rosTopic name
    rw [h, hplain.rosTopic name'] at htarget
    exact (target_inj.mp htarget).symm
  · intro h
    have hpath : path '/' name.tokens = path '/' name'.tokens := String.ofList_inj.mp h
    unfold kafkaTopic
    rw [hpath]

/-- A target is a name of tokens, so it has no `|`. -/
theorem bar_notMem_target (h : ValidTokens tokens) (name : RosName) :
    '|' ∉ (target tokens name).toList := by
  rw [target, String.toList_ofList]
  exact notMem_path (by decide) ((h.append name.valid).notMem (by decide))

/-! ### Records -/

/-- The record of a reception by a CDR subscription. -/
def Reception.record (reception : Reception) : QueuedRecord where
  topic := reception.subscription.runtime.kafkaTopic
  key := reception.subscription.runtime.messageKeyBytes
  value := reception.msg
  timestampMs := reception.nowNs / 1000000
  headers := [⟨"ros_type", reception.subscription.runtime.msgType⟩]

/-- A subscription that sends the bytes of a name's messages on its Kafka topic. -/
structure Subscription.Carries (routes : RosName → String → Prop) (subscription : Subscription)
    (name : RosName) : Prop where
  travelName : travelName subscription.config = name.absolute
  route : routes name subscription.config.msgType
  format : subscription.runtime.payloadFormat = .cdr
  kafkaTopic : subscription.runtime.kafkaTopic = kafkaTopic name
  msgType : subscription.runtime.msgType = subscription.config.msgType

theorem record?_of_cdr {reception : Reception}
    (h : reception.subscription.runtime.payloadFormat = .cdr) :
    reception.record? json = some reception.record := by
  simp [Reception.record?, KafkaSink.onMessage, KafkaSink.SubscriptionRuntime.value, h,
    Reception.record]

/-- The subscriptions of settings that keep names. -/
theorem subscriptions_carry (h : KeepsNames kafka) {configs : List KafkaSink.SubscriptionConfig}
    (hconfigs : ∀ config ∈ configs,
      ∃ name : RosName, travelName config = name.absolute ∧ routes name config.msgType)
    {outside : Activation} :
    ∀ subscription ∈ subscriptions kafka configs outside,
      ∃ name, subscription.Carries routes name := by
  intro subscription hsubscription
  obtain ⟨n, hn, rfl⟩ := List.mem_mapIdx.mp hsubscription
  obtain ⟨name, hname, hroute⟩ := hconfigs _ (List.getElem_mem hn)
  refine ⟨name, hname, hroute, ?_, ?_, ?_⟩
  · simp [KafkaSink.plannedSubscription, KafkaSink.newRuntime,
      KafkaSink.SubscriptionRuntime.settle, h.format]
  · have htopic : KafkaSink.mapKafkaTopic kafka name.absolute = _ :=
      mapKafkaTopic_absolute h.mode h.topicPrefix
    rw [← hname] at htopic
    simp only [KafkaSink.plannedSubscription, KafkaSink.newRuntime,
      KafkaSink.SubscriptionRuntime.settle, h.format]
    exact htopic
  · simp [KafkaSink.plannedSubscription, KafkaSink.newRuntime,
      KafkaSink.SubscriptionRuntime.settle, h.format]

/-- The type a consumer reads off the message of a record. -/
theorem rosType_record (reception : Reception) :
    (ConsumedRecord.ofMessage reception.record.message).rosType =
      reception.subscription.runtime.msgType := by
  simp [ConsumedRecord.rosType, ConsumedRecord.ofMessage, QueuedRecord.message, Reception.record]

/-- What the source makes of a message, when it publishes it. -/
def publication (members : Members) (message : Message) : Publication :=
  ⟨message, ⟨members.rosTopic message.topic, (ConsumedRecord.ofMessage message).rosType⟩,
    message.payload⟩

/-- Processing a record keeps the cached publishers keyed. -/
theorem keyed_processMessage {middleware : Middleware} {nowNs : Int64} {record : ConsumedRecord}
    {caches : Caches} {rosTopic : String} (hcaches : caches.Keyed rosTopic type)
    (hserves : middleware.Serves rosTopic type) :
    (processMessage members middleware nowNs record caches).2.Keyed rosTopic type := by
  have hpublishes : Publishes members middleware record caches
      (processMessage members middleware nowNs record caches) := processMessage_publishes
  rcases hpublishes.publishers with hsame | hadds
  · intro entry hentry
    rw [hsame] at hentry
    exact hcaches entry hentry
  · exact hcaches.adds hserves hadds

/-- A record of a reception on a route is published. -/
theorem processMessage_record {middleware : Middleware} {nowNs : Int64} {caches : Caches}
    {reception : Reception} (htokens : AddsPrefix members tokens)
    (hcarries : reception.subscription.Carries routes name) (hmsg : reception.msg ≠ [])
    (hserves : middleware.Serves (target tokens name) reception.subscription.config.msgType)
    (hcaches : caches.Keyed (target tokens name) reception.subscription.config.msgType) :
    (processMessage members middleware nowNs (.ofMessage reception.record.message) caches).1 =
      .published (publication members reception.record.message).publisher reception.msg := by
  have htopic : members.rosTopic reception.record.message.topic = target tokens name := by
    rw [← htokens.rosTopic name, ← hcarries.kafkaTopic]
    rfl
  have htype := (rosType_record reception).trans hcarries.msgType
  have hpublisher := hcaches.publisherFor hserves (bar_notMem_target htokens.valid name)
  refine (processMessage_publishes.published _ _).mpr ⟨rfl, ⟨hmsg, ?_, ?_⟩, ?_⟩
  · rw [htype]
    exact reception.subscription.config.msgType_ne
  · rw [htype]
    exact .inr hserves.typeSupport
  · rw [publication, htype]
    have hname : (ConsumedRecord.ofMessage reception.record.message).topicName =
        reception.record.message.topic := rfl
    rw [hname, htopic]
    exact hpublisher

/-! ### What holds between two steps -/

/-- What librdkafka has accepted of a producer, it has accepted in order, and counted. -/
structure Accounted (producer : KafkaProducer) : Prop where
  inOrder : producer.accepted.Sublist producer.sent
  sentOk : producer.sentOk = producer.accepted.length

/-- An activation at work. -/
structure Session.Coherent (routes : RosName → String → Prop) (session : Session) : Prop where
  serves : session.machine.Serves session.config
  dropWhenFull : session.config.dropWhenFull = true
  carries : ∀ subscription ∈ session.subscriptions, ∃ name, subscription.Carries routes name

/-- A message on a route, with bytes. -/
def Reception.OnRoute (routes : RosName → String → Prop) (reception : Reception) : Prop :=
  reception.msg ≠ [] ∧ ∃ name, reception.subscription.Carries routes name

/-- What the runs keep: every record is from a reception, the broker has what librdkafka
accepted, and the source has published what it was given. -/
structure System.Coherent (members : Members) (tokens : List (List Char))
    (routes : RosName → String → Prop) (s : System) : Prop where
  alive : s.terminated = false
  session : ∀ session ∈ s.session, session.Coherent routes
  producers : ∀ producer ∈ s.producers, Accounted producer
  received : ∀ reception ∈ s.received, reception.OnRoute routes
  sent : s.sent = s.received.map fun reception => reception.record.message
  delivers : s.broker.Delivers partition s.accepted
  keyed : ∀ name type, routes name type → s.caches.Keyed (target tokens name) type
  published : s.published = s.broker.taken.map (publication members)

theorem Session.Coherent.accounted (h : session.Coherent routes) :
    Accounted session.machine.producer :=
  ⟨h.serves.inSentOrder.accepted, h.serves.sentOk_eq⟩

namespace System

theorem accepted_eq (h : s.session = some session) :
    s.accepted = (s.producers.flatMap fun producer =>
      producer.accepted.map fun sent => sent.record.message) ++
        session.machine.producer.accepted.map fun sent => sent.record.message := by
  simp [accepted, allProducers, h]

theorem sent_eq (h : s.session = some session) :
    s.sent = (s.producers.flatMap fun producer =>
      producer.sent.map fun sent => sent.record.message) ++
        session.machine.producer.sent.map fun sent => sent.record.message := by
  simp [sent, allProducers, h]

namespace Coherent

theorem accounted (h : s.Coherent members tokens routes) :
    ∀ producer ∈ s.allProducers, Accounted producer := by
  intro producer hproducer
  rcases List.mem_append.mp hproducer with hproducer | hproducer
  · exact h.producers producer hproducer
  · obtain ⟨session, hsession, rfl⟩ := List.mem_map.mp hproducer
    exact (h.session session (Option.mem_toList.mp hsession)).accounted

/-- The records of all activations reach librdkafka in order. -/
theorem accepted_sublist (h : s.Coherent members tokens routes) : s.accepted.Sublist s.sent := by
  have haccounted := h.accounted
  unfold System.accepted System.sent
  generalize s.allProducers = producers at haccounted
  induction producers with
  | nil => exact .slnil
  | cons producer rest ih =>
    rw [List.forall_mem_cons] at haccounted
    exact (haccounted.1.inOrder.map _).append (ih haccounted.2)

theorem sentOk_eq (h : s.Coherent members tokens routes) : s.sentOk = s.accepted.length := by
  have haccounted := h.accounted
  unfold System.accepted System.sentOk
  generalize s.allProducers = producers at haccounted
  induction producers with
  | nil => rfl
  | cons producer rest ih =>
    rw [List.forall_mem_cons] at haccounted
    simp [haccounted.1.sentOk, ih haccounted.2]

/-- The record behind a message at the broker. -/
theorem exists_reception (h : s.Coherent members tokens routes)
    (hmessage : message ∈ s.broker.taken ∨ message ∈ s.broker.waiting) :
    ∃ reception ∈ s.received, reception.record.message = message := by
  have hsent : message ∈ s.sent := h.accepted_sublist.subset (h.delivers.mem_of_mem hmessage)
  rw [h.sent] at hsent
  exact List.mem_map.mp hsent

/-- The producer took a step, or was sent the records of more receptions. -/
theorem advance {more : List Reception} (h : s.Coherent members tokens routes)
    (hsession : s.session = some session) (hserves : machine.Serves session.config)
    (haccepted : session.machine.producer.accepted <+: machine.producer.accepted)
    (hsent : (machine.producer.sent.map fun sent => sent.record.message) =
      (session.machine.producer.sent.map fun sent => sent.record.message) ++
        more.map fun reception => reception.record.message)
    (hmore : ∀ reception ∈ more, reception.OnRoute routes) :
    ({ s with received := s.received ++ more }.advance session machine).Coherent members tokens
      routes := by
  have hcoherent := h.session session hsession
  have hsession' : ({ s with received := s.received ++ more }.advance session machine).session =
      some { session with machine } := rfl
  refine ⟨h.alive, ?_, h.producers, ?_, ?_, ?_, h.keyed, h.published⟩
  · intro session' hsession'
    obtain rfl := Option.some.inj hsession'
    exact ⟨hserves, hcoherent.dropWhenFull, hcoherent.carries⟩
  · exact List.forall_mem_append.mpr ⟨h.received, hmore⟩
  · rw [sent_eq hsession']
    dsimp only [System.advance]
    rw [hsent, ← List.append_assoc, List.map_append, ← h.sent, sent_eq hsession]
  · have hnew := List.prefix_iff_eq_append.mp haccepted
    rw [accepted_eq hsession']
    dsimp only [System.advance]
    rw [← hnew, List.map_append, ← List.append_assoc, ← accepted_eq hsession]
    have hdelivers := h.delivers.append ((machine.producer.accepted.drop
      session.machine.producer.accepted.length).map fun sent => sent.record.message)
    simpa using hdelivers

/-- The source was given a record. -/
theorem process {middleware : Middleware} {nowNs : Int64} {n : Nat}
    {broker : PartitionedLog Message} (h : s.Coherent members tokens routes)
    (htokens : AddsPrefix members tokens)
    (hserves : ∀ name type, routes name type → middleware.Serves (target tokens name) type)
    (htake : s.broker.take partition n = some (message, broker)) :
    (s.process members middleware nowNs message broker).Coherent members tokens routes := by
  have hdelivers := h.delivers.take htake
  obtain ⟨before, after, hwaiting, -, rfl⟩ := PartitionedLog.take_spec htake
  have hmem : message ∈ s.broker.waiting := by
    rw [hwaiting]
    exact List.mem_append_right _ List.mem_cons_self
  obtain ⟨reception, hreception, rfl⟩ := h.exists_reception (.inr hmem)
  obtain ⟨hmsg, name, hcarries⟩ := h.received reception hreception
  have hresult : (processMessage members middleware nowNs
      (.ofMessage reception.record.message) s.caches).1 = .published
        (publication members reception.record.message).publisher reception.msg :=
    processMessage_record htokens hcarries hmsg (hserves _ _ hcarries.route)
      (h.keyed _ _ hcarries.route)
  have hkeyed : ∀ name type, routes name type → (processMessage members middleware nowNs
      (.ofMessage reception.record.message) s.caches).2.Keyed (target tokens name) type :=
    fun name type hroute => keyed_processMessage (h.keyed name type hroute)
      (hserves name type hroute)
  unfold System.process
  split
  next caches hprocess =>
    rw [hprocess] at hresult
    cases hresult
  next publisher bytes caches hprocess =>
    simp only [hprocess] at hkeyed hresult
    injection hresult with hpublisher hbytes
    refine ⟨h.alive, h.session, h.producers, h.received, h.sent, hdelivers, hkeyed, ?_⟩
    dsimp only
    rw [List.map_append, ← h.published, hpublisher, hbytes]
    rfl
  next caches hprocess =>
    rw [hprocess] at hresult
    cases hresult

/-- The sink is activated. -/
theorem activate {configs : List KafkaSink.SubscriptionConfig} {outside : Activation}
    {rdkafka : RdKafka} (h : s.Coherent members tokens routes) (hsession : s.session = none)
    (hstarted : Machine.started (producerConfig kafka) rdkafka = some machine)
    (hkafka : KeepsNames kafka) (hconfigs : ∀ config ∈ configs,
      ∃ name : RosName, travelName config = name.absolute ∧ routes name config.msgType) :
    System.Coherent members tokens routes { s with
      session := some ⟨producerConfig kafka, machine, subscriptions kafka configs outside⟩ } := by
  have hsent : machine.producer.sent = [] := Machine.started_sent hstarted
  have hserves : machine.Serves (producerConfig kafka) := .start hstarted
  have haccepted : machine.producer.accepted = [] := by
    have hsublist := hserves.inSentOrder.accepted
    rw [hsent] at hsublist
    exact List.sublist_nil.mp hsublist
  refine ⟨h.alive, ?_, h.producers, h.received, ?_, ?_, h.keyed, h.published⟩
  · intro session hnew
    obtain rfl := Option.some.inj hnew
    exact ⟨hserves, hkafka.dropWhenFull, subscriptions_carry hkafka hconfigs⟩
  · rw [← h.sent]
    simp [System.sent, System.allProducers, hsession, hsent]
  · have hsame : s.accepted = s.producers.flatMap fun producer =>
        producer.accepted.map fun sent => sent.record.message := by
      simp [System.accepted, System.allProducers, hsession]
    have hdelivers := h.delivers
    rw [hsame] at hdelivers
    simpa [System.accepted, System.allProducers, haccepted] using hdelivers

/-- The sink is deactivated. What waits for a producer then is gone, but it was not accepted. -/
theorem deactivate (h : s.Coherent members tokens routes) (hsession : s.session = some session) :
    System.Coherent members tokens routes { s with
      producers := s.producers ++ [(session.machine.stop session.config).producer]
      session := none } := by
  have hcoherent := h.session session hsession
  have haccounted := hcoherent.accounted
  have hsent := h.sent
  have hdelivers := h.delivers
  rw [sent_eq hsession] at hsent
  rw [accepted_eq hsession] at hdelivers
  rw [hcoherent.serves.stop_eq]
  refine ⟨h.alive, ?_, ?_, h.received, ?_, ?_, h.keyed, h.published⟩
  · simp
  · refine List.forall_mem_append.mpr ⟨h.producers, ?_⟩
    intro producer hproducer
    obtain rfl := List.mem_singleton.mp hproducer
    exact ⟨haccounted.inOrder, haccounted.sentOk⟩
  · rw [← hsent]
    simp [System.sent, System.allProducers, stopLocked, Deliveries.sent]
  · simpa [System.accepted, System.allProducers, stopLocked, Deliveries.accepted] using hdelivers

theorem step {event : Event} (htokens : AddsPrefix members tokens)
    (h : s.Coherent members tokens routes) (hevent : event.OnRoutes tokens routes)
    (hstep : s.step json members event = some s') : s'.Coherent members tokens routes := by
  cases event with
  | activate kafka configs outside rdkafka =>
    obtain ⟨hkafka, hconfigs⟩ := hevent
    cases hsession : s.session with
    | some session => simp [System.step, hsession] at hstep
    | none =>
      cases hstarted : Machine.started (producerConfig kafka) rdkafka with
      | some machine =>
        simp only [System.step, hsession, hstarted, Option.some.injEq] at hstep
        subst hstep
        exact h.activate hsession hstarted hkafka hconfigs
      | none =>
        simp only [System.step, hsession, hstarted, Option.some.injEq] at hstep
        exact hstep ▸ h
  | deactivate =>
    obtain ⟨session, hsession, rfl⟩ := Option.map_eq_some_iff.mp hstep
    exact h.deactivate hsession
  | receive n msg nowNs rdkafka =>
    have hmsg : msg ≠ [] := hevent
    simp only [System.step, Option.bind_eq_bind, Option.bind_eq_some_iff] at hstep
    obtain ⟨session, hsession, subscription, hsubscription, hstep⟩ := hstep
    have hcoherent := h.session session hsession
    have hserves := hcoherent.serves
    obtain ⟨name, hcarries⟩ := hcoherent.carries _ (List.mem_of_getElem? hsubscription)
    have hrecord : Reception.record? json ⟨subscription, msg, nowNs⟩ =
        some (Reception.record ⟨subscription, msg, nowNs⟩) := record?_of_cdr hcarries.format
    have hsent : (session.machine.send session.config rdkafka
        (Reception.record ⟨subscription, msg, nowNs⟩)).producer.sent =
          session.machine.producer.sent ++ [⟨session.machine.producer.returned.length,
            Reception.record ⟨subscription, msg, nowNs⟩⟩] := send_sent hserves.running
    simp only [hrecord, Option.some.injEq] at hstep
    subst hstep
    refine h.advance hsession (hserves.send hcoherent.dropWhenFull)
      (accepted_mono send_produced) ?_ ?_
    · rw [hsent, List.map_append]
      rfl
    · intro reception hreception
      obtain rfl := List.mem_singleton.mp hreception
      exact ⟨hmsg, name, hcarries⟩
  | poll pollStep =>
    obtain ⟨session, hsession, rfl⟩ := Option.map_eq_some_iff.mp hstep
    have hcoherent := h.session session hsession
    have hsent : (session.machine.poll session.config pollStep).producer.sent =
        session.machine.producer.sent := congrArg (List.map Prod.fst) Machine.poll_returned
    have hnone : ∀ reception ∈ ([] : List Reception), reception.OnRoute routes := nofun
    have hadvanced := h.advance hsession (hcoherent.serves.poll hcoherent.dropWhenFull)
      Machine.poll_accepted (by rw [hsent, List.map_nil, List.append_nil]) hnone
    rwa [List.append_nil] at hadvanced
  | consume consumed middleware nowNs =>
    have hserves : ∀ name type, routes name type →
      middleware.Serves (target tokens name) type := hevent
    simp only [System.step, h.alive, Bool.false_eq_true, if_false] at hstep
    cases consumed with
    | record n =>
      obtain ⟨taken, htake, rfl⟩ := Option.map_eq_some_iff.mp hstep
      exact h.process htokens hserves htake
    | null => exact Option.some.inj hstep ▸ h
    | timedOut => exact Option.some.inj hstep ▸ h
    | partitionEof => exact Option.some.inj hstep ▸ h
    | error => exact Option.some.inj hstep ▸ h
  | lose n =>
    obtain rfl := Option.some.inj hstep
    refine ⟨h.alive, h.session, h.producers, h.received, h.sent, h.delivers.lose n, h.keyed, ?_⟩
    dsimp only
    rw [h.published, s.broker.lose_taken]

end Coherent

end System

/-! ### Channels -/

/-- The message of a record that carries a name's messages of a type, with a key. -/
def onChannel (name : RosName) (type : String) (key : List UInt8) (message : Message) : Bool :=
  message.topic = kafkaTopic name && (ConsumedRecord.ofMessage message).rosType = type &&
    message.key = some key

/-- A channel is part of a partition. -/
theorem filter_onChannel {messages : List Message} :
    messages.filter (onChannel name type key) =
      (PartitionedLog.on partition (kafkaTopic name, key) messages).filter
        fun message => (ConsumedRecord.ofMessage message).rosType = type := by
  rw [PartitionedLog.on, List.filter_filter]
  refine List.filter_congr fun message _ => ?_
  cases hkey : message.key with
  | none => simp [onChannel, partition, hkey]
  | some key' => grind [onChannel, partition]

/-- A reception's record is on the channel of its name, its type and its key. -/
theorem onChannel_record {reception : Reception} (hkey : key ≠ [])
    (hcarries : reception.subscription.Carries routes name') :
    onChannel name type key reception.record.message = true ↔
      travelName reception.subscription.config = name.absolute ∧
        reception.subscription.config.msgType = type ∧
        reception.subscription.runtime.messageKeyBytes = key := by
  have htopic : reception.record.message.topic = kafkaTopic name' := hcarries.kafkaTopic
  have htype := (rosType_record reception).trans hcarries.msgType
  have hkeyed : reception.record.message.key = some key ↔
      reception.subscription.runtime.messageKeyBytes = key := by
    simp only [QueuedRecord.message, Reception.record, List.isEmpty_iff]
    by_cases hnil : reception.subscription.runtime.messageKeyBytes = []
    · simp [hnil, hkey.symm]
    · simp [hnil]
  rw [onChannel, Bool.and_eq_true, Bool.and_eq_true, decide_eq_true_eq, decide_eq_true_eq,
    decide_eq_true_eq, htopic, htype, hkeyed, kafkaTopic_inj, hcarries.travelName, and_assoc,
    eq_comm (a := name'.absolute)]

namespace System.Coherent

/-- What a channel's subscriptions received, in terms of the records. -/
theorem receivedOn_eq (h : s.Coherent members tokens routes) (hkey : key ≠ []) :
    s.receivedOn name type key =
      (s.sent.filter (onChannel name type key)).map Message.payload := by
  rw [h.sent, List.filter_map, List.map_map, System.receivedOn]
  have hsame : ∀ reception ∈ s.received,
      decide (travelName reception.subscription.config = name.absolute ∧
        reception.subscription.config.msgType = type ∧
        reception.subscription.runtime.messageKeyBytes = key) =
      onChannel name type key reception.record.message := by
    intro reception hreception
    obtain ⟨-, name', hcarries⟩ := h.received reception hreception
    rw [Bool.eq_iff_iff, decide_eq_true_eq, onChannel_record hkey hcarries]
  rw [List.filter_congr hsame]
  rfl

/-- What was published of a channel, in terms of the records. -/
theorem publishedOn_eq (h : s.Coherent members tokens routes)
    (htokens : AddsPrefix members tokens) :
    s.publishedOn tokens name type key =
      (s.broker.taken.filter (onChannel name type key)).map Message.payload := by
  rw [System.publishedOn, h.published, List.filter_map, List.map_map]
  have hsame : ∀ message ∈ s.broker.taken,
      decide ((publication members message).publisher = ⟨target tokens name, type⟩ ∧
        message.key = some key) = onChannel name type key message := by
    intro message hmessage
    obtain ⟨reception, hreception, rfl⟩ := h.exists_reception (.inl hmessage)
    obtain ⟨-, name', hcarries⟩ := h.received reception hreception
    have htopic : reception.record.message.topic = kafkaTopic name' := hcarries.kafkaTopic
    rw [Bool.eq_iff_iff, decide_eq_true_eq, onChannel, publication, htopic, htokens.rosTopic]
    simp only [Publisher.mk.injEq, target_inj, kafkaTopic_inj, Bool.and_eq_true,
      decide_eq_true_eq]
  have hfilter : s.broker.taken.filter ((fun publication => decide (publication.publisher =
      ⟨target tokens name, type⟩ ∧ publication.message.key = some key)) ∘ publication members) =
      s.broker.taken.filter (onChannel name type key) := List.filter_congr hsame
  rw [hfilter]
  rfl

end System.Coherent

/-! ### Over the runs -/

/-- A publication is what a reception should come out as: under its own name behind the prefix,
with its type and its bytes. -/
def Republishes (tokens : List (List Char)) (reception : Reception) (publication : Publication) :
    Prop :=
  ∃ name : RosName, travelName reception.subscription.config = name.absolute ∧
    publication.publisher = ⟨target tokens name, reception.subscription.config.msgType⟩ ∧
    publication.bytes = reception.msg

/-- What the relay promises. -/
structure System.Relayed (tokens : List (List Char)) (s : System) : Prop where
  /-- No exception leaves the consumer thread. -/
  alive : s.terminated = false
  /-- No message is published twice, or altered, or made up. -/
  once : ∃ origins : List Reception, origins.Subperm s.received ∧
    List.Forall₂ (Republishes tokens) origins s.published
  /-- The messages of one name, type and key are published in the order they came. -/
  inOrder : ∀ name type key, key ≠ [] →
    (s.publishedOn tokens name type key).Sublist (s.receivedOn name type key)
  /-- If the producers count every message as sent, and the broker has handed them all over, then
  all of them were published. -/
  complete : s.sentOk = s.received.length → s.broker.waiting = [] → s.broker.lost = [] →
    s.published.length = s.received.length ∧ ∀ name type key, key ≠ [] →
      s.publishedOn tokens name type key = s.receivedOn name type key

namespace System.Coherent

/-- Each publication is of another reception. -/
theorem once (h : s.Coherent members tokens routes) (htokens : AddsPrefix members tokens) :
    ∃ origins : List Reception, origins.Subperm s.received ∧
      List.Forall₂ (Republishes tokens) origins s.published := by
  have htaken : s.broker.taken.Subperm s.accepted := by
    refine List.Subperm.trans (List.Sublist.subperm ?_) h.delivers.perm.subperm
    rw [List.append_assoc]
    exact List.sublist_append_left _ _
  have hsent := htaken.trans h.accepted_sublist.subperm
  rw [h.sent] at hsent
  obtain ⟨messages, hperm, hsublist⟩ := hsent
  obtain ⟨receptions, hreceptions, rfl⟩ := List.sublist_map_iff.mp hsublist
  -- the taken messages are those of some of the receptions, in another order
  have hmatch : List.Forall₂ (fun message (reception : Reception) =>
      message = reception.record.message)
      (receptions.map fun reception => reception.record.message) receptions := by
    rw [List.forall₂_map_left_iff]
    exact List.forall₂_same.mpr fun _ _ => rfl
  obtain ⟨origins, horigins, horiginsPerm⟩ := List.perm_comp_forall₂ hperm.symm hmatch
  have htakenEq : s.broker.taken = origins.map fun reception => reception.record.message := by
    rw [← List.forall₂_eq_eq_eq, List.forall₂_map_right_iff]
    exact horigins
  refine ⟨origins, ⟨receptions, horiginsPerm.symm, hreceptions⟩, ?_⟩
  rw [h.published, htakenEq, List.map_map, List.forall₂_map_right_iff]
  refine List.forall₂_same.mpr fun reception hreception => ?_
  obtain ⟨-, name, hcarries⟩ :=
    h.received reception (hreceptions.subset (horiginsPerm.subset hreception))
  have htopic : reception.record.message.topic = kafkaTopic name := hcarries.kafkaTopic
  refine ⟨name, hcarries.travelName, ?_, rfl⟩
  rw [Function.comp_apply, publication, htopic, htokens.rosTopic, rosType_record, hcarries.msgType]

/-- If everything was accepted and handed over, nothing is missing. -/
theorem complete (h : s.Coherent members tokens routes) (htokens : AddsPrefix members tokens)
    (hsentOk : s.sentOk = s.received.length) (hwaiting : s.broker.waiting = [])
    (hlost : s.broker.lost = []) : s.published.length = s.received.length ∧
      ∀ name type key, key ≠ [] →
        s.publishedOn tokens name type key = s.receivedOn name type key := by
  have hlength : s.accepted.length = s.sent.length := by
    rw [← h.sentOk_eq, hsentOk, h.sent, List.length_map]
  have haccepted : s.accepted = s.sent := h.accepted_sublist.eq_of_length hlength
  constructor
  · have hperm := h.delivers.perm.length_eq
    rw [hwaiting, hlost, List.append_nil, List.append_nil, haccepted, h.sent,
      List.length_map] at hperm
    rw [h.published, List.length_map, hperm]
  · intro name type key hkey
    have hall := h.delivers.complete hlost (kafkaTopic name, key)
    have hnone : PartitionedLog.on partition (kafkaTopic name, key) ([] : List Message) = [] := rfl
    rw [hwaiting, hnone, List.append_nil] at hall
    rw [h.receivedOn_eq hkey, h.publishedOn_eq htokens, filter_onChannel, filter_onChannel, hall,
      haccepted]

theorem relayed (h : s.Coherent members tokens routes) (htokens : AddsPrefix members tokens) :
    s.Relayed tokens := by
  refine ⟨h.alive, h.once htokens, fun name type key hkey => ?_, h.complete htokens⟩
  rw [h.receivedOn_eq hkey, h.publishedOn_eq htokens]
  refine List.Sublist.map _ ?_
  have htaken := h.delivers.taken_sublist (kafkaTopic name, key)
  have haccepted := h.accepted_sublist.filter (onChannel name type key)
  rw [filter_onChannel]
  refine List.Sublist.trans (htaken.filter _) ?_
  rwa [← filter_onChannel]

/-- Before anything has happened. -/
protected theorem empty : System.Coherent members tokens routes {} where
  alive := rfl
  session := by simp
  producers := by simp
  received := by simp
  sent := rfl
  delivers := .empty
  keyed _ _ _ := fun entry hentry => absurd hentry List.not_mem_nil
  published := rfl

end System.Coherent

/-- **The CDR relay is faithful**, over every run: any activations of the sink, each with settings
that keep names and with entries of the `routes`, any messages and schedules of the poll threads,
any answers of librdkafka, any order and any losses between the partitions of the broker. What
`kafka_source` publishes are messages that `kafka_sink` received, unaltered, each at most once,
under their names behind the prefix, and in order for each name, type and key. -/
theorem cdr_relay_faithful (htokens : AddsPrefix members tokens)
    (hrun : Runs (System.step json members) (fun _ event => event.OnRoutes tokens routes) {} s) :
    s.Relayed tokens := by
  have hcoherent : s.Coherent members tokens routes :=
    Runs.invariant (fun _ _ _ h hevent hstep => h.step htokens hevent hstep) hrun .empty
  exact hcoherent.relayed htokens

/-- The one route of the run below. -/
def nestedRoute (name : RosName) (type : String) : Prop :=
  name = .nested ∧ type = "T"

/-- An activation, two messages that wait for a producer until the poll thread creates one, and
a source that takes the two records in turn. -/
def nestedEvents : List Event :=
  let configs : List KafkaSink.SubscriptionConfig := [{ topicName := "/ros2/a_1", msgType := "T" }]
  [.activate { topicPrefix := "ros2." } configs {} { create := some "down" },
    .receive 0 [0, 1] 7000000 {}, .receive 0 [0, 2] 8000000 {}, .poll (.enter {}),
    .consume .timedOut .permissive 0, .consume (.record 0) .permissive 0,
    .consume (.record 0) .permissive 0]

theorem nestedEvents_onRoutes :
    ∀ event ∈ nestedEvents, event.OnRoutes [['k', 'a', 'f', 'k', 'a']] nestedRoute := by
  intro event hevent
  have hserves : ∀ name type, nestedRoute name type → Middleware.permissive.Serves
      (target [['k', 'a', 'f', 'k', 'a']] name) type := by
    rintro name type ⟨rfl, rfl⟩
    exact ⟨rfl, by decide, fun _ _ h => if_pos h⟩
  simp only [nestedEvents, List.mem_cons, List.not_mem_nil, or_false] at hevent
  rcases hevent with rfl | rfl | rfl | rfl | rfl | rfl | rfl
  · refine ⟨⟨rfl, .inr rfl, rfl, rfl⟩, fun config hconfig => ?_⟩
    obtain rfl := List.mem_singleton.mp hconfig
    exact ⟨.nested, by decide, rfl, rfl⟩
  · exact List.cons_ne_nil _ _
  · exact List.cons_ne_nil _ _
  · trivial
  · exact hserves
  · exact hserves
  · exact hserves

theorem cdr_relay_faithful_nested :
    ∃ s, nestedEvents.foldlM (System.step ⟨fun _ _ => none, fun _ _ => none⟩
        { rosTopicPrefix := "kafka/" }) {} = some s ∧
      s.published.map Publication.publisher =
        [⟨"/kafka/ros2/a_1", "T"⟩, ⟨"/kafka/ros2/a_1", "T"⟩] ∧
      s.published.map Publication.bytes = [[0, 1], [0, 2]] ∧
      s.Relayed [['k', 'a', 'f', 'k', 'a']] := by
  obtain ⟨s, hs, hpublished⟩ := Option.map_eq_some_iff.mp (show
    (nestedEvents.foldlM (System.step ⟨fun _ _ => none, fun _ _ => none⟩
      { rosTopicPrefix := "kafka/" }) {}).map (fun s =>
        (s.published.map Publication.publisher, s.published.map Publication.bytes)) =
      some ([⟨"/kafka/ros2/a_1", "T"⟩, ⟨"/kafka/ros2/a_1", "T"⟩], [[0, 1], [0, 2]]) by
    decide +kernel)
  rw [Prod.mk.injEq] at hpublished
  have htokens : AddsPrefix { rosTopicPrefix := "kafka/" } [['k', 'a', 'f', 'k', 'a']] :=
    ⟨rfl, validTokens_of_all rfl, ['/'], .inr rfl, .inr (by decide)⟩
  have hrun : Runs (System.step ⟨fun _ _ => none, fun _ _ => none⟩
      { rosTopicPrefix := "kafka/" }) (fun _ event => event.OnRoutes [['k', 'a', 'f', 'k', 'a']]
        nestedRoute) {} s := by
    refine .of_foldlM hs fun event hevent _ => ?_
    exact nestedEvents_onRoutes event hevent
  refine ⟨s, hs, hpublished.1, hpublished.2, cdr_relay_faithful htokens hrun⟩

end Ros2Dispatcher.Relay
