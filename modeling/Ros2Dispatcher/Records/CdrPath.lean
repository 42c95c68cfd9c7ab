import Ros2Dispatcher.Consumers.TopicNames
import Ros2Dispatcher.Library.Entries
import Ros2Dispatcher.Library.Runs
import Ros2Dispatcher.Sinks.KafkaSink

/-!
# From `kafka_sink` to `kafka_source`

A message that `kafka_sink` sends in the format `cdr` comes out of `kafka_source` as it went
in. The topic is encoded by `map_kafka_topic` and decoded by `derive_ros_topic`, both on the
tokens of the name: `mapKafkaTopic_absolute` and `deriveRosTopic_encoded` compute them, and
`deriveRosTopic_mapKafkaTopic` composes them. The type travels in the header `ros_type`, and
the bytes are not touched.

What could still go wrong is a publisher found in the cache under a key that another topic
and type share. `Caches.Keyed` excludes it: creating a publisher throws on a name with a `|`.
-/

namespace Ros2Dispatcher

open Consumers KafkaSource Sinks Tokens

/-! ### Names -/

/-- The letters of a token. -/
def isNameChar (c : Char) : Bool :=
  c.isAlphanum || c = '_'

/-- The tokens of a name, each of them nonempty. -/
def ValidTokens (tokens : List (List Char)) : Prop :=
  ∀ token ∈ tokens, token ≠ [] ∧ ∀ c ∈ token, isNameChar c = true

/-- Validity as a computation. -/
theorem validTokens_of_all {tokens : List (List Char)}
    (h : (tokens.all fun token => !token.isEmpty && token.all isNameChar) = true) :
    ValidTokens tokens := by
  intro token htoken
  have htoken' := List.all_eq_true.mp h token htoken
  simpa using htoken'

/-- A valid ROS name, by its tokens. -/
structure RosName where
  tokens : List (List Char)
  tokens_ne : tokens ≠ []
  valid : ValidTokens tokens

/-- The absolute form of the name. -/
def RosName.absolute (name : RosName) : String :=
  String.ofList (path '/' name.tokens)

/-- A way to write a prefix: with or without its leading slash and a trailing one. Without
tokens the prefix is empty. -/
def WritesPrefix (tokens : List (List Char)) (text : String) : Prop :=
  ∃ trailing, (trailing = [] ∨ trailing = ['/']) ∧
    (text.toList = path '/' tokens ++ trailing ∨ text.toList = (path '/' tokens).tail ++ trailing)

namespace ValidTokens

variable {tokens more : List (List Char)}

theorem notMem {c : Char} (h : ValidTokens tokens) (hc : isNameChar c = false) :
    ∀ token ∈ tokens, c ∉ token := by
  intro token htoken hmem
  have hname := (h token htoken).2 c hmem
  rw [hc] at hname
  cases hname

protected theorem proper (h : ValidTokens tokens) : Proper '/' tokens :=
  fun token htoken => ⟨(h token htoken).1, h.notMem (by decide) token htoken⟩

protected theorem append (h : ValidTokens tokens) (h' : ValidTokens more) :
    ValidTokens (tokens ++ more) :=
  List.forall_mem_append.mpr ⟨h, h'⟩

/-- No dot stands in a path of valid tokens. -/
theorem dot_notMem (h : ValidTokens tokens) : '.' ∉ path '/' tokens :=
  notMem_path (by decide) (h.notMem (by decide))

end ValidTokens

/-! ### Topics -/

section Topics

variable {kafka : KafkaSink.KafkaParameters} {name name' : RosName}
variable {tokens : List (List Char)} {text : String}

/-- The mapping puts `ros2.` before the tokens of the name, joined by dots. -/
theorem mapKafkaTopic_absolute (hmode : kafka.topicMappingMode = .prefixRosTopic)
    (hpre : kafka.topicPrefix = "ros2" ∨ kafka.topicPrefix = "ros2.") :
    KafkaSink.mapKafkaTopic kafka name.absolute =
      String.ofList ("ros2.".toList ++ substitute '/' '.' (path '/' name.tokens).tail) := by
  have hne : substitute '/' '.' (path '/' name.tokens).tail ≠ [] := fun h =>
    (name.valid.proper.head?_tail_path_ne name.tokens_ne).1 (substitute_eq_nil.mp h)
  unfold KafkaSink.mapKafkaTopic
  rw [if_neg (by simp [hmode]), RosName.absolute, String.toList_ofList,
    dropLeading_path name.tokens_ne]
  rcases hpre with hpre | hpre
  · rw [hpre, if_neg (by decide), if_neg (not_or.mpr ⟨by decide, hne⟩)]
    rfl
  · rw [hpre, if_neg (by decide), if_pos (.inl (by decide))]

/-- A written prefix has the tokens it is written for. -/
theorem tokensOf_writesPrefix (hvalid : ValidTokens tokens) (htext : WritesPrefix tokens text) :
    tokensOf '/' text.toList = tokens := by
  obtain ⟨trailing, htrailing, htext⟩ := htext
  have hwritten : ∀ lead, tokensOf '/' lead = tokens →
      tokensOf '/' (lead ++ trailing) = tokens := by
    intro lead hlead
    rcases htrailing with rfl | rfl
    · rwa [List.append_nil]
    · rwa [tokensOf_concat_self]
  rcases htext with htext | htext
  · rw [htext]
    exact hwritten _ hvalid.proper.tokensOf_path
  · rw [htext]
    exact hwritten _ hvalid.proper.tokensOf_tail_path

/-- The derived topic of an encoded name is the prefix and the name. -/
theorem deriveRosTopic_encoded (hvalid : ValidTokens tokens) (htext : WritesPrefix tokens text) :
    deriveRosTopic text
        (String.ofList ("ros2.".toList ++ substitute '/' '.' (path '/' name.tokens).tail)) =
      String.ofList (path '/' (tokens ++ name.tokens)) := by
  have hdot : '.' ∉ (path '/' name.tokens).tail := fun h =>
    name.valid.dot_notMem (List.mem_of_mem_tail h)
  have hsuffix : topicSuffix (String.ofList
      ("ros2.".toList ++ substitute '/' '.' (path '/' name.tokens).tail)) =
      (path '/' name.tokens).tail := by
    rw [topicSuffix, String.toList_ofList (l := "ros2.".toList ++ _), dropStart_append,
      substitute_substitute hdot]
  have hne : (path '/' name.tokens).tail ≠ [] :=
    (name.valid.proper.head?_tail_path_ne name.tokens_ne).1
  have htokens : tokens ++ name.tokens ≠ [] := fun hnil =>
    name.tokens_ne (List.append_eq_nil_iff.mp hnil).2
  have hrest : topicSuffix (String.ofList
      ("ros2.".toList ++ substitute '/' '.' (path '/' name.tokens).tail)) ≠ [] := by
    rw [hsuffix]
    exact hne
  rw [deriveRosTopic_eq hrest, hsuffix, tokensOf_writesPrefix hvalid htext,
    name.valid.proper.tokensOf_tail_path, if_neg htokens]

/-- **`derive_ros_topic` undoes `map_kafka_topic`**, up to the prefix it adds. -/
theorem deriveRosTopic_mapKafkaTopic (hmode : kafka.topicMappingMode = .prefixRosTopic)
    (hpre : kafka.topicPrefix = "ros2" ∨ kafka.topicPrefix = "ros2.")
    (hvalid : ValidTokens tokens) (htext : WritesPrefix tokens text) :
    deriveRosTopic text (KafkaSink.mapKafkaTopic kafka name.absolute) =
      String.ofList (path '/' (tokens ++ name.tokens)) := by
  rw [mapKafkaTopic_absolute hmode hpre, deriveRosTopic_encoded hvalid htext]

/-- Different names have different Kafka topics. -/
theorem absolute_eq_of_mapKafkaTopic_eq (hmode : kafka.topicMappingMode = .prefixRosTopic)
    (hpre : kafka.topicPrefix = "ros2" ∨ kafka.topicPrefix = "ros2.")
    (h : KafkaSink.mapKafkaTopic kafka name.absolute =
      KafkaSink.mapKafkaTopic kafka name'.absolute) : name.absolute = name'.absolute := by
  have hempty : WritesPrefix [] "" := ⟨[], .inl rfl, .inl rfl⟩
  have hvalid : ValidTokens [] := by simp [ValidTokens]
  have hname : deriveRosTopic "" (KafkaSink.mapKafkaTopic kafka name.absolute) = name.absolute :=
    deriveRosTopic_mapKafkaTopic hmode hpre hvalid hempty
  rw [h, deriveRosTopic_mapKafkaTopic hmode hpre hvalid hempty] at hname
  exact hname.symm

end Topics

/-! ### Publishers -/

/-- What the path assumes of the middleware: the type support loads, the publisher can be
created, and none can be on a name with a `|`, which no ROS name has. -/
structure KafkaSource.Middleware.Serves (middleware : Middleware) (rosTopic rosType : String) :
    Prop where
  typeSupport : middleware.loadsTypeSupport rosType = true
  publisher : middleware.createGenericPublisher rosTopic rosType = .created
  bar : ∀ topic type, '|' ∈ topic.toList → middleware.createGenericPublisher topic type = .throws

/-- One call of `process_message`. -/
structure KafkaSource.Call where
  members : Members
  middleware : Middleware
  nowNs : Int64
  record : ConsumedRecord

/-- The caches after a call; an exception ends the consumer thread. -/
def KafkaSource.consume (caches : Caches) (call : Call) : Option Caches :=
  match processMessage call.members call.middleware call.nowNs call.record caches with
  | (.skipped, caches') => some caches'
  | (.published _ _, caches') => some caches'
  | (.threw, _) => none

/-- Every cached publisher stands under the key of the topic and type it was created for, and
a topic that is served has no null publisher. -/
def KafkaSource.Caches.Keyed (caches : Caches) (rosTopic rosType : String) : Prop :=
  ∀ entry ∈ caches.publishers, ∃ topic type, entry.1 = cacheKey topic type ∧
    '|' ∉ topic.toList ∧ (topic = rosTopic ∧ type = rosType → entry.2 = some ⟨rosTopic, rosType⟩)

section Publishers

variable {middleware : Middleware} {caches caches' : Caches} {rosTopic rosType : String}

/-- A topic without `|` and its type are read off their key. -/
theorem cacheKey_inj {topic topic' type type' : String} (h : '|' ∉ topic.toList)
    (h' : '|' ∉ topic'.toList) (heq : cacheKey topic type = cacheKey topic' type') :
    topic = topic' ∧ type = type' := by
  have hlists : topic.toList ++ '|' :: type.toList = topic'.toList ++ '|' :: type'.toList := by
    have := congrArg String.toList heq
    simpa [cacheKey, String.toList_append] using this
  obtain ⟨htopic, htype⟩ := append_cons_inj h h' hlists
  exact ⟨String.toList_inj.mp htopic, String.toList_inj.mp htype⟩

/-- In keyed caches the publisher for a served topic and type is their own. -/
theorem KafkaSource.Caches.Keyed.publisherFor (hcaches : caches.Keyed rosTopic rosType)
    (hserves : middleware.Serves rosTopic rosType) (hbar : '|' ∉ rosTopic.toList) :
    caches.publisherFor middleware rosTopic rosType = some ⟨rosTopic, rosType⟩ := by
  unfold Caches.publisherFor
  cases hlookup : caches.publishers.lookup (cacheKey rosTopic rosType) with
  | none => simp only [hserves.publisher]
  -- a hit may stem from another record, whose topic and type the key determines
  | some publisher =>
    obtain ⟨topic, type, hkey, htopic, hown⟩ :=
      hcaches (cacheKey rosTopic rosType, publisher) (Entries.mem_of_lookup hlookup)
    obtain ⟨rfl, rfl⟩ := cacheKey_inj hbar htopic hkey
    exact hown ⟨rfl, rfl⟩

/-- Creating a publisher keeps caches keyed. -/
theorem KafkaSource.Caches.Keyed.adds {topic type : String}
    (hcaches : caches.Keyed rosTopic rosType)
    (hserves : middleware.Serves rosTopic rosType)
    (hadds : caches.Adds caches' middleware topic type) : caches'.Keyed rosTopic rosType := by
  intro entry hentry
  rw [hadds.publishers] at hentry
  rcases List.mem_cons.mp hentry with rfl | hentry
  · refine ⟨topic, type, rfl, fun hmem => hadds.created (hserves.bar topic type hmem), ?_⟩
    rintro ⟨rfl, rfl⟩
    exact if_pos hserves.publisher
  · exact hcaches entry hentry

/-- A run of `process_message` calls keeps the caches keyed. -/
theorem keyed_of_runs
    (hrun : Runs consume (fun _ call => call.middleware.Serves rosTopic rosType) {} caches) :
    caches.Keyed rosTopic rosType := by
  refine Runs.invariant (I := fun caches => caches.Keyed rosTopic rosType) ?_ hrun
    fun entry hentry => absurd hentry List.not_mem_nil
  intro caches call caches' hcaches hserves hstep
  have hresult : caches' =
      (processMessage call.members call.middleware call.nowNs call.record caches).2 := by
    unfold consume at hstep
    split at hstep
    next hprocess => rw [hprocess, Option.some.inj hstep]
    next hprocess => rw [hprocess, Option.some.inj hstep]
    next => cases hstep
  rw [hresult]
  have hpublishes : Publishes call.members call.middleware call.record caches
      (processMessage call.members call.middleware call.nowNs call.record caches) :=
    processMessage_publishes
  rcases hpublishes.publishers with hsame | hadds
  · intro entry hentry
    rw [hsame] at hentry
    exact hcaches entry hentry
  · exact hcaches.adds hserves hadds

end Publishers

/-! ### The path -/

/-- A subscription of `kafka_sink` for a name, and a `kafka_source` that adds a prefix: CDR
without a mapping of names of its own on either side. -/
structure PlainPath (kafka : KafkaSink.KafkaParameters) (config : KafkaSink.SubscriptionConfig)
    (members : Members) (name : RosName) (tokens : List (List Char)) : Prop where
  mode : kafka.topicMappingMode = .prefixRosTopic
  topicPrefix : kafka.topicPrefix = "ros2" ∨ kafka.topicPrefix = "ros2."
  format : kafka.payloadFormat = .cdr
  topicName : config.topicName = name.absolute
  kafkaName : config.kafkaName = none
  mappings : members.topicMappings = []
  valid : ValidTokens tokens
  written : WritesPrefix tokens members.rosTopicPrefix

section Paths

variable {kafka : KafkaSink.KafkaParameters} {config : KafkaSink.SubscriptionConfig}
variable {members : Members} {name : RosName} {tokens : List (List Char)}

/-- The subscription sends the bytes as they are, on the mapped topic, with their type. -/
theorem onMessage_plain (h : PlainPath kafka config members name tokens)
    {json : KafkaSink.JsonConversion} {outside : Activation} {n : Nat}
    {held : KafkaSink.Resources} {msg : List UInt8} {nowNs : Int64}
    (hactive : held.isActive = true) (hclient : held.client = true) :
    KafkaSink.onMessage json held (KafkaSink.plannedSubscription kafka outside n config).settled
        msg nowNs =
      some
        { topic := KafkaSink.mapKafkaTopic kafka name.absolute
          key := (config.kafkaKey.getD kafka.messageKey).toUTF8.data.toList
          value := msg
          timestampMs := nowNs / 1000000
          headers := [⟨"ros_type", config.msgType⟩] } := by
  have hruntime : (KafkaSink.plannedSubscription kafka outside n config).settled =
      { rosTopic := config.topicName
        msgType := config.msgType
        kafkaTopic := KafkaSink.mapKafkaTopic kafka name.absolute
        messageKeyBytes := (config.kafkaKey.getD kafka.messageKey).toUTF8.data.toList
        payloadFormat := .cdr } := by
    simp [KafkaSink.plannedSubscription, KafkaSink.newRuntime, KafkaSink.SubscriptionRuntime.settle,
      h.format, h.kafkaName, h.topicName]
  rw [hruntime, KafkaSink.onMessage, hactive, hclient]
  rfl

/-- **The CDR path is the identity.** A message of `kafka_sink` is republished by
`kafka_source`, whatever it consumed before, with its type and its bytes, under its own name
behind the prefix. The derived topic of a mapped name is the name, and no two names are mapped
to one Kafka topic. -/
theorem cdr_path_identity (h : PlainPath kafka config members name tokens) :
    (∀ (json : KafkaSink.JsonConversion) (outside : Activation) (n : Nat)
        (held : KafkaSink.Resources) (msg : List UInt8) (sentNs receivedNs : Int64)
        (middleware : Middleware) (caches : Caches),
      held.isActive = true → held.client = true → msg ≠ [] →
      middleware.Serves (String.ofList (path '/' tokens) ++ name.absolute) config.msgType →
      Runs consume (fun _ call => call.middleware.Serves
        (String.ofList (path '/' tokens) ++ name.absolute) config.msgType) {} caches →
      ∃ record, KafkaSink.onMessage json held
          (KafkaSink.plannedSubscription kafka outside n config).settled msg sentNs = some record ∧
        (processMessage members middleware receivedNs (.ofMessage record.message) caches).1 =
          .published ⟨String.ofList (path '/' tokens) ++ name.absolute, config.msgType⟩ msg) ∧
    deriveRosTopic "" (KafkaSink.mapKafkaTopic kafka name.absolute) = name.absolute ∧
    ∀ name' : RosName, KafkaSink.mapKafkaTopic kafka name.absolute =
      KafkaSink.mapKafkaTopic kafka name'.absolute → name.absolute = name'.absolute := by
  have htarget : String.ofList (path '/' tokens) ++ name.absolute =
      String.ofList (path '/' (tokens ++ name.tokens)) := by
    rw [RosName.absolute, path_append, String.ofList_append]
  refine ⟨fun json outside n held msg sentNs receivedNs middleware caches hactive hclient hmsg
    hserves hrun => ⟨_, onMessage_plain h hactive hclient, ?_⟩, ?_, fun name' =>
      absolute_eq_of_mapKafkaTopic_eq h.mode h.topicPrefix⟩
  · have htopic : members.rosTopic (KafkaSink.mapKafkaTopic kafka name.absolute) =
        String.ofList (path '/' tokens) ++ name.absolute := by
      rw [Members.rosTopic, h.mappings, htarget]
      exact deriveRosTopic_mapKafkaTopic h.mode h.topicPrefix h.valid h.written
    have hbar : '|' ∉ (String.ofList (path '/' tokens) ++ name.absolute).toList := by
      rw [htarget, String.toList_ofList]
      exact notMem_path (by decide) ((h.valid.append name.valid).notMem (by decide))
    have hpublisher := (keyed_of_runs hrun).publisherFor hserves hbar
    refine (processMessage_publishes.published _ _).mpr ⟨rfl, ⟨hmsg, ?_, ?_⟩, ?_⟩
    · exact config.msgType_ne
    · exact .inr hserves.typeSupport
    · rw [← hpublisher, ← htopic]
      rfl
  · have hempty : WritesPrefix [] "" := ⟨[], .inl rfl, .inl rfl⟩
    exact deriveRosTopic_mapKafkaTopic h.mode h.topicPrefix (by simp [ValidTokens]) hempty

end Paths

/-- A middleware that knows every type and refuses names with a `|`. -/
def KafkaSource.Middleware.permissive : Middleware where
  createGenericPublisher topic _ := if '|' ∈ topic.toList then .throws else .created

/-- A name that begins like an encoded one. -/
def RosName.nested : RosName where
  tokens := [['r', 'o', 's', '2'], ['a', '_', '1']]
  tokens_ne := List.cons_ne_nil _ _
  valid := validTokens_of_all rfl

/-- `/ros2/a_1` travels as `ros2.ros2.a_1` and arrives as `/kafka/ros2/a_1`. -/
theorem cdr_path_identity_nested :
    ∃ record, KafkaSink.onMessage ⟨fun _ _ => none, fun _ _ => none⟩
        { isActive := true, client := true }
        (KafkaSink.plannedSubscription { topicPrefix := "ros2." } {} 0
          { topicName := "/ros2/a_1", msgType := "T" }).settled [0, 1] 0 = some record ∧
      record.topic = "ros2.ros2.a_1" ∧
      (processMessage { rosTopicPrefix := "kafka/" } .permissive 0
          (.ofMessage record.message) {}).1 =
        .published ⟨"/kafka/ros2/a_1", "T"⟩ [0, 1] := by
  have hplain : PlainPath { topicPrefix := "ros2." } { topicName := "/ros2/a_1", msgType := "T" }
      { rosTopicPrefix := "kafka/" } .nested [['k', 'a', 'f', 'k', 'a']] :=
    { mode := rfl
      topicPrefix := .inr rfl
      format := rfl
      topicName := by decide
      kafkaName := rfl
      mappings := rfl
      valid := validTokens_of_all rfl
      written := ⟨['/'], .inr rfl, .inr (by decide)⟩ }
  have hserves : Middleware.permissive.Serves
      (String.ofList (path '/' [['k', 'a', 'f', 'k', 'a']]) ++ RosName.nested.absolute) "T" :=
    ⟨rfl, by decide, fun _ _ h => if_pos h⟩
  obtain ⟨record, hrecord, hpublished⟩ := (cdr_path_identity hplain).1
    ⟨fun _ _ => none, fun _ _ => none⟩ {} 0 { isActive := true, client := true } [0, 1] 0 0
    .permissive {} rfl rfl (by decide) hserves .refl
  refine ⟨record, hrecord, ?_, hpublished⟩
  rw [onMessage_plain hplain rfl rfl] at hrecord
  rw [← Option.some.inj hrecord]
  decide

end Ros2Dispatcher
