import Ros2Dispatcher.Sinks.KafkaSink
import Ros2Dispatcher.Sinks.MosquittoSink

/-!
# Topic lists on their way to the sinks

The controller writes a list of topics as a YAML text (`topics_to_yaml`), and each sink reads
it with its own `parse_subscriptions_yaml`. yaml-cpp stands between them: its emitter turns a
stream of manipulators into a text, its reader turns the text into a document.

* `topicsToYaml_eq`: what the controller emits is the stream of one document.
* `Decodes.parseSubscriptions_ok`, `Decodes.parseSubscriptions_error`: a sink that decodes
  single entries decodes the whole list, and refuses it for one blank name or type.
* `topics_reach_sinks`: both sinks.
-/

namespace Ros2Dispatcher

/-! ### Emitting -/

/-- What is streamed into a `YAML::Emitter`. -/
inductive Emission
  | beginSeq
  | endSeq
  | beginMap
  | endMap
  | key
  | value
  | null
  | text (text : String)
deriving DecidableEq, Repr

mutual

/-- The stream that emits a document. -/
def Yaml.emissions : Yaml → List Emission
  | .null => [.null]
  | .scalar text => [.text text]
  | .sequence items => .beginSeq :: Yaml.itemEmissions items ++ [.endSeq]
  | .map entries => .beginMap :: Yaml.entryEmissions entries ++ [.endMap]

/-- The streams of the items of a sequence, one after the other. -/
def Yaml.itemEmissions : List Yaml → List Emission
  | [] => []
  | item :: items => item.emissions ++ Yaml.itemEmissions items

/-- The streams of the entries of a map, one after the other. -/
def Yaml.entryEmissions : List (Yaml × Yaml) → List Emission
  | [] => []
  | (k, v) :: entries =>
    .key :: k.emissions ++ .value :: v.emissions ++ Yaml.entryEmissions entries

end

/-- `topics_to_yaml`; `c_str` gives the text of the stream. -/
def topicsToYaml (cStr : List Emission → String) (subs : List TopicInfo) : String :=
  cStr (.beginSeq ::
    subs.flatMap (fun sub =>
      [.beginMap, .key, .text "topic_name", .value, .text sub.name,
        .key, .text "msg_type", .value, .text sub.type, .endMap]) ++ [.endSeq])

/-- The entry of one topic. -/
def topicEntry (topic : TopicInfo) : Yaml :=
  .map [(.scalar "topic_name", .scalar topic.name), (.scalar "msg_type", .scalar topic.type)]

/-- The document of a list of topics. -/
def topicsDocument (topics : List TopicInfo) : Yaml :=
  .sequence (topics.map topicEntry)

theorem itemEmissions_topicEntries (topics : List TopicInfo) :
    Yaml.itemEmissions (topics.map topicEntry) =
      topics.flatMap fun sub =>
        [.beginMap, .key, .text "topic_name", .value, .text sub.name,
          .key, .text "msg_type", .value, .text sub.type, .endMap] := by
  induction topics with
  | nil => rfl
  | cons topic topics ih =>
    rw [List.map_cons, Yaml.itemEmissions, ih, List.flatMap_cons]
    rfl

/-- The controller emits the document of its topics. -/
theorem topicsToYaml_eq (cStr : List Emission → String) (topics : List TopicInfo) :
    topicsToYaml cStr topics = cStr (topicsDocument topics).emissions := by
  unfold topicsToYaml topicsDocument
  rw [Yaml.emissions, itemEmissions_topicEntries]

namespace Sinks

/-- yaml-cpp loads a document back from what it emitted for it. -/
def YamlReader.LoadsBack (reader : YamlReader) (cStr : List Emission → String) (document : Yaml) :
    Prop :=
  reader.load (cStr document.emissions) = .ok document

/-! ### Reading the list -/

section Reading

open Tokens

variable {C : Type}

/-- The entries of topics are decoded one by one: one with a name and a type to what `Plain`
says, one without to an error. -/
structure Decodes (parseEntry : Yaml → Except Failure C) (Plain : TopicInfo → C → Prop) :
    Prop where
  plain : ∀ topic : TopicInfo, HasText topic.name → HasText topic.type →
    ∃ config, parseEntry (topicEntry topic) = .ok config ∧ Plain topic config
  blank : ∀ topic : TopicInfo, ¬(HasText topic.name ∧ HasText topic.type) →
    parseEntry (topicEntry topic) =
      .error (.error "Subscription entries must have non-empty topic_name and msg_type.")

variable {parseEntry : Yaml → Except Failure C} {Plain : TopicInfo → C → Prop}

namespace Decodes

theorem mapM_ok (h : Decodes parseEntry Plain) {topics : List TopicInfo}
    (htopics : ∀ topic ∈ topics, HasText topic.name ∧ HasText topic.type) :
    ∃ configs, (topics.map topicEntry).mapM parseEntry = .ok configs ∧
      List.Forall₂ Plain topics configs := by
  induction topics with
  | nil => exact ⟨[], rfl, .nil⟩
  | cons topic topics ih =>
    rw [List.forall_mem_cons] at htopics
    obtain ⟨config, hconfig, hplain⟩ := h.plain topic htopics.1.1 htopics.1.2
    obtain ⟨configs, hconfigs, hall⟩ := ih htopics.2
    refine ⟨config :: configs, ?_, .cons hplain hall⟩
    rw [List.map_cons, List.mapM_cons, hconfig, hconfigs]
    rfl

theorem mapM_error (h : Decodes parseEntry Plain) {topics : List TopicInfo}
    (htopics : ∃ topic ∈ topics, ¬(HasText topic.name ∧ HasText topic.type)) :
    (topics.map topicEntry).mapM parseEntry =
      .error (.error "Subscription entries must have non-empty topic_name and msg_type.") := by
  induction topics with
  | nil =>
    obtain ⟨topic, htopic, -⟩ := htopics
    cases htopic
  | cons topic topics ih =>
    rw [List.map_cons, List.mapM_cons]
    by_cases hfirst : HasText topic.name ∧ HasText topic.type
    · obtain ⟨config, hconfig, -⟩ := h.plain topic hfirst.1 hfirst.2
      obtain ⟨topic', htopic', hblank⟩ := htopics
      have hrest : topic' ∈ topics := by
        rcases List.mem_cons.mp htopic' with rfl | hrest
        · exact absurd hfirst hblank
        · exact hrest
      rw [hconfig, ih ⟨topic', hrest, hblank⟩]
      rfl
    · rw [h.blank topic hfirst]
      rfl

/-- A sink that makes its entries of the trimmed names alone decodes the entries of topics. -/
theorem of_requireNames {assign : SubscriptionNames → C}
    (h : ∀ topic, parseEntry (topicEntry topic) =
      assign <$> requireNames (trim topic.name) (trim topic.type)) :
    Decodes parseEntry fun topic config => ∃ names : SubscriptionNames, config = assign names ∧
      names.topicName = trim topic.name ∧ names.msgType = trim topic.type where
  plain topic hname htype := by
    have hnames : trim topic.name ≠ "" ∧ trim topic.type ≠ "" :=
      ⟨trim_ne_empty_iff.mpr hname, trim_ne_empty_iff.mpr htype⟩
    rw [h, requireNames, dif_pos hnames]
    exact ⟨_, rfl, _, rfl, rfl, rfl⟩
  blank topic hblank := by
    have hnames : ¬(trim topic.name ≠ "" ∧ trim topic.type ≠ "") := by
      rwa [trim_ne_empty_iff, trim_ne_empty_iff]
    rw [h, requireNames, dif_neg hnames]
    rfl

/-- A text that is loaded back from a list of topics is read entry by entry. -/
theorem parseSubscriptions_eq {reader : YamlReader} {cStr : List Emission → String}
    (hempty : reader.load "" = .ok .null) {topics : List TopicInfo}
    (hload : reader.LoadsBack cStr (topicsDocument topics)) :
    parseSubscriptions reader parseEntry (topicsToYaml cStr topics) =
      ((topics.map topicEntry).mapM parseEntry).mapError Failure.what := by
  rw [topicsToYaml_eq]
  unfold YamlReader.LoadsBack at hload
  unfold parseSubscriptions
  split
  next htext =>
    -- an empty text loads as no sequence
    rw [String.isEmpty_iff.mp htext, hempty] at hload
    cases hload
  next =>
    rw [hload]
    rfl

theorem parseSubscriptions_ok (h : Decodes parseEntry Plain) {reader : YamlReader}
    {cStr : List Emission → String} (hempty : reader.load "" = .ok .null)
    {topics : List TopicInfo} (hload : reader.LoadsBack cStr (topicsDocument topics))
    (htopics : ∀ topic ∈ topics, HasText topic.name ∧ HasText topic.type) :
    ∃ configs, parseSubscriptions reader parseEntry (topicsToYaml cStr topics) = .ok configs ∧
      List.Forall₂ Plain topics configs := by
  obtain ⟨configs, hconfigs, hplain⟩ := h.mapM_ok htopics
  refine ⟨configs, ?_, hplain⟩
  rw [parseSubscriptions_eq hempty hload, hconfigs]
  rfl

theorem parseSubscriptions_error (h : Decodes parseEntry Plain) {reader : YamlReader}
    {cStr : List Emission → String} (hempty : reader.load "" = .ok .null)
    {topics : List TopicInfo} (hload : reader.LoadsBack cStr (topicsDocument topics))
    (htopics : ∃ topic ∈ topics, ¬(HasText topic.name ∧ HasText topic.type)) :
    parseSubscriptions reader parseEntry (topicsToYaml cStr topics) =
      .error "Subscription entries must have non-empty topic_name and msg_type." := by
  rw [parseSubscriptions_eq hempty hload, h.mapM_error htopics]
  rfl

end Decodes

end Reading

end Sinks

/-! ### The two sinks -/

open Sinks Tokens

/-- The entry of a topic has its two keys and no other one. -/
theorem field_topicEntry (topic : TopicInfo) (key : String) :
    (topicEntry topic).field key =
      pure (if "topic_name" = key then some (.scalar topic.name)
        else if "msg_type" = key then some (.scalar topic.type) else none) := by
  unfold topicEntry Yaml.field
  by_cases hname : "topic_name" = key
  · simp [Yaml.isKey, hname, pure, Except.pure]
  · by_cases htype : "msg_type" = key
    · simp [Yaml.isKey, hname, htype, pure, Except.pure]
    · simp [Yaml.isKey, hname, htype, pure, Except.pure]

theorem asString_scalar (cpp : YamlCpp) (text : String) :
    (Yaml.scalar text).asString cpp = pure text :=
  rfl

theorem optionalText_topicEntry (cpp : YamlCpp) (topic : TopicInfo) {key : String}
    (hname : "topic_name" ≠ key) (htype : "msg_type" ≠ key) :
    optionalText cpp (topicEntry topic) key = pure none := by
  unfold optionalText
  rw [field_topicEntry, if_neg hname, if_neg htype, pure_bind]

theorem KafkaSink.parseEntry_topicEntry (cpp : YamlCpp) (topic : TopicInfo) :
    KafkaSink.parseEntry cpp (topicEntry topic) =
      (fun names => { toSubscriptionNames := names }) <$>
        requireNames (trim topic.name) (trim topic.type) := by
  have hfield := field_topicEntry topic
  have hname := optionalText_topicEntry cpp topic (show "topic_name" ≠ "kafka_name" by decide)
    (by decide)
  have hkey := optionalText_topicEntry cpp topic (show "topic_name" ≠ "kafka_key" by decide)
    (by decide)
  unfold topicEntry at hfield hname hkey
  unfold KafkaSink.parseEntry topicEntry
  simp [hfield, hname, hkey, asString_scalar]

theorem MosquittoSink.parseEntry_topicEntry (cpp : YamlCpp) (topic : TopicInfo) :
    MosquittoSink.parseEntry cpp (topicEntry topic) =
      (fun names => { toSubscriptionNames := names }) <$>
        requireNames (trim topic.name) (trim topic.type) := by
  have hfield := field_topicEntry topic
  have hname := optionalText_topicEntry cpp topic (show "topic_name" ≠ "mqtt_name" by decide)
    (by decide)
  unfold topicEntry at hfield hname
  unfold MosquittoSink.parseEntry topicEntry
  simp [hfield, hname, asString_scalar]

/-- **A list of topics reaches both sinks**, if yaml-cpp loads back what it emitted for it: with
names and types that are not blank each sink has one entry for each topic, in the same order,
with the trimmed name and type and nothing else; with a blank one both refuse the list. -/
theorem topics_reach_sinks (reader : YamlReader) (cStr : List Emission → String)
    (topics : List TopicInfo) (hempty : reader.load "" = .ok .null)
    (hload : reader.LoadsBack cStr (topicsDocument topics)) :
    ((∀ topic ∈ topics, HasText topic.name ∧ HasText topic.type) →
      (∃ configs, KafkaSink.parseSubscriptionsYaml reader (topicsToYaml cStr topics) =
          .ok configs ∧
        List.Forall₂ (fun topic config => config.topicName = trim topic.name ∧
          config.msgType = trim topic.type ∧ config.kafkaName = none ∧ config.kafkaKey = none)
          topics configs) ∧
      (∃ configs, MosquittoSink.parseSubscriptionsYaml reader (topicsToYaml cStr topics) =
          .ok configs ∧
        List.Forall₂ (fun topic config => config.topicName = trim topic.name ∧
          config.msgType = trim topic.type ∧ config.mqttName = none) topics configs)) ∧
    ((∃ topic ∈ topics, ¬(HasText topic.name ∧ HasText topic.type)) →
      (∃ reason, KafkaSink.parseSubscriptionsYaml reader (topicsToYaml cStr topics) =
        .error reason) ∧
      (∃ reason, MosquittoSink.parseSubscriptionsYaml reader (topicsToYaml cStr topics) =
        .error reason)) := by
  have hkafka := Decodes.of_requireNames (KafkaSink.parseEntry_topicEntry reader.cpp)
  have hmosquitto := Decodes.of_requireNames (MosquittoSink.parseEntry_topicEntry reader.cpp)
  constructor
  · intro htopics
    constructor
    · obtain ⟨configs, hconfigs, hall⟩ := hkafka.parseSubscriptions_ok hempty hload htopics
      refine ⟨configs, hconfigs, hall.imp ?_⟩
      rintro topic config ⟨names, rfl, hname, htype⟩
      exact ⟨hname, htype, rfl, rfl⟩
    · obtain ⟨configs, hconfigs, hall⟩ := hmosquitto.parseSubscriptions_ok hempty hload htopics
      refine ⟨configs, hconfigs, hall.imp ?_⟩
      rintro topic config ⟨names, rfl, hname, htype⟩
      exact ⟨hname, htype, rfl⟩
  · intro htopics
    exact ⟨⟨_, hkafka.parseSubscriptions_error hempty hload htopics⟩,
      ⟨_, hmosquitto.parseSubscriptions_error hempty hload htopics⟩⟩

/-- The texts yaml-cpp has for two lists of one topic, one of them with a blank name. -/
def sampleText (stream : List Emission) : String :=
  if stream = (topicsDocument [⟨"/a", "T"⟩]).emissions then "- topic_name: /a\n  msg_type: T"
  else if stream = (topicsDocument [⟨" ", "T"⟩]).emissions then
    "- topic_name: \" \"\n  msg_type: T"
  else "[]"

/-- yaml-cpp loading these two texts. -/
def Sinks.YamlReader.samples : YamlReader where
  cpp := ⟨fun _ => none, fun _ => none, fun _ => none, some "null"⟩
  load text :=
    if text = "- topic_name: /a\n  msg_type: T" then .ok (topicsDocument [⟨"/a", "T"⟩])
    else if text = "- topic_name: \" \"\n  msg_type: T" then .ok (topicsDocument [⟨" ", "T"⟩])
    else .ok .null

theorem sample_topics_reach_sinks :
    (∃ configs, KafkaSink.parseSubscriptionsYaml .samples (topicsToYaml sampleText [⟨"/a", "T"⟩]) =
      .ok configs) ∧
    ∃ reason, MosquittoSink.parseSubscriptionsYaml .samples
      (topicsToYaml sampleText [⟨" ", "T"⟩]) = .error reason := by
  constructor
  · have hload : YamlReader.samples.LoadsBack sampleText (topicsDocument [⟨"/a", "T"⟩]) := rfl
    have htopics : ∀ topic ∈ [(⟨"/a", "T"⟩ : TopicInfo)],
        HasText topic.name ∧ HasText topic.type := by
      intro topic htopic
      rw [List.mem_singleton.mp htopic]
      exact ⟨⟨'/', by decide, rfl⟩, ⟨'T', by decide, rfl⟩⟩
    obtain ⟨configs, hconfigs, -⟩ :=
      ((topics_reach_sinks .samples sampleText [⟨"/a", "T"⟩] rfl hload).1 htopics).1
    exact ⟨configs, hconfigs⟩
  · have hload : YamlReader.samples.LoadsBack sampleText (topicsDocument [⟨" ", "T"⟩]) := rfl
    have hblank : ¬HasText " " := fun ⟨c, hc, hspace⟩ => by
      have hc' : c = ' ' := by simpa using hc
      rw [hc'] at hspace
      cases hspace
    have htopics : ∃ topic ∈ [(⟨" ", "T"⟩ : TopicInfo)],
        ¬(HasText topic.name ∧ HasText topic.type) :=
      ⟨_, List.mem_singleton.mpr rfl, fun h => hblank h.1⟩
    exact ((topics_reach_sinks .samples sampleText [⟨" ", "T"⟩] rfl hload).2 htopics).2

end Ros2Dispatcher
