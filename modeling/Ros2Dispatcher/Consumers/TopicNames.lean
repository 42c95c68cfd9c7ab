import Ros2Dispatcher.Consumers.KafkaSource
import Ros2Dispatcher.Library.NormalPaths

/-!
# The names `derive_ros_topic` gives

`derive_ros_topic` puts the prefix before the Kafka topic, whose dots it takes for slashes, and
normalizes what comes out; but where the Kafka topic leaves nothing to put behind the prefix, it
returns the prefix before that.

* `deriveRosTopic_eq`: the tokens of a name are those of the prefix and those of the topic.
* `deriveRosTopic_normal_iff`: which prefixes and topics give a normal name.
-/

namespace Ros2Dispatcher.KafkaSource

open Tokens

variable {rosTopicPrefix kafkaTopic : String}

/-- What stands behind the prefix. -/
def topicSuffix (kafkaTopic : String) : List Char :=
  substitute '.' '/' (dropStart "ros2.".toList kafkaTopic.toList)

/-- The prefix as it is put before a suffix. -/
def topicPrefix (rosTopicPrefix : String) : List Char :=
  addLeading '/' (dropTrailing '/' rosTopicPrefix.toList)

/-- Nothing stands behind the prefix for an empty topic and for the bare start. -/
theorem topicSuffix_eq_nil :
    topicSuffix kafkaTopic = [] ↔ kafkaTopic = "" ∨ kafkaTopic = "ros2." := by
  rw [topicSuffix, substitute_eq_nil, dropStart_eq_nil, ← String.toList_inj, ← String.toList_inj]
  rfl

theorem tokensOf_topicPrefix :
    tokensOf '/' (topicPrefix rosTopicPrefix) = tokensOf '/' rosTopicPrefix.toList := by
  rw [topicPrefix, tokensOf_addLeading, tokensOf_dropTrailing]

/-- The prefix begins with its slash. -/
theorem head?_topicPrefix (h : topicPrefix rosTopicPrefix ≠ []) :
    (topicPrefix rosTopicPrefix).head? = some '/' := by
  unfold topicPrefix addLeading at h ⊢
  split
  next hword =>
    rw [if_pos hword] at h
    exact hword.resolve_left h
  · rfl

/-- The name where the topic leaves no suffix. -/
theorem toList_deriveRosTopic_bare (h : topicSuffix kafkaTopic = []) :
    (deriveRosTopic rosTopicPrefix kafkaTopic).toList =
      if topicPrefix rosTopicPrefix = [] then ['/'] else topicPrefix rosTopicPrefix := by
  unfold topicSuffix at h
  unfold deriveRosTopic topicPrefix
  simp only [if_pos h]
  split
  · rfl
  · rw [String.toList_ofList]

/-- The name in all other cases. -/
theorem toList_deriveRosTopic (h : topicSuffix kafkaTopic ≠ []) :
    (deriveRosTopic rosTopicPrefix kafkaTopic).toList =
      normalPath '/' (topicPrefix rosTopicPrefix ++ '/' :: topicSuffix kafkaTopic) := by
  have htopic : (if topicPrefix rosTopicPrefix = [] then '/' :: topicSuffix kafkaTopic
      else topicPrefix rosTopicPrefix ++ '/' :: topicSuffix kafkaTopic) =
      topicPrefix rosTopicPrefix ++ '/' :: topicSuffix kafkaTopic := by
    split
    next hnil => rw [hnil, List.nil_append]
    · rfl
  rw [← htopic, normalPath]
  unfold topicSuffix at h
  unfold deriveRosTopic topicPrefix topicSuffix
  simp only [if_neg h, String.toList_ofList]

/-- Behind the prefix the name goes on with a slash. -/
theorem head?_rawTopic :
    (topicPrefix rosTopicPrefix ++ '/' :: topicSuffix kafkaTopic).head? = some '/' := by
  by_cases hlead : topicPrefix rosTopicPrefix = []
  · rw [hlead]
    rfl
  · rw [List.head?_append_of_ne_nil _ hlead, head?_topicPrefix hlead]

/-- **The tokens of a name** are those of the prefix and those of the topic, where the topic
leaves a suffix. -/
theorem deriveRosTopic_eq (h : topicSuffix kafkaTopic ≠ []) :
    deriveRosTopic rosTopicPrefix kafkaTopic = String.ofList
      (if tokensOf '/' rosTopicPrefix.toList ++ tokensOf '/' (topicSuffix kafkaTopic) = [] then
        ['/']
      else path '/'
        (tokensOf '/' rosTopicPrefix.toList ++ tokensOf '/' (topicSuffix kafkaTopic))) := by
  rw [← String.toList_inj, toList_deriveRosTopic h, normalPath_eq head?_rawTopic,
    tokensOf_append_cons, tokensOf_topicPrefix, String.toList_ofList]

/-- **Which names are normal.** A Kafka topic that leaves a suffix gets a normal name whatever
the prefix; another one exactly if the prefix has no two slashes next to each other, or is
nothing but two slashes. -/
theorem deriveRosTopic_normal_iff (rosTopicPrefix kafkaTopic : String) :
    Normal '/' (deriveRosTopic rosTopicPrefix kafkaTopic).toList ↔
      (kafkaTopic ≠ "" ∧ kafkaTopic ≠ "ros2.") ∨ rosTopicPrefix = "//" ∨
        rosTopicPrefix.toList.IsChain fun a b => ¬(a = '/' ∧ b = '/') := by
  by_cases hsuffix : topicSuffix kafkaTopic = []
  · have hbare : ¬(kafkaTopic ≠ "" ∧ kafkaTopic ≠ "ros2.") := by
      rw [← not_or, not_not]
      exact topicSuffix_eq_nil.mp hsuffix
    have hroot : rosTopicPrefix = "//" ↔ dropTrailing '/' rosTopicPrefix.toList = ['/'] := by
      rw [dropTrailing_eq_root, ← String.toList_inj]
      rfl
    rw [toList_deriveRosTopic_bare hsuffix, or_iff_right hbare, hroot, isChain_dropTrailing]
    by_cases hlead : topicPrefix rosTopicPrefix = []
    · have hdrop : dropTrailing '/' rosTopicPrefix.toList = [] := addLeading_eq_nil.mp hlead
      rw [if_pos hlead, hdrop]
      exact iff_of_true .root (.inr ⟨.nil, nofun⟩)
    · have hdrop : dropTrailing '/' rosTopicPrefix.toList ≠ [] := fun hnil =>
        hlead (addLeading_eq_nil.mpr hnil)
      rw [if_neg hlead, topicPrefix, normal_addLeading_iff hdrop]
      constructor
      · intro ⟨hchain, hend⟩
        by_cases hlast : (dropTrailing '/' rosTopicPrefix.toList).getLast? = some '/'
        · exact .inl (hend hlast)
        · exact .inr ⟨hchain, hlast⟩
      · rintro (hslash | ⟨hchain, hlast⟩)
        · rw [hslash]
          exact ⟨.singleton '/', fun _ => rfl⟩
        · exact ⟨hchain, fun hend => absurd hend hlast⟩
  · have hgiven : kafkaTopic ≠ "" ∧ kafkaTopic ≠ "ros2." :=
      not_or.mp fun hbare => hsuffix (topicSuffix_eq_nil.mpr hbare)
    rw [toList_deriveRosTopic hsuffix]
    exact iff_of_true (normal_normalPath head?_rawTopic) (.inl hgiven)

/-- A prefix that ends in two slashes keeps one of them. -/
theorem bare_topic_not_normal : ¬∀ rosTopicPrefix kafkaTopic : String,
    Normal '/' (deriveRosTopic rosTopicPrefix kafkaTopic).toList := fun h =>
  absurd (h "/robot//" "ros2.") (by decide)

end Ros2Dispatcher.KafkaSource
