import Ros2Dispatcher.Fleet.Calls

/-!
# Missing sinks

With `allow_missing_sinks` a sink whose services are not found is to be left out, and
`apply_selection_to_sink` does that. The sequence `apply_selection` has inlined for kafka_sink
does not: where that sink does not answer, every selection is refused before anything is
planned (`missing_kafka_refuses`).
-/

namespace Ros2Dispatcher

open Procedure

variable {cfg : Setting} {pattern : Pattern} {sink : Sink} {s : NodeState World}

/-- No service of a sink is found. -/
def Pattern.Lacks (pattern : Pattern) (sink : Sink) : Prop :=
  ∀ service ∈ [Service.getState sink, .changeState sink, .setParameters sink], ∀ n,
    pattern.outcome service n = .unavailable

/-- A sink without services has no state to ask for. -/
theorem wp_getSinkState_of_lacks {Q : Option LifecycleState → NodeState World → Prop}
    {E : Failure → NodeState World → Prop} (h : pattern.Lacks sink)
    (hnone : ∀ s', s'.ctl = s.ctl → s'.env.fleet = s.env.fleet → Q none s') :
    wp (getSinkState cfg.params (cfg.environment pattern) sink) Q E s := by
  have hnext : s.next pattern (.getState sink) = .unavailable := h _ (by simp) _
  by_cases hclients : cfg.params.hasClients sink = true
  · refine wp_getSinkState hclients (fun outcome houtcome hreplies => ?_)
      fun _ _ _ => hnone _ rfl rfl
    rw [← houtcome, hnext] at hreplies
    exact Bool.noConfusion hreplies
  · rw [getSinkState, if_neg hclients]
    exact hnone s rfl rfl

/-- `apply_selection_to_sink` leaves out a sink without services. -/
theorem wp_applySelectionToSink_of_lacks (subs : List TopicInfo)
    (hallow : cfg.params.allowMissingSinks = true) (h : pattern.Lacks sink) :
    wp (applySelectionToSink cfg.params (cfg.environment pattern) sink subs)
      (fun _ s' => s'.ctl = s.ctl ∧ s'.env.fleet = s.env.fleet) (fun _ _ => False) s := by
  unfold applySelectionToSink
  refine wp_ite.mpr ⟨fun _ => ⟨rfl, rfl⟩, fun _ => ?_⟩
  rw [wp_bind]
  refine wp_getSinkState_of_lacks h fun s' hctl hfleet => ?_
  show wp (shouldSkipUnavailableSink cfg.params sink) _ _ s'
  rw [shouldSkipUnavailableSink, if_pos hallow]
  exact ⟨hctl, hfleet⟩

/-- `apply_selection` refuses where kafka_sink has no services. -/
theorem wp_applySelection_of_lacks (cfg : Setting) (topics : List TopicSelection)
    (h : pattern.Lacks .kafka) :
    wp (applySelection cfg.params (cfg.environment pattern) topics) (fun _ _ => False)
      (fun failure s' =>
        failure = .error (if topics.isEmpty then "No topics to apply"
          else "Unable to get kafka_sink state") ∧
        s'.ctl = s.ctl ∧ s'.env.fleet = s.env.fleet) s := by
  unfold applySelection prepareSelection
  rw [wp_bind]
  refine wp_ite.mpr ⟨fun hempty => ?_, fun hsome => ?_⟩
  · rw [wp_fail, if_pos hempty]
    exact ⟨rfl, rfl, rfl⟩
  -- the state is asked for before the plan, and `allow_missing_sinks` is not looked at
  · rw [wp_bind]
    refine wp_getSinkState_of_lacks h fun s' hctl hfleet => ?_
    rw [wp_fail, if_neg hsome]
    exact ⟨rfl, hctl, hfleet⟩

/-- What a call of `apply_selection` is to do: return true, with mosquitto_sink streaming the
sink topics of the plan. -/
def Setting.Delivers (cfg : Setting) (pattern : Pattern) (topics : List TopicSelection)
    (plan : TopicToolsPlan) (s : NodeState World) : Prop :=
  ∃ s', applySelection cfg.params (cfg.environment pattern) topics s = .ok ⟨⟩ s' ∧
    s'.env.fleet.mosquitto.state = .active plan.sinkTopics

/-- What a call of `apply_selection_to_sink` is to do with a sink without services: return
true, with nothing changed. -/
def Setting.Skips (cfg : Setting) (pattern : Pattern) (sink : Sink) (subs : List TopicInfo)
    (s : NodeState World) : Prop :=
  ∃ s', applySelectionToSink cfg.params (cfg.environment pattern) sink subs s = .ok ⟨⟩ s' ∧
    s'.ctl = s.ctl ∧ s'.env.fleet = s.env.fleet

/-- **A missing kafka_sink** refuses every selection, whatever mosquitto_sink and the container
answer, and leaves both as they were; `apply_selection_to_sink` skips each sink that is
missing. -/
theorem missing_kafka_refuses (cfg : Setting) (pattern : Pattern) (s : NodeState World)
    (topics : List TopicSelection) (plan : TopicToolsPlan)
    (hallow : cfg.params.allowMissingSinks = true) (hkafka : pattern.Lacks .kafka)
    (htopics : topics ≠ []) :
    ¬cfg.Delivers pattern topics plan s ∧
    (∃ s', applySelection cfg.params (cfg.environment pattern) topics s =
        .error (.error "Unable to get kafka_sink state") s' ∧
      s'.ctl = s.ctl ∧ s'.env.fleet = s.env.fleet) ∧
    ∀ sink, pattern.Lacks sink → ∀ subs, cfg.Skips pattern sink subs s := by
  have hrefused := wp_applySelection_of_lacks cfg topics (s := s) hkafka
  refine ⟨fun hdelivers => ?_, ?_, fun sink hsink subs => ?_⟩
  · obtain ⟨_, hrun, _⟩ := hdelivers
    exact of_wp_ok hrefused hrun
  · obtain ⟨failure, s', hrun, rfl, hsame⟩ := exists_error_of_wp hrefused
    rw [if_neg (by simpa using htopics)] at hrun
    exact ⟨s', hrun, hsame⟩
  · obtain ⟨_, s', hrun, hsame⟩ :=
      exists_ok_of_wp (wp_applySelectionToSink_of_lacks subs (s := s) hallow hsink)
    exact ⟨s', hrun, hsame⟩

/-- No service of one sink is found, and all other requests are answered. -/
def Pattern.lacking (sink : Sink) : Pattern where
  outcome service _ :=
    if service ∈ [Service.getState sink, .changeState sink, .setParameters sink] then .unavailable
    else .answered

theorem Pattern.lacking_lacks : (Pattern.lacking sink).Lacks sink := fun _ hservice _ =>
  if_pos hservice

/-- Without kafka_sink a plain topic is refused, and mosquitto_sink stays unconfigured. -/
theorem missing_kafka_refuses_topic :
    ∃ s', applySelection {} (Setting.default.environment (.lacking .kafka))
        [⟨⟨"/a", "std_msgs/msg/String"⟩, none⟩]
        ⟨{}, ⟨.fresh, []⟩⟩ = .error (.error "Unable to get kafka_sink state") s' ∧
      s'.env.fleet.mosquitto.state = .unconfigured := by
  obtain ⟨s', hrun, _, hfleet⟩ :=
    (missing_kafka_refuses .default (.lacking .kafka) ⟨{}, ⟨.fresh, []⟩⟩
      [⟨⟨"/a", "std_msgs/msg/String"⟩, none⟩] ⟨[], []⟩ rfl
      Pattern.lacking_lacks (by simp)).2.1
  exact ⟨s', hrun, by rw [hfleet]; rfl⟩

/-- Its plan builds and everything else answers: with kafka_sink there, mosquitto_sink streams
the topic. -/
theorem missing_kafka_stops_mosquitto :
    buildTopicToolsPlan [⟨⟨"/a", "std_msgs/msg/String"⟩, none⟩] =
      .ok ⟨[], [⟨"/a", "std_msgs/msg/String"⟩]⟩ ∧
    ¬Setting.default.Delivers (.lacking .kafka)
      [⟨⟨"/a", "std_msgs/msg/String"⟩, none⟩]
      ⟨[], [⟨"/a", "std_msgs/msg/String"⟩]⟩ ⟨{}, ⟨.fresh, []⟩⟩ ∧
    Setting.default.Delivers {}
      [⟨⟨"/a", "std_msgs/msg/String"⟩, none⟩]
      ⟨[], [⟨"/a", "std_msgs/msg/String"⟩]⟩ ⟨{}, ⟨.fresh, []⟩⟩ := by
  refine ⟨by decide +kernel, fun ⟨_, hrun, _⟩ => ?_, ?_⟩
  · cases hrun
  · exact ⟨_, rfl, rfl⟩

end Ros2Dispatcher
