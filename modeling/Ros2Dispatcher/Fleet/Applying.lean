import Ros2Dispatcher.Fleet.Planning
import Ros2Dispatcher.Fleet.Sinks
import Ros2Dispatcher.Fleet.Tools

/-!
# What `apply_selection` does to the fleet

`applySelection_spec` composes the specifications of the parts. On success the state is
`Applied`: the tools are those of the plan, kafka_sink was restarted, mosquitto_sink too if
it could be reached, and the selection is recorded. A failure leaves the state of the stage
it happened in, one constructor of `ApplyFailed` for each, with what can be said about the
reason. In both cases the unload requests were made while kafka_sink was not active and
mosquitto_sink was as it had been at the start.
-/

namespace Ros2Dispatcher

open Procedure

variable {cfg : Setting} {pattern : Pattern} {s s' : NodeState World}
variable {topics validated : List TopicSelection} {plan : TopicToolsPlan}

/-- The selection and the plan `apply_selection` carries out from `s` on. -/
def NodeState.planned (s : NodeState World) (cfg : Setting) (pattern : Pattern)
    (topics : List TopicSelection) : Except String (List TopicSelection × TopicToolsPlan) :=
  planSelection cfg.params (pattern.topics (s.env.count .getTopics)) topics

/-- The state after `apply_selection` has succeeded. -/
structure Applied (cfg : Setting) (pattern : Pattern) (validated : List TopicSelection)
    (plan : TopicToolsPlan) (s s' : NodeState World) : Prop where
  toolbox : s'.toolbox = s.toolbox.clear.loadAll cfg plan.tools
  kafka : Restarted cfg pattern .kafka plan.sinkTopics s s'
  skipped : ¬s.Reaches cfg pattern .mosquitto → s'.env.fleet.mosquitto = s.env.fleet.mosquitto
  mosquitto : s.Reaches cfg pattern .mosquitto →
    Restarted cfg pattern .mosquitto plan.sinkTopics s s'
  applied : s'.ctl.appliedSelection = ⟨validated, plan.sinkTopics, pattern.stamp⟩

/-- The states `apply_selection` fails in, by the stage that failed. -/
inductive ApplyFailed (cfg : Setting) (pattern : Pattern) (topics : List TopicSelection)
    (s : NodeState World) (s' : NodeState World) : Prop
  | prepare (ctl : s'.ctl = s.ctl) (fleet : s'.env.fleet = s.env.fleet)
    (why : (∀ service, s.next pattern service = .answered) → topics ≠ [] →
      ∃ message, s.planned cfg pattern topics = .error message)
  | quiesce (toolbox : s'.toolbox = s.toolbox)
    (kafka : s'.env.fleet.kafka.IsActive → s'.env.fleet.kafka = s.env.fleet.kafka)
    (mosquitto : s'.env.fleet.mosquitto = s.env.fleet.mosquitto)
    (why : ¬pattern.Serves .kafka)
  | reconcile (validated : List TopicSelection) (plan : TopicToolsPlan)
    (planned : s.planned cfg pattern topics = .ok (validated, plan))
    (toolbox : ReconcileFailed cfg pattern (s.env.count .unloadNode) s.toolbox plan.tools
      s'.toolbox)
    (kafka : ¬s'.env.fleet.kafka.IsActive)
    (mosquitto : s'.env.fleet.mosquitto = s.env.fleet.mosquitto)
  | restart (validated : List TopicSelection) (plan : TopicToolsPlan)
    (planned : s.planned cfg pattern topics = .ok (validated, plan))
    (toolbox : s'.toolbox = s.toolbox.clear.loadAll cfg plan.tools)
    (kafka : pattern.NeverLate (.changeState .kafka) → ¬s'.env.fleet.kafka.IsActive)
    (mosquitto : s'.env.fleet.mosquitto = s.env.fleet.mosquitto)
    (why : pattern.Serves .kafka → s.env.fleet.kafka.state = .finalized)
  | mosquitto (validated : List TopicSelection) (plan : TopicToolsPlan)
    (planned : s.planned cfg pattern topics = .ok (validated, plan))
    (toolbox : s'.toolbox = s.toolbox.clear.loadAll cfg plan.tools)
    (kafka : Restarted cfg pattern .kafka plan.sinkTopics s s')
    (why : pattern.Serves .mosquitto → s.env.fleet.mosquitto.state = .finalized)

/-- The fleets in which `apply_selection`, started in `fleet`, makes unload requests. -/
def Fleet.KafkaQuiet (fleet fleet' : Fleet) : Prop :=
  ¬fleet'.kafka.IsActive ∧ fleet'.mosquitto = fleet.mosquitto

/-! ### The stages -/

/-- Recording the selection changes nothing else. -/
theorem recordApplied_spec :
    wp (recordApplied cfg.params (cfg.environment pattern) validated plan)
      (fun _ s' => s'.ctl = { s.ctl with
          appliedSelection := ⟨validated, plan.sinkTopics, pattern.stamp⟩ } ∧
        s'.env.fleet = s.env.fleet ∧ Calls Service.IsDiscovery s s')
      (fun _ _ => False) s := by
  rw [recordApplied, wp_bind, wp_now, wp_bind, wp_update]
  refine wp_ite.mpr ⟨fun _ => ?_, fun _ => ⟨rfl, rfl, .refl⟩⟩
  rw [wp_bind]
  refine wp_tryCall (wp_setIntrospectionEnabled (fun s' hs' => ?_) fun message s' hs' => ?_)
  · exact ⟨hs'.ctl, hs'.fleet, hs'.calls⟩
  · exact ⟨fun _ _ => ⟨hs'.ctl, hs'.fleet, hs'.calls⟩, nofun⟩

/-- The state in which the tools are about to be replaced: kafka_sink can take a new list, and
nothing else has changed. -/
structure Quiesced (s s' : NodeState World) : Prop where
  ctl : s'.ctl = s.ctl
  toolbox : s'.toolbox = s.toolbox
  kafka : s'.env.fleet.kafka = s.env.fleet.kafka.quiesced
  mosquitto : s'.env.fleet.mosquitto = s.env.fleet.mosquitto
  unloads : Unloads s.ctl.trackedIds s.env.fleet.KafkaQuiet s s'
  unloadCount : s'.env.count .unloadNode = s.env.count .unloadNode
  kafkaCount : s'.env.count (.setParameters .kafka) = s.env.count (.setParameters .kafka)
  mosquittoCount : ∀ service, service.IsOf .mosquitto →
    s'.env.count service = s.env.count service

/-- The state in which the sinks are about to be restarted: the tools are in place, and
kafka_sink can take its new list. -/
structure Reconciled (cfg : Setting) (plan : TopicToolsPlan) (s s' : NodeState World) : Prop where
  toolbox : s'.toolbox = s.toolbox.clear.loadAll cfg plan.tools
  applied : s'.ctl.appliedSelection = s.ctl.appliedSelection
  kafka : s'.env.fleet.kafka = s.env.fleet.kafka.quiesced
  mosquitto : s'.env.fleet.mosquitto = s.env.fleet.mosquitto
  unloads : Unloads s.ctl.trackedIds s.env.fleet.KafkaQuiet s s'
  kafkaCount : s'.env.count (.setParameters .kafka) = s.env.count (.setParameters .kafka)
  mosquittoCount : ∀ service, service.IsOf .mosquitto →
    s'.env.count service = s.env.count service

private theorem not_isPreparation_unloadNode : ¬Service.IsPreparation .unloadNode := by
  simp [Service.IsPreparation, Service.IsDiscovery]

private theorem not_isPreparation_setParameters {sink : Sink} :
    ¬Service.IsPreparation (.setParameters sink) := by
  simp [Service.IsPreparation, Service.IsDiscovery]

private theorem not_isContainer_setParameters {sink : Sink} :
    ¬Service.IsContainer (.setParameters sink) := by
  simp [Service.IsContainer]

/-- The services of mosquitto_sink are called by no step before its own. -/
private theorem Service.IsOf.mosquitto_apart {service : Service} (h : service.IsOf .mosquitto) :
    ¬service.IsPreparation ∧ ¬service.IsOf .kafka ∧ ¬service.IsContainer := by
  rcases h with rfl | rfl | rfl <;>
    simp [Service.IsPreparation, Service.IsDiscovery, Service.IsOf, Service.IsContainer]

/-- Bringing kafka_sink out of the way, after nothing but queries. -/
private theorem quiesce_spec {s₀ : NodeState World}
    (hquiet : Quiet Service.IsPreparation s₀ s) :
    wp (quiesceSink cfg.params (cfg.environment pattern) .kafka s₀.env.fleet.kafka.state.primary)
      (fun _ s' => Quiesced s₀ s')
      (fun _ s' => Unloads s₀.ctl.trackedIds s₀.env.fleet.KafkaQuiet s₀ s' ∧
        s'.ctl.appliedSelection = s₀.ctl.appliedSelection ∧
        ApplyFailed cfg pattern topics s₀ s') s := by
  have hcount : ∀ service, ¬service.IsPreparation →
      s.env.count service = s₀.env.count service := fun service => hquiet.calls.count_eq
  have hunloads : Unloads s₀.ctl.trackedIds s₀.env.fleet.KafkaQuiet s₀ s :=
    hquiet.calls.unloads not_isPreparation_unloadNode
  have htoolbox : s.toolbox = s₀.toolbox :=
    NodeState.toolbox_congr (by rw [hquiet.ctl]) (by rw [hquiet.fleet])
  have hmosquitto : ∀ s', Touches .kafka s s' →
      s'.env.fleet.mosquitto = s₀.env.fleet.mosquitto := fun s' htouches => by
    rw [← hquiet.fleet]
    exact htouches.others .mosquitto (by decide)
  refine wp_mono (quiesceSink_spec rfl (by rw [hquiet.fleet]; rfl)) (fun _ s' hs' => ?_)
    fun _ s' hs' => ?_
  · obtain ⟨htouches, hnode, hparameters⟩ := hs'
    refine ⟨?_, ?_, ?_, ?_, ?_, ?_, ?_, fun service hservice => ?_⟩
    · rw [htouches.ctl, hquiet.ctl]
    · rw [htouches.toolbox, htoolbox]
    · rw [← hquiet.fleet]
      exact hnode
    · exact hmosquitto s' htouches
    · exact hunloads.trans htouches.unloads
    · rw [htouches.calls.count_eq (by simp [Service.IsOf]), hcount _ not_isPreparation_unloadNode]
    · rw [hparameters, hcount _ not_isPreparation_setParameters]
    · obtain ⟨hpreparation, hkafka, -⟩ := hservice.mosquitto_apart
      rw [htouches.calls.count_eq hkafka, hcount _ hpreparation]
  · obtain ⟨htouches, hkafka, hwhy⟩ := hs'
    refine ⟨hunloads.trans htouches.unloads, by rw [htouches.ctl, hquiet.ctl], ?_⟩
    refine .quiesce (htouches.toolbox.trans htoolbox) (fun hactive => ?_) (hmosquitto s' htouches)
      hwhy
    rw [← hquiet.fleet]
    exact hkafka hactive

/-- Replacing the tools, with kafka_sink out of the way. -/
private theorem reconcile_spec {s₀ : NodeState World}
    (hplanned : s₀.planned cfg pattern topics = .ok (validated, plan)) (h : Quiesced s₀ s) :
    wp (reconcileTopicTools cfg.params (cfg.environment pattern) plan)
      (fun _ s' => Reconciled cfg plan s₀ s')
      (fun _ s' => Unloads s₀.ctl.trackedIds s₀.env.fleet.KafkaQuiet s₀ s' ∧
        s'.ctl.appliedSelection = s₀.ctl.appliedSelection ∧
        ApplyFailed cfg pattern topics s₀ s') s := by
  -- every unload request is made in a fleet with the sinks of `s`
  have hquiet : ∀ fleet : Fleet, (∀ sink, fleet.sink sink = s.env.fleet.sink sink) →
      s₀.env.fleet.KafkaQuiet fleet := fun fleet hsinks => by
    refine ⟨?_, (hsinks .mosquitto).trans h.mosquitto⟩
    rw [show fleet.kafka = s₀.env.fleet.kafka.quiesced from (hsinks .kafka).trans h.kafka]
    exact SinkNode.not_isActive_quiesced
  refine wp_mono reconcileTopicTools_spec (fun _ s' hs' => ?_) fun _ s' hs' => ?_
  · obtain ⟨htouches, htoolbox⟩ := hs'
    rw [h.ctl] at htouches
    refine ⟨?_, ?_, ?_, ?_, ?_, ?_, fun service hservice => ?_⟩
    · rw [htoolbox, h.toolbox]
    · rw [htouches.ctl, h.ctl]
    · rw [← h.kafka]
      exact htouches.sinks .kafka
    · rw [← h.mosquitto]
      exact htouches.sinks .mosquitto
    · exact h.unloads.trans (htouches.unloads hquiet)
    · rw [htouches.calls.count_eq not_isContainer_setParameters, h.kafkaCount]
    · obtain ⟨-, -, hcontainer⟩ := hservice.mosquitto_apart
      rw [htouches.calls.count_eq hcontainer, h.mosquittoCount service hservice]
  · obtain ⟨htouches, hfailed⟩ := hs'
    rw [h.ctl] at htouches
    rw [h.unloadCount, h.toolbox] at hfailed
    refine ⟨h.unloads.trans (htouches.unloads hquiet), ?_, ?_⟩
    · rw [htouches.ctl, h.ctl]
    · obtain ⟨hkafka, hmosquitto⟩ := hquiet s'.env.fleet htouches.sinks
      exact .reconcile validated plan hplanned hfailed hkafka hmosquitto

/-- The last two steps: mosquitto_sink and the record. -/
private theorem finish_spec {s₀ : NodeState World}
    (hplanned : s₀.planned cfg pattern topics = .ok (validated, plan))
    (htoolbox : s.toolbox = s₀.toolbox.clear.loadAll cfg plan.tools)
    (happlied : s.ctl.appliedSelection = s₀.ctl.appliedSelection)
    (hkafka : Restarted cfg pattern .kafka plan.sinkTopics s₀ s)
    (hmosquitto : s.env.fleet.mosquitto = s₀.env.fleet.mosquitto)
    (hcount : ∀ service, service.IsOf .mosquitto → s.env.count service = s₀.env.count service)
    (hunloads : Unloads s₀.ctl.trackedIds s₀.env.fleet.KafkaQuiet s₀ s) :
    wp (do
        applySelectionToSink cfg.params (cfg.environment pattern) .mosquitto plan.sinkTopics
        recordApplied cfg.params (cfg.environment pattern) validated plan)
      (fun _ s' => Unloads s₀.ctl.trackedIds s₀.env.fleet.KafkaQuiet s₀ s' ∧
        Applied cfg pattern validated plan s₀ s')
      (fun _ s' => Unloads s₀.ctl.trackedIds s₀.env.fleet.KafkaQuiet s₀ s' ∧
        s'.ctl.appliedSelection = s₀.ctl.appliedSelection ∧
        ApplyFailed cfg pattern topics s₀ s') s := by
  have hnext : ∀ service, service.IsOf .mosquitto →
      s.next pattern service = s₀.next pattern service := fun service hservice => by
    rw [NodeState.next, World.next, hcount service hservice]
    rfl
  have hreaches : s.Reaches cfg pattern .mosquitto ↔ s₀.Reaches cfg pattern .mosquitto := by
    rw [NodeState.Reaches, hnext _ (.inl rfl)]
    rfl
  -- kafka_sink is not touched any more
  have hkafka' : ∀ s', s'.env.fleet.kafka = s.env.fleet.kafka →
      Restarted cfg pattern .kafka plan.sinkTopics s₀ s' := fun s' hs' => by
    unfold Restarted
    rw [show s'.env.fleet.sink .kafka = s.env.fleet.sink .kafka from hs']
    exact hkafka
  rw [wp_bind]
  refine wp_mono applySelectionToSink_spec (fun _ s₁ hs₁ => ?_) fun _ s₁ hs₁ => ?_
  · obtain ⟨htouches, hskipped, hrestarted⟩ := hs₁
    refine wp_mono recordApplied_spec (fun _ s₂ hs₂ => ?_) fun _ _ h => h.elim
    obtain ⟨hctl, hfleet, hcalls⟩ := hs₂
    refine ⟨(hunloads.trans htouches.unloads).trans (hcalls.unloads ?_), ?_, ?_, ?_, ?_, ?_⟩
    · simp [Service.IsDiscovery]
    · rw [← htoolbox, ← htouches.toolbox]
      exact NodeState.toolbox_congr (by rw [hctl]) (by rw [hfleet])
    · exact hkafka' s₂ (by rw [hfleet]; exact htouches.others .kafka (by decide))
    · intro hreach
      have hsame : s₁.env.fleet.mosquitto = s.env.fleet.mosquitto :=
        hskipped (mt hreaches.mp hreach)
      rw [hfleet, hsame, hmosquitto]
    · intro hreach
      have hsink : s.env.fleet.sink .mosquitto = s₀.env.fleet.sink .mosquitto := hmosquitto
      have h := hrestarted (hreaches.mpr hreach)
      unfold Restarted at h ⊢
      rwa [hsink, hnext _ (.inr (.inr rfl)), ← hfleet] at h
    · rw [hctl]
  · obtain ⟨htouches, hwhy⟩ := hs₁
    refine ⟨hunloads.trans htouches.unloads, by rw [htouches.ctl, happlied], ?_⟩
    refine .mosquitto validated plan hplanned ?_ (hkafka' s₁ (htouches.others .kafka (by decide)))
      fun hserves => ?_
    · rw [htouches.toolbox, htoolbox]
    · rw [← hmosquitto]
      exact hwhy hserves

/-- The steps after the tools are in place. -/
private theorem restart_spec {s₀ : NodeState World}
    (hplanned : s₀.planned cfg pattern topics = .ok (validated, plan))
    (h : Reconciled cfg plan s₀ s) :
    wp (do
        setSinkSubscriptionsYaml cfg.params (cfg.environment pattern) .kafka plan.sinkTopics
        changeSinkState cfg.params (cfg.environment pattern) .kafka .activate
        applySelectionToSink cfg.params (cfg.environment pattern) .mosquitto plan.sinkTopics
        recordApplied cfg.params (cfg.environment pattern) validated plan)
      (fun _ s' => Unloads s₀.ctl.trackedIds s₀.env.fleet.KafkaQuiet s₀ s' ∧
        Applied cfg pattern validated plan s₀ s')
      (fun _ s' => Unloads s₀.ctl.trackedIds s₀.env.fleet.KafkaQuiet s₀ s' ∧
        s'.ctl.appliedSelection = s₀.ctl.appliedSelection ∧
        ApplyFailed cfg pattern topics s₀ s') s := by
  have hactive : ¬s.env.fleet.kafka.IsActive := by
    rw [h.kafka]
    exact SinkNode.not_isActive_quiesced
  have hnext : s.next pattern (.setParameters .kafka) =
      s₀.next pattern (.setParameters .kafka) := by
    rw [NodeState.next, World.next, h.kafkaCount]
    rfl
  -- what a failure of either of the two kafka requests leaves behind
  have hfailed : ∀ s', Touches .kafka s s' →
      (pattern.NeverLate (.changeState .kafka) → ¬s'.env.fleet.kafka.IsActive) →
      (pattern.Serves .kafka → s₀.env.fleet.kafka.state = .finalized) →
      Unloads s₀.ctl.trackedIds s₀.env.fleet.KafkaQuiet s₀ s' ∧
        s'.ctl.appliedSelection = s₀.ctl.appliedSelection ∧
        ApplyFailed cfg pattern topics s₀ s' := by
    intro s' htouches hkafka hwhy
    refine ⟨h.unloads.trans htouches.unloads, by rw [htouches.ctl, h.applied], ?_⟩
    refine .restart validated plan hplanned ?_ hkafka ?_ hwhy
    · rw [htouches.toolbox, h.toolbox]
    · exact (htouches.others .mosquitto (by decide)).trans h.mosquitto
  rw [wp_bind]
  refine wp_mono (setSinkSubscriptionsYaml_spec rfl hactive) (fun _ s₁ hs₁ => ?_)
    fun _ s₁ hs₁ => hfailed s₁ hs₁.1 (fun _ => hs₁.2.1) fun hserves => absurd hserves hs₁.2.2
  obtain ⟨htouches₁, hnode₁⟩ := hs₁
  have hstate₁ : s₁.env.fleet.kafka.state = s.env.fleet.kafka.state := by
    rcases hnode₁ with ⟨hnode₁, -⟩ | ⟨hnode₁, -⟩ <;>
      exact (congrArg SinkNode.state hnode₁ :)
  rw [wp_bind]
  refine wp_mono (activate_spec rfl) (fun _ s₂ hs₂ => ?_) fun _ s₂ hs₂ => ?_
  · obtain ⟨htouches₂, hnode₂⟩ := hs₂
    have htouches := htouches₁.trans htouches₂
    -- mosquitto_sink is as it was before kafka_sink was restarted
    refine finish_spec hplanned ?_ ?_ ?_ ?_ (fun service hservice => ?_)
      (h.unloads.trans htouches.unloads)
    · rw [htouches.toolbox, h.toolbox]
    · rw [htouches.ctl, h.applied]
    · have hsubs : s.env.fleet.kafka.subscriptions = s₀.env.fleet.kafka.subscriptions := by
        rw [h.kafka, SinkNode.subscriptions_quiesced]
      rcases hnode₁ with ⟨hnode₁, hanswered⟩ | ⟨hnode₁, hunavailable, hallow⟩
      · exact .inl ⟨by rw [hnode₂, hnode₁], hnext ▸ hanswered⟩
      · exact .inr ⟨by rw [hnode₂, hnode₁]; exact congrArg _ hsubs, hnext ▸ hunavailable, hallow⟩
    · exact (htouches.others .mosquitto (by decide)).trans h.mosquitto
    · rw [htouches.calls.count_eq hservice.mosquitto_apart.2.1, h.mosquittoCount service hservice]
  · refine hfailed s₂ (htouches₁.trans hs₂.1) (fun hnever => ?_) fun hserves => ?_
    · have hsame : s₂.env.fleet.kafka = s₁.env.fleet.kafka := hs₂.2.1 hnever
      rw [hsame, SinkNode.isActive_iff, hstate₁, ← SinkNode.isActive_iff]
      exact hactive
    · have hstate := hs₂.2.2 hserves
      rw [show (s₁.env.fleet.sink .kafka).state = _ from hstate₁, h.kafka] at hstate
      by_contra hfinal
      exact hstate (by rw [SinkNode.quiesced, if_neg hfinal])

/-- `apply_selection` ends `Applied`, or `ApplyFailed` with the recorded selection as it was;
either way it unloads while kafka_sink is not active. -/
theorem applySelection_spec :
    wp (applySelection cfg.params (cfg.environment pattern) topics)
      (fun _ s' => Unloads s.ctl.trackedIds s.env.fleet.KafkaQuiet s s' ∧
        topics ≠ [] ∧ ∃ validated plan, s.planned cfg pattern topics = .ok (validated, plan) ∧
          Applied cfg pattern validated plan s s')
      (fun _ s' => Unloads s.ctl.trackedIds s.env.fleet.KafkaQuiet s s' ∧
        s'.ctl.appliedSelection = s.ctl.appliedSelection ∧
        ApplyFailed cfg pattern topics s s') s := by
  rw [applySelection, wp_bind]
  refine wp_prepareSelection (fun validated plan s₁ hquiet hne hplanned => ?_)
    fun message s₁ hquiet hwhy => ?_
  · -- prepared, then quiesced, reconciled and restarted
    dsimp only
    rw [wp_bind]
    refine wp_mono (quiesce_spec hquiet) (fun _ s₂ hquiesced => ?_) fun _ _ h => h
    rw [wp_bind]
    refine wp_mono (reconcile_spec hplanned hquiesced) (fun _ s₃ hreconciled => ?_) fun _ _ h => h
    refine wp_mono (restart_spec hplanned hreconciled) (fun _ s' hs' => ?_) fun _ _ h => h
    obtain ⟨hunloads, happlied⟩ := hs'
    exact ⟨hunloads, hne, validated, plan, hplanned, happlied⟩
  · refine ⟨hquiet.calls.unloads not_isPreparation_unloadNode, by rw [hquiet.ctl], ?_⟩
    exact .prepare hquiet.ctl hquiet.fleet fun hall hne => ⟨message, hwhy hall hne⟩

/-- The toolbox a failed `apply_selection` leaves. -/
theorem ApplyFailed.toolbox_cases (h : ApplyFailed cfg pattern topics s s') :
    s'.toolbox = s.toolbox ∨
      ∃ plan : TopicToolsPlan, plan.tools.map (·.inputTopic) = enabledTopics topics ∧
        (ReconcileFailed cfg pattern (s.env.count .unloadNode) s.toolbox plan.tools s'.toolbox ∨
          s'.toolbox = s.toolbox.clear.loadAll cfg plan.tools) := by
  cases h with
  | prepare ctl fleet => exact .inl (NodeState.toolbox_congr (by rw [ctl]) (by rw [fleet]))
  | quiesce toolbox => exact .inl toolbox
  | reconcile validated plan planned toolbox =>
    exact .inr ⟨plan, planSelection_tools planned, .inl toolbox⟩
  | restart validated plan planned toolbox =>
    exact .inr ⟨plan, planSelection_tools planned, .inr toolbox⟩
  | mosquitto validated plan planned toolbox =>
    exact .inr ⟨plan, planSelection_tools planned, .inr toolbox⟩

end Ros2Dispatcher
