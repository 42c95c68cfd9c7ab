import Ros2Dispatcher.Fleet.Applying
import Ros2Dispatcher.Fleet.Operations
import Ros2Dispatcher.Fleet.Stopping

/-!
# What the controller reports and what the sinks do

Three relations between the controller's answers and the fleet.

* `success_runs_plan_iff`: after a successful `apply_selection` the sinks run with the
  planned topics exactly when each of them took the list. A sink whose parameter service is
  not found is passed over where missing sinks are allowed, and is then activated with the
  list it had accepted before.
* `kafka_runs_applied_topics`: over whole runs, an active kafka_sink runs with the recorded
  topics, or the phase is `ERROR`.
* `stop_success_halts`: a successful stop leaves no sink active that answered.
-/

namespace Ros2Dispatcher

open Procedure

variable {cfg : Setting} {pattern : Pattern} {s s' : NodeState World}
variable {topics : List TopicSelection}

/-! ### A successful `apply_selection` -/

/-- A sink takes the list `subs` from `s` on: its parameter service is found, or `subs` is
the list it has already. -/
def NodeState.Takes (s : NodeState World) (pattern : Pattern) (sink : Sink)
    (subs : List TopicInfo) : Prop :=
  s.next pattern (.setParameters sink) ≠ .unavailable ∨
    (s.env.fleet.sink sink).subscriptions = subs

/-- A restarted sink runs with the new list exactly when it takes it. -/
theorem Restarted.runs_iff {sink : Sink} {subs : List TopicInfo}
    (h : Restarted cfg pattern sink subs s s') :
    (s'.env.fleet.sink sink).state = .active subs ↔ s.Takes pattern sink subs := by
  rcases h with ⟨hnode, hanswered⟩ | ⟨hnode, hunavailable, -⟩
  · have htakes : s.Takes pattern sink subs := .inl (by rw [hanswered]; exact nofun)
    rw [hnode]
    exact iff_of_true rfl htakes
  · rw [hnode, SinkNode.running, SinkState.active.injEq, NodeState.Takes, hunavailable]
    simp

/-- **A reported success is a real success** exactly when kafka_sink, and mosquitto_sink if
it is configured and its state query is answered, take the planned list. -/
theorem success_runs_plan_iff
    (hok : applySelection cfg.params (cfg.environment pattern) topics s = .ok ⟨⟩ s') :
    ∃ validated plan, s.planned cfg pattern topics = .ok (validated, plan) ∧
      s'.ctl.appliedSelection = ⟨validated, plan.sinkTopics, pattern.stamp⟩ ∧
      ((s'.env.fleet.kafka.state = .active plan.sinkTopics ∧
          (s.Reaches cfg pattern .mosquitto →
            s'.env.fleet.mosquitto.state = .active plan.sinkTopics)) ↔
        s.Takes pattern .kafka plan.sinkTopics ∧
          (s.Reaches cfg pattern .mosquitto → s.Takes pattern .mosquitto plan.sinkTopics)) := by
  obtain ⟨-, -, validated, plan, hplanned, happlied⟩ := of_wp_ok applySelection_spec hok
  refine ⟨validated, plan, hplanned, happlied.applied, ?_⟩
  refine and_congr happlied.kafka.runs_iff (forall_congr' fun hreach => ?_)
  exact (happlied.mosquitto hreach).runs_iff

/-- kafka_sink runs with `running`, mosquitto_sink has just been started. -/
def NodeState.streaming (running : List TopicInfo) : NodeState World :=
  ⟨{}, ⟨{ Fleet.fresh with kafka := .running running }, []⟩⟩

/-- With everything answered, a new selection replaces the list kafka_sink runs with. -/
theorem success_runs_plan_answered :
    ∃ s', applySelection Setting.default.params (Setting.default.environment {})
        [{ topic := ⟨"/b", "T"⟩ }] (.streaming [⟨"/a", "T"⟩]) = .ok ⟨⟩ s' ∧
      s'.env.fleet.kafka.state = .active [⟨"/b", "T"⟩] := by
  obtain ⟨s', hs'⟩ := Option.isSome_iff_exists.mp (show (returned
    (applySelection Setting.default.params (Setting.default.environment {})
      [{ topic := ⟨"/b", "T"⟩ }]) (.streaming [⟨"/a", "T"⟩])).isSome = true by decide +kernel)
  have hok := returned_eq_some.mp hs'
  obtain ⟨validated, plan, hplanned, -, hiff⟩ := success_runs_plan_iff hok
  have hplan : (NodeState.streaming [⟨"/a", "T"⟩]).planned Setting.default {}
      [{ topic := ⟨"/b", "T"⟩ }] =
        .ok ([{ topic := ⟨"/b", "T"⟩ }], ⟨[], [⟨"/b", "T"⟩]⟩) := by decide +kernel
  rw [hplanned, Except.ok.injEq, Prod.mk.injEq] at hplan
  have hruns := (hiff.mpr ⟨.inl nofun, fun _ => .inl nofun⟩).1
  rw [hplan.2] at hruns
  exact ⟨s', hok, hruns⟩

/-- Where kafka_sink's parameter service is not found, `apply_selection` succeeds, and
kafka_sink runs with the old list while the new one is recorded. -/
theorem skipped_parameters_keep_old_list :
    ∃ s' validated plan, applySelection Setting.default.params
        (Setting.default.environment (.only (.setParameters .kafka) .unavailable))
        [{ topic := ⟨"/b", "T"⟩ }] (.streaming [⟨"/a", "T"⟩]) = .ok ⟨⟩ s' ∧
      (NodeState.streaming [⟨"/a", "T"⟩]).planned Setting.default
        (.only (.setParameters .kafka) .unavailable) [{ topic := ⟨"/b", "T"⟩ }] =
          .ok (validated, plan) ∧
      s'.env.fleet.kafka.state = .active [⟨"/a", "T"⟩] ∧
      s'.ctl.appliedSelection.sinkTopics = [⟨"/b", "T"⟩] ∧
      s'.env.fleet.kafka.state ≠ .active plan.sinkTopics := by
  obtain ⟨s', hs', hend⟩ := Option.map_eq_some_iff.mp (show (returned
    (applySelection Setting.default.params
      (Setting.default.environment (.only (.setParameters .kafka) .unavailable))
      [{ topic := ⟨"/b", "T"⟩ }]) (.streaming [⟨"/a", "T"⟩])).map
        (fun s' => (s'.env.fleet.kafka.state, s'.ctl.appliedSelection.sinkTopics)) =
      some (.active [⟨"/a", "T"⟩], [⟨"/b", "T"⟩]) by decide +kernel)
  rw [Prod.mk.injEq] at hend
  refine ⟨s', [{ topic := ⟨"/b", "T"⟩ }], ⟨[], [⟨"/b", "T"⟩]⟩, returned_eq_some.mp hs',
    by decide +kernel, hend.1, hend.2, ?_⟩
  rw [hend.1]
  decide

/-! ### The status between operations -/

/-- If kafka_sink is active, it runs with the topics `get_status` reports as applied. -/
def KafkaReported (pipeline : Pipeline) (fleet : Fleet) : Prop :=
  ∀ running, fleet.kafka.state = .active running →
    running = pipeline.appliedSelection.sinkTopics

/-- kafka_sink is not passed over in this round: where missing sinks are allowed, its
parameter service is found, and a stop gets an answer about its state. No transition of
kafka_sink that times out has an effect. -/
structure Round.AttendsKafka (cfg : Setting) (round : Round) : Prop where
  onTime : round.pattern.NeverLate (.changeState .kafka)
  parameters : cfg.params.allowMissingSinks = true →
    round.pattern.outcome (.setParameters .kafka) 0 ≠ .unavailable
  stop : (∃ reset, round.operation = .stopStreaming reset) →
    (cfg.params.sinkNodeName .kafka).isEmpty = false ∧
      (cfg.params.allowMissingSinks = true →
        (round.pattern.outcome (.getState .kafka) 0).replies = true)

theorem KafkaReported.of_not_active {pipeline : Pipeline} {fleet : Fleet}
    (h : ¬fleet.kafka.IsActive) : KafkaReported pipeline fleet :=
  fun running hrunning => absurd ⟨running, hrunning⟩ h

/-- An active kafka_sink that did not change is reported if it was, by the same record. -/
theorem KafkaReported.of_active_imp {pipeline pipeline' : Pipeline} {fleet fleet' : Fleet}
    (h : KafkaReported pipeline fleet)
    (hkafka : fleet'.kafka.IsActive → fleet'.kafka = fleet.kafka)
    (happlied : pipeline'.appliedSelection = pipeline.appliedSelection) :
    KafkaReported pipeline' fleet' := fun running hrunning => by
  rw [happlied]
  exact h running (by rw [← hkafka ⟨running, hrunning⟩, hrunning])

variable {op : Operation} {ctl : Controller} {fleet : Fleet}

/-- The next request to a service that is not asked before a selection is applied is its
first. -/
private theorem next_eq_first {service : Service} (hservice : ¬service.IsDiscovery)
    (hlog : ∀ event ∈ s.env.log, event.rpc.service.IsDiscovery) :
    s.next pattern service = pattern.outcome service 0 := by
  rw [NodeState.next, World.next, NodeState.count_of_discovery hlog hservice]

/-- A sink that was restarted, halted or left alone is not finalized if it was not. -/
private theorem Restarted.not_finalized {sink : Sink} {subs : List TopicInfo}
    (h : Restarted cfg pattern sink subs s s') : (s'.env.fleet.sink sink).state ≠ .finalized := by
  rcases h with ⟨h, -⟩ | ⟨h, -⟩ <;> rw [h] <;> simp [SinkNode.running]

private theorem Halted.not_finalized {sink : Sink} (h : Halted cfg pattern sink s s')
    (hstate : (s.env.fleet.sink sink).state ≠ .finalized) :
    (s'.env.fleet.sink sink).state ≠ .finalized := by
  rcases h with h | ⟨h, -⟩
  · rw [h, SinkNode.stopped]
    split
    · simp
    · exact hstate
  · rwa [h]

/-- A successful `apply_selection` records what kafka_sink runs with, if its parameter
service was not passed over. -/
private theorem Applied.reported {validated : List TopicSelection} {plan : TopicToolsPlan}
    (h : Applied cfg pattern validated plan s s')
    (hparameters : cfg.params.allowMissingSinks = true →
      s.next pattern (.setParameters .kafka) ≠ .unavailable) :
    KafkaReported s'.ctl.toPipeline s'.env.fleet := fun running hrunning => by
  rcases h.kafka with ⟨hnode, -⟩ | ⟨-, hunavailable, hallow⟩
  · rw [show s'.env.fleet.kafka = .running plan.sinkTopics from hnode] at hrunning
    rw [h.applied]
    exact (SinkState.active.inj hrunning).symm
  · exact absurd hunavailable (hparameters hallow)

/-- A failed `apply_selection` leaves kafka_sink reported, unless it was mosquitto_sink that
failed. -/
private theorem ApplyFailed.reported (h : ApplyFailed cfg pattern topics s s')
    (happlied : s'.ctl.appliedSelection = s.ctl.appliedSelection)
    (hnever : pattern.NeverLate (.changeState .kafka)) (hserves : pattern.Serves .mosquitto)
    (hstate : s.env.fleet.mosquitto.state ≠ .finalized)
    (hreported : KafkaReported s.ctl.toPipeline s.env.fleet) :
    KafkaReported s'.ctl.toPipeline s'.env.fleet ∧ s'.env.fleet.mosquitto.state ≠ .finalized := by
  cases h with
  | prepare ctl fleet =>
    exact ⟨hreported.of_active_imp (fun _ => by rw [fleet]) happlied, by rw [fleet]; exact hstate⟩
  | quiesce toolbox kafka mosquitto =>
    exact ⟨hreported.of_active_imp kafka happlied, by rw [mosquitto]; exact hstate⟩
  | reconcile validated plan planned toolbox kafka mosquitto =>
    exact ⟨.of_not_active kafka, by rw [mosquitto]; exact hstate⟩
  | restart validated plan planned toolbox kafka mosquitto =>
    exact ⟨.of_not_active (kafka hnever), by rw [mosquitto]; exact hstate⟩
  | mosquitto validated plan planned toolbox kafka why => exact absurd (why hserves) hstate

/-- After a successful stop kafka_sink is not active, if it was not passed over. -/
private theorem Halted.kafka_not_active {sys : System}
    (h : Halted cfg pattern .kafka sys.start s')
    (hname : (cfg.params.sinkNodeName .kafka).isEmpty = false)
    (hreply : cfg.params.allowMissingSinks = true →
      (pattern.outcome (.getState .kafka) 0).replies = true) : ¬s'.env.fleet.kafka.IsActive := by
  rcases h with h | ⟨-, hreach, hname' | hallow⟩
  · rw [show s'.env.fleet.kafka = _ from h]
    exact SinkNode.not_isActive_stopped
  · rw [hname] at hname'
    cases hname'
  · exact absurd ⟨hname, hreply hallow⟩ hreach

/-- A round in which kafka_sink is attended to ends with kafka_sink reported, or in the
phase `ERROR`. -/
private theorem establishes_reported_or_error {round : Round} {sys : System}
    (hround : round.AttendsKafka cfg)
    (hreported : KafkaReported sys.ctl.toPipeline sys.fleet ∨ sys.ctl.phase = .error) :
    Establishes cfg round.pattern round.operation sys.ctl sys.fleet fun pipeline world =>
      KafkaReported pipeline world.fleet ∨ pipeline.phase = .error where
  rest _ _ := hreported
  apply selection s _ _ _ _ hlog := by
    refine wp_mono applySelection_spec (fun _ s' hs' => ?_) fun _ s' _ => .inr rfl
    obtain ⟨-, -, validated, plan, -, happlied⟩ := hs'
    refine .inl (happlied.reported fun hallow => ?_)
    rw [next_eq_first (by simp [Service.IsDiscovery]) hlog]
    exact hround.parameters hallow
  stop hstop := by
    refine wp_mono stopPipeline_spec (fun _ s' hs' => ?_) fun _ s' _ => .inr rfl
    obtain ⟨hname, hreply⟩ := hround.stop hstop
    exact .inl (.of_not_active (Halted.kafka_not_active (hs'.2.2.2 .kafka) hname hreply))

/-- With every request to mosquitto_sink answered, such a round ends with kafka_sink
reported whether it succeeds or fails. -/
private theorem establishes_reported {round : Round} {sys : System}
    (hround : round.AttendsKafka cfg) (hserves : round.pattern.Serves .mosquitto)
    (hreported : KafkaReported sys.ctl.toPipeline sys.fleet)
    (hstate : sys.fleet.mosquitto.state ≠ .finalized) :
    Establishes cfg round.pattern round.operation sys.ctl sys.fleet fun pipeline world =>
      KafkaReported pipeline world.fleet ∧ world.fleet.mosquitto.state ≠ .finalized where
  rest _ _ := ⟨hreported, hstate⟩
  apply selection s _ _ hpipeline hfleet hlog := by
    have hreported' : KafkaReported s.ctl.toPipeline s.env.fleet := by
      rw [hpipeline, hfleet]
      exact hreported
    have hstate' : s.env.fleet.mosquitto.state ≠ .finalized := by
      rw [hfleet]
      exact hstate
    refine wp_mono applySelection_spec (fun _ s' hs' => ?_) fun _ s' hs' => ?_
    · obtain ⟨-, -, validated, plan, -, happlied⟩ := hs'
      refine ⟨happlied.reported fun hallow => ?_, ?_⟩
      · rw [next_eq_first (by simp [Service.IsDiscovery]) hlog]
        exact hround.parameters hallow
      · by_cases hreach : s.Reaches cfg round.pattern .mosquitto
        · exact (happlied.mosquitto hreach).not_finalized
        · rw [happlied.skipped hreach]
          exact hstate'
    · obtain ⟨-, happlied, hfailed⟩ := hs'
      exact hfailed.reported happlied hround.onTime hserves hstate' hreported'
  stop hstop := by
    refine wp_mono stopPipeline_spec (fun _ s' hs' => ?_) fun _ s' hs' => ?_
    · obtain ⟨hname, hreply⟩ := hround.stop hstop
      have hhalted := hs'.2.2.2
      exact ⟨.of_not_active (Halted.kafka_not_active (hhalted .kafka) hname hreply),
        (hhalted .mosquitto).not_finalized hstate⟩
    · obtain ⟨-, happlied, hfailed⟩ := hs'
      cases hfailed with
      | sink sink toolbox kafka mosquitto =>
        exact ⟨hreported.of_active_imp kafka happlied, by rw [mosquitto hserves]; exact hstate⟩
      | clear done tool rest tools toolbox halted =>
        exact ⟨hreported.of_active_imp (halted .kafka).isActive_imp happlied,
          (halted .mosquitto).not_finalized hstate⟩

/-- Every round records as many sink topics as entries. -/
private theorem establishes_lengths
    (hlength : ctl.appliedSelection.sinkTopics.length = ctl.appliedSelection.topics.length) :
    Establishes cfg pattern op ctl fleet fun pipeline _ =>
      pipeline.appliedSelection.sinkTopics.length = pipeline.appliedSelection.topics.length where
  rest _ _ := hlength
  apply selection s _ _ hpipeline _ _ := by
    refine wp_mono applySelection_spec (fun _ s' hs' => ?_) fun _ s' hs' => ?_
    · obtain ⟨-, -, validated, plan, hplanned, happlied⟩ := hs'
      rw [happlied.applied]
      exact (buildTopicToolsPlan_ok (planSelection_ok hplanned).2).2
    · rw [hs'.2.1, hpipeline]
      exact hlength
  stop _ := by
    refine wp_mono stopPipeline_spec (fun _ s' hs' => rfl) fun _ s' hs' => ?_
    rw [hs'.2.1]
    exact hlength

/-- `get_status` always answers, with the topics of the record. -/
theorem Setting.getStatus_spec (cfg : Setting) (pattern : Pattern) (sys : System) :
    ∃ status, cfg.answer sys ⟨.getStatus, pattern⟩ = some (.status status) ∧
      status.appliedTopics = sys.ctl.appliedTopics := by
  have hquery : ∀ sink, Keeps (fun _ => False) (fun s : NodeState World => s.ctl = sys.ctl)
      (getSinkState cfg.params (cfg.environment pattern) sink) := by
    intro sink s hs
    by_cases hclients : cfg.params.hasClients sink = true
    · exact wp_getSinkState hclients (fun _ _ _ => hs) fun _ _ _ => hs
    · rw [getSinkState, if_neg hclients]
      exact hs
  have hspec : wp (handleGetStatus cfg.params (cfg.environment pattern))
      (fun status _ => status.appliedTopics = sys.ctl.appliedTopics) (fun _ _ => False)
      sys.start := by
    rw [handleGetStatus, wp_bind]
    refine wp_mono (hquery .kafka sys.start rfl) (fun _ s₁ hs₁ => ?_) fun _ _ h => h.1
    rw [wp_bind]
    refine wp_mono (Keeps.ite .pure (hquery .mosquitto) s₁ hs₁) (fun _ s₂ hs₂ => ?_)
      fun _ _ h => h.1
    rw [wp_bind, wp_members, wp_pure]
    exact congrArg (fun ctl : Controller => ctl.appliedTopics) hs₂
  cases hresult : handleGetStatus cfg.params (cfg.environment pattern) sys.start with
  | ok status s' =>
    have hstatus := of_wp_ok hspec hresult
    refine ⟨status, ?_, hstatus⟩
    simp [Setting.answer, Setting.perform, Operation.run, Functor.map, EStateM.map, hresult]
  | error failure s' => exact (of_wp_error hspec hresult).elim

/-- **The status and kafka_sink.** In every run that attends to kafka_sink, an active
kafka_sink runs with the recorded topics, which `get_status` reports, or the phase is
`ERROR`; if moreover every request to mosquitto_sink is answered, and it starts out not
finalized, also where the phase is `ERROR`. -/
theorem kafka_runs_applied_topics {mode filePath : String} {autoApply : Bool} {sys : System}
    (hkafka : ¬fleet.kafka.IsActive)
    (hrun : cfg.Runs (fun _ round => round.AttendsKafka cfg)
      (.boot mode filePath autoApply fleet) sys) :
    (KafkaReported sys.ctl.toPipeline sys.fleet ∨ sys.ctl.phase = .error) ∧
      (fleet.mosquitto.state ≠ .finalized →
        cfg.Runs (fun _ round => round.AttendsKafka cfg ∧ round.pattern.Serves .mosquitto)
          (.boot mode filePath autoApply fleet) sys →
        KafkaReported sys.ctl.toPipeline sys.fleet) ∧
      ∀ pattern, ∃ status, cfg.answer sys ⟨.getStatus, pattern⟩ = some (.status status) ∧
        status.appliedTopics = sys.ctl.appliedSelection.sinkTopics := by
  have hstart : KafkaReported (Controller.initial mode filePath autoApply).toPipeline fleet :=
    .of_not_active hkafka
  refine ⟨?_, fun hstate hserved => ?_, fun pattern => ?_⟩
  · exact (Setting.runs_invariant
      (I := fun pipeline fleet => KafkaReported pipeline fleet ∨ pipeline.phase = .error)
      (fun _ _ _ hreported hround => establishes_reported_or_error hround hreported) hrun
      Controller.initial_settled (.inl hstart)).2
  · exact (Setting.runs_invariant
      (I := fun pipeline fleet => KafkaReported pipeline fleet ∧
        fleet.mosquitto.state ≠ .finalized)
      (fun _ _ _ hI hround => establishes_reported hround.1 hround.2 hI.1 hI.2) hserved
      Controller.initial_settled ⟨hstart, hstate⟩).2.1
  · obtain ⟨status, hanswer, htopics⟩ := cfg.getStatus_spec pattern sys
    refine ⟨status, hanswer, htopics.trans ?_⟩
    have hlength := (Setting.runs_invariant
      (I := fun pipeline _ => pipeline.appliedSelection.sinkTopics.length =
        pipeline.appliedSelection.topics.length)
      (fun _ _ _ hlength _ => establishes_lengths hlength) hrun Controller.initial_settled rfl).2
    rw [Pipeline.appliedTopics]
    split
    next hempty =>
      rw [List.isEmpty_iff] at hempty
      rw [hempty, List.length_nil] at hlength
      rw [hempty, List.length_eq_zero_iff.mp hlength.symm]
      rfl
    · rfl

/-- Apply one topic. -/
def Round.applying (topic : String) : Round where
  operation := .applySelection [⟨topic, "T"⟩]

/-- Stop while the state query to kafka_sink ends in `outcome`. -/
def Round.stopUnheard (outcome : Outcome) : Round where
  operation := .stopStreaming false
  pattern := .only (.getState .kafka) outcome

/-- An applied topic is reported, and kafka_sink runs with it. -/
theorem kafka_runs_applied_topics_applied :
    ∃ sys, Setting.default.step (.boot "gui" "" true .fresh) (.applying "/a") = some sys ∧
      sys.fleet.kafka.state = .active [⟨"/a", "T"⟩] ∧
      KafkaReported sys.ctl.toPipeline sys.fleet := by
  obtain ⟨sys, hstep, hstate⟩ := Option.map_eq_some_iff.mp (show
    (Setting.default.step (.boot "gui" "" true .fresh) (.applying "/a")).map
      (fun sys => sys.fleet.kafka.state) = some (.active [⟨"/a", "T"⟩]) by decide +kernel)
  have hround : (Round.applying "/a").AttendsKafka Setting.default :=
    ⟨fun _ h => Outcome.noConfusion h, fun _ h => Outcome.noConfusion h, nofun⟩
  have hkafka : ¬Fleet.fresh.kafka.IsActive := fun ⟨_, h⟩ => SinkState.noConfusion h
  have hrun : Setting.default.Runs (fun _ round => round.AttendsKafka Setting.default)
      (.boot "gui" "" true .fresh) sys := .tail .refl hround hstep
  have hserved : Setting.default.Runs
      (fun _ round => round.AttendsKafka Setting.default ∧ round.pattern.Serves .mosquitto)
      (.boot "gui" "" true .fresh) sys := .tail .refl ⟨hround, fun _ _ _ => rfl⟩ hstep
  exact ⟨sys, hstep, hstate, (kafka_runs_applied_topics hkafka hrun).2.1 nofun hserved⟩

/-- Where mosquitto_sink fails, kafka_sink runs with the new list already, and the phase is
`ERROR`. -/
example : ((Setting.default.step (.boot "gui" "" true .fresh) (.applying "/a")).bind
    fun applied => (Setting.default.step applied
      { Round.applying "/b" with pattern := .only (.changeState .mosquitto) .rejected }).map
        fun sys => (sys.fleet.kafka.state, sys.ctl.appliedSelection.sinkTopics, sys.ctl.phase)) =
    some (.active [⟨"/b", "T"⟩], [⟨"/a", "T"⟩], .error) := by
  decide +kernel

/-- A stop that gets no answer about kafka_sink reports success, and `get_status` reports no
topics, while kafka_sink goes on running. -/
theorem unheard_stop_leaves_kafka_running :
    ∃ sys, Setting.default.Runs
        (fun _ round => ∀ service n performed,
          round.pattern.outcome service n ≠ .timeout performed)
        (.boot "gui" "" true .fresh) sys ∧
      sys.fleet.kafka.state = .active [⟨"/a", "T"⟩] ∧
      sys.ctl.appliedSelection.sinkTopics = [] ∧ sys.ctl.phase = .idle ∧
      ¬KafkaReported sys.ctl.toPipeline sys.fleet := by
  have h : ((Setting.default.step (.boot "gui" "" true .fresh) (.applying "/a")).bind
      fun applied => (Setting.default.step applied (.stopUnheard .unavailable)).map
        fun sys => (sys.fleet.kafka.state, sys.ctl.appliedSelection.sinkTopics, sys.ctl.phase)) =
      some (.active [⟨"/a", "T"⟩], [], .idle) := by decide +kernel
  obtain ⟨applied, happly, hmap⟩ := Option.bind_eq_some_iff.mp h
  obtain ⟨sys, hstop, hsys⟩ := Option.map_eq_some_iff.mp hmap
  simp only [Prod.mk.injEq] at hsys
  refine ⟨sys, .tail (.tail .refl (fun _ _ _ h => Outcome.noConfusion h) happly)
    (fun service n performed h => ?_) hstop, hsys.1, hsys.2.1, hsys.2.2, fun hreported => ?_⟩
  · by_cases hservice : service = .getState .kafka <;>
      simp [Round.stopUnheard, Pattern.only, hservice] at h
  · have hrunning := hreported _ hsys.1
    rw [hsys.2.1] at hrunning
    cases hrunning

/-! ### A successful stop -/

/-- **A successful stop** leaves the tools and the recorded selection empty and the phase
`IDLE`, and no configured sink active that answered the state query; where missing sinks are
not allowed, no configured sink at all. -/
theorem stop_success_halts {sys : System} {reset : Bool} {response : Response}
    (hanswer : cfg.answer sys ⟨.stopStreaming reset, pattern⟩ = some (.response response))
    (hsuccess : response.success = true) :
    ∃ sys', cfg.step sys ⟨.stopStreaming reset, pattern⟩ = some sys' ∧
      sys'.ctl.activeTopicTools = ∅ ∧ sys'.ctl.appliedSelection = {} ∧ sys'.ctl.phase = .idle ∧
      ∀ sink, (cfg.params.sinkNodeName sink).isEmpty = false →
        (pattern.outcome (.getState sink) 0).replies = true ∨
          cfg.params.allowMissingSinks = false →
        ¬(sys'.fleet.sink sink).IsActive := by
  obtain ⟨response', s', hstep, hanswer', hpost⟩ := cfg.stop_spec pattern reset sys
  rw [hanswer, Option.some.injEq, Answer.response.injEq] at hanswer'
  rw [← hanswer', hsuccess] at hpost
  obtain ⟨-, hdone, happlied, hphase⟩ := hpost.resolve_right fun h => Bool.noConfusion h.1
  refine ⟨_, hstep, congrArg Toolbox.tracked hdone.toolbox, happlied, hphase,
    fun sink hname hreply => ?_⟩
  rcases hdone.halted sink with hstopped | ⟨-, hreach, hname' | hallow⟩
  · rw [show s'.env.fleet.sink sink = _ from hstopped]
    exact SinkNode.not_isActive_stopped
  · rw [hname] at hname'
    cases hname'
  · refine absurd ⟨hname, hreply.resolve_right ?_⟩ hreach
    rw [hallow]
    exact nofun

/-- A stop with everything answered halts a running kafka_sink. -/
theorem stop_success_halts_answered :
    ∃ sys', Setting.default.step ⟨{}, { Fleet.fresh with kafka := .running [⟨"/a", "T"⟩] }⟩
        ⟨.stopStreaming false, {}⟩ = some sys' ∧ ¬sys'.fleet.kafka.IsActive := by
  have hanswer : Setting.default.answer
      ⟨{}, { Fleet.fresh with kafka := .running [⟨"/a", "T"⟩] }⟩ ⟨.stopStreaming false, {}⟩ =
        some (.response ⟨true, "Streaming stopped"⟩) := by decide +kernel
  obtain ⟨sys', hstep, -, -, -, hhalted⟩ := stop_success_halts hanswer rfl
  exact ⟨sys', hstep, hhalted .kafka (by decide) (.inl rfl)⟩

/-- A stop that times out on kafka_sink's state answers success and leaves it running. -/
theorem timed_out_stop_leaves_kafka_running :
    ∃ sys sys', Setting.default.Runs (fun _ _ => True) (.boot "gui" "" true .fresh) sys ∧
      Setting.default.step sys (.stopUnheard (.timeout false)) = some sys' ∧
      Setting.default.answer sys (.stopUnheard (.timeout false)) =
        some (.response ⟨true, "Streaming stopped"⟩) ∧
      sys'.fleet.kafka.IsActive := by
  have h : ((Setting.default.step (.boot "gui" "" true .fresh) (.applying "/a")).bind
      fun sys => (Setting.default.step sys (.stopUnheard (.timeout false))).map fun sys' =>
        (Setting.default.answer sys (.stopUnheard (.timeout false)), sys'.fleet.kafka.state)) =
      some (some (.response ⟨true, "Streaming stopped"⟩), .active [⟨"/a", "T"⟩]) := by
    decide +kernel
  obtain ⟨sys, happly, hmap⟩ := Option.bind_eq_some_iff.mp h
  obtain ⟨sys', hstop, hsys⟩ := Option.map_eq_some_iff.mp hmap
  rw [Prod.mk.injEq] at hsys
  exact ⟨sys, sys', .tail .refl trivial happly, hstop, hsys.1, _, hsys.2⟩

end Ros2Dispatcher
