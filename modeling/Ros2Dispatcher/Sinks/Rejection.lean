import Ros2Dispatcher.Library.Procedure
import Ros2Dispatcher.Sinks.KafkaSink
import Ros2Dispatcher.Sinks.MosquittoSink

/-!
# Rejected batches

`on_parameters_set` of the sinks commits a batch group by group, in the order of `Group`,
each group right after its own check. A batch whose check fails late is rejected with the
groups before it committed: it is *half committed*.

`rejected_leaves_settings_iff`: in both sinks, a rejection leaves the settings as they were
if and only if the batch is not half committed, that is, if no group that the batch changes
comes before the first group it is refused for.
-/

namespace Ros2Dispatcher.Sinks

open Procedure

/-- The groups of settings, in the order in which they are committed. -/
inductive Group
  | subscriptions
  | depth
  | broker
  | metrics
  | telemetry
deriving DecidableEq, Repr

/-- The place of a group in the order. -/
def Group.rank : Group → Nat
  | subscriptions => 0
  | depth => 1
  | broker => 2
  | metrics => 3
  | telemetry => 4

theorem Group.rank_injective : Function.Injective Group.rank := by
  intro g g' h
  cases g <;> cases g' <;> first | rfl | exact absurd h (by decide)

/-- The checks of a sink. -/
structure Checks (C P T : Type) where
  parse : String → Except String (List C)
  broker : P → Except String Unit
  telemetry : T → Except String Unit

namespace Pending

variable {C P T : Type}

/-- The part of `on_parameters_set` after the loop. -/
def commit (checks : Checks C P T) (pending : Pending P T) : Configuring C P T PUnit := do
  pending.commitSubscriptions checks.parse
  pending.commitDepth
  pending.commitBroker checks.broker
  pending.commitMetrics
  pending.commitTelemetry checks.telemetry

/-- The check of a group fails. -/
def Refused (checks : Checks C P T) (pending : Pending P T) : Group → Prop
  | .subscriptions => ∃ text reason, pending.yaml = some text ∧ checks.parse text = .error reason
  | .depth => pending.depth ≤ 0
  | .broker => pending.brokerUpdate = true ∧ ∃ reason, checks.broker pending.broker = .error reason
  | .metrics => False
  | .telemetry =>
    pending.telemetryUpdate = true ∧ ∃ reason, checks.telemetry pending.telemetry = .error reason

/-- The batch has another value for a group than the settings. -/
def Changes (checks : Checks C P T) (settings : Settings C P T) (pending : Pending P T) :
    Group → Prop
  | .subscriptions => ∃ text configured, pending.yaml = some text ∧
    checks.parse text = .ok configured ∧ configured ≠ settings.configuredSubscriptions
  | .depth => pending.depth ≠ settings.qosDepth
  | .broker => pending.brokerUpdate = true ∧ pending.broker ≠ settings.broker
  | .metrics => pending.metricsUpdate = true ∧ pending.metrics ≠ settings.metrics
  | .telemetry => pending.telemetryUpdate = true ∧ pending.telemetry ≠ settings.telemetry

/-- A group is refused, and none before it. -/
def RefusedFirst (checks : Checks C P T) (pending : Pending P T) (g : Group) : Prop :=
  pending.Refused checks g ∧ ∀ g' : Group, g'.rank < g.rank → ¬pending.Refused checks g'

/-- A group that the batch changes comes before the first one it is refused for. -/
def HalfCommitted (checks : Checks C P T) (settings : Settings C P T) (pending : Pending P T) :
    Prop :=
  ∃ g g' : Group, pending.RefusedFirst checks g ∧ g'.rank < g.rank ∧
    pending.Changes checks settings g'

variable {checks : Checks C P T} {settings : Settings C P T} {pending : Pending P T}

/-- The groups before a given one. -/
theorem exists_before_iff {P : Group → Prop} {g : Group} :
    (∃ g' : Group, g'.rank < g.rank ∧ P g') ↔
      (0 < g.rank ∧ P .subscriptions) ∨ (1 < g.rank ∧ P .depth) ∨ (2 < g.rank ∧ P .broker) ∨
        (3 < g.rank ∧ P .metrics) ∨ (4 < g.rank ∧ P .telemetry) := by
  constructor
  · rintro ⟨g', hlt, h⟩
    cases g' with
    | subscriptions => exact .inl ⟨hlt, h⟩
    | depth => exact .inr (.inl ⟨hlt, h⟩)
    | broker => exact .inr (.inr (.inl ⟨hlt, h⟩))
    | metrics => exact .inr (.inr (.inr (.inl ⟨hlt, h⟩)))
    | telemetry => exact .inr (.inr (.inr (.inr ⟨hlt, h⟩)))
  · rintro (h | h | h | h | h)
    · exact ⟨.subscriptions, h⟩
    · exact ⟨.depth, h⟩
    · exact ⟨.broker, h⟩
    · exact ⟨.metrics, h⟩
    · exact ⟨.telemetry, h⟩

/-- The first refused group, with the groups before it listed. -/
theorem refusedFirst_iff {g : Group} :
    pending.RefusedFirst checks g ↔ pending.Refused checks g ∧
      ¬((0 < g.rank ∧ pending.Refused checks .subscriptions) ∨
        (1 < g.rank ∧ pending.Refused checks .depth) ∨
        (2 < g.rank ∧ pending.Refused checks .broker) ∨
        (3 < g.rank ∧ pending.Refused checks .metrics) ∨
        (4 < g.rank ∧ pending.Refused checks .telemetry)) := by
  rw [← exists_before_iff]
  simp only [RefusedFirst, not_exists, not_and]

theorem RefusedFirst.eq {g g' : Group} (h : pending.RefusedFirst checks g)
    (h' : pending.RefusedFirst checks g') : g = g' := by
  refine Group.rank_injective (Nat.le_antisymm ?_ ?_)
  · exact Nat.not_lt.mp fun hlt => h.2 g' hlt h'.1
  · exact Nat.not_lt.mp fun hlt => h'.2 g hlt h.1

/-- A batch refused for `g` first is half committed if it changes a group before `g`. -/
theorem RefusedFirst.halfCommitted_iff {g : Group} (h : pending.RefusedFirst checks g) :
    pending.HalfCommitted checks settings ↔
      ∃ g' : Group, g'.rank < g.rank ∧ pending.Changes checks settings g' := by
  constructor
  · rintro ⟨g₁, g', h₁, hlt, hchanges⟩
    rw [h₁.eq h] at hlt
    exact ⟨g', hlt, hchanges⟩
  · rintro ⟨g', hlt, hchanges⟩
    exact ⟨g, g', h, hlt, hchanges⟩

/-! ### One group -/

section Groups

variable {Q : PUnit → Settings C P T → Prop} {E : String → Settings C P T → Prop}

theorem wp_require {α : Type} {check : Except String α} {Q : α → Settings C P T → Prop}
    (hok : ∀ a, check = .ok a → Q a settings)
    (herror : ∀ reason, check = .error reason → E reason settings) :
    wp (require check) Q E settings := by
  cases check with
  | ok a => exact hok a rfl
  | error reason => exact herror reason rfl

variable (checks)

theorem wp_commitSubscriptions
    (hok : ¬pending.Refused checks .subscriptions → ∀ configured,
      (configured ≠ settings.configuredSubscriptions ↔
        pending.Changes checks settings .subscriptions) →
      Q ⟨⟩ { settings with configuredSubscriptions := configured })
    (hrefused : pending.Refused checks .subscriptions → ∀ reason, E reason settings) :
    wp (pending.commitSubscriptions checks.parse) Q E settings := by
  unfold commitSubscriptions
  cases hyaml : pending.yaml with
  | none =>
    refine hok ?_ settings.configuredSubscriptions (iff_of_false (fun h => h rfl) ?_)
    · rintro ⟨text, reason, htext, -⟩
      rw [hyaml] at htext
      cases htext
    · rintro ⟨text, configured, htext, -⟩
      rw [hyaml] at htext
      cases htext
  | some text =>
    rw [wp_bind]
    refine wp_require (fun configured hparse => ?_) fun reason hparse => ?_
    · rw [wp_modify]
      refine hok ?_ configured ⟨fun h => ⟨text, configured, hyaml, hparse, h⟩, ?_⟩
      · rintro ⟨text', reason, htext, herror⟩
        rw [hyaml, Option.some_inj] at htext
        subst htext
        rw [hparse] at herror
        cases herror
      · rintro ⟨text', configured', htext, hparse', h⟩
        rw [hyaml, Option.some_inj] at htext
        subst htext
        rw [hparse, Except.ok.injEq] at hparse'
        rwa [hparse']
    · exact hrefused ⟨text, reason, hyaml, hparse⟩ reason

theorem wp_commitDepth
    (hok : ¬pending.Refused checks .depth → Q ⟨⟩ { settings with qosDepth := pending.depth })
    (hrefused : pending.Refused checks .depth → ∀ reason, E reason settings) :
    wp pending.commitDepth Q E settings := by
  unfold commitDepth validateQosDepth
  rw [wp_bind]
  by_cases hdepth : pending.depth ≤ 0
  · rw [if_pos hdepth]
    exact hrefused hdepth _
  · rw [if_neg hdepth]
    exact hok hdepth

theorem wp_commitBroker
    (hok : ¬pending.Refused checks .broker → ∀ broker,
      (broker ≠ settings.broker ↔ pending.Changes checks settings .broker) →
      Q ⟨⟩ { settings with broker })
    (hrefused : pending.Refused checks .broker → ∀ reason, E reason settings) :
    wp (pending.commitBroker checks.broker) Q E settings := by
  unfold commitBroker
  refine wp_ite.mpr ⟨fun hupdate => ?_, fun hupdate => ?_⟩
  · rw [wp_bind]
    refine wp_require (fun _ hcheck => ?_) fun reason hcheck =>
      hrefused ⟨hupdate, reason, hcheck⟩ reason
    rw [wp_modify]
    refine hok ?_ pending.broker ⟨fun h => ⟨hupdate, h⟩, And.right⟩
    rintro ⟨-, reason, herror⟩
    rw [hcheck] at herror
    cases herror
  · exact hok (fun h => hupdate h.1) settings.broker
      (iff_of_false (fun h => h rfl) fun h => hupdate h.1)

theorem wp_commitMetrics
    (hok : ∀ metrics, (metrics ≠ settings.metrics ↔ pending.Changes checks settings .metrics) →
      Q ⟨⟩ { settings with metrics }) :
    wp pending.commitMetrics Q E settings := by
  unfold commitMetrics
  refine wp_ite.mpr ⟨fun hupdate => ?_, fun hupdate => ?_⟩
  · exact hok pending.metrics ⟨fun h => ⟨hupdate, h⟩, And.right⟩
  · exact hok settings.metrics (iff_of_false (fun h => h rfl) fun h => hupdate h.1)

theorem wp_commitTelemetry
    (hok : ¬pending.Refused checks .telemetry → ∀ settings', Q ⟨⟩ settings')
    (hrefused : pending.Refused checks .telemetry → ∀ reason, E reason settings) :
    wp (pending.commitTelemetry checks.telemetry) Q E settings := by
  unfold commitTelemetry
  refine wp_ite.mpr ⟨fun hupdate => ?_, fun hupdate => hok (fun h => hupdate h.1) settings⟩
  rw [wp_bind]
  refine wp_require (fun _ hcheck => hok ?_ _) fun reason hcheck =>
    hrefused ⟨hupdate, reason, hcheck⟩ reason
  rintro ⟨-, reason, herror⟩
  rw [hcheck] at herror
  cases herror

end Groups

/-! ### The whole batch -/

/-- The settings with new values in some groups are the old ones if no value differs. -/
theorem settings_eq_iff {configured : List C} {depth : Int32} {broker : P}
    {metrics : MetricsSettings} :
    ({ settings with
        configuredSubscriptions := configured, qosDepth := depth, broker, metrics } = settings) ↔
      ¬(configured ≠ settings.configuredSubscriptions ∨ depth ≠ settings.qosDepth ∨
        broker ≠ settings.broker ∨ metrics ≠ settings.metrics) := by
  cases settings
  simp only [Settings.mk.injEq, and_true, not_or, not_not]

/-- Committing a batch ends with a refusal that leaves the settings as they were unless the
batch is half committed, or without one, and then it is not. -/
theorem wp_commit :
    wp (pending.commit checks) (fun _ _ => ¬pending.HalfCommitted checks settings)
      (fun _ settings' => settings' = settings ↔ ¬pending.HalfCommitted checks settings)
      settings := by
  unfold commit
  rw [wp_bind]
  -- each refusal is the first one, so only the groups before it have been written
  refine wp_commitSubscriptions checks (fun hsubs configured hconfigured => ?_)
    fun hrefused _ => ?_
  · rw [wp_bind]
    refine wp_commitDepth checks (fun hdepth => ?_) fun hrefused _ => ?_
    · rw [wp_bind]
      refine wp_commitBroker checks (fun hbroker broker hbroker' => ?_) fun hrefused _ => ?_
      · rw [wp_bind]
        refine wp_commitMetrics checks fun metrics hmetrics => ?_
        refine wp_commitTelemetry checks (fun htelemetry _ => ?_) fun hrefused _ => ?_
        · rintro ⟨g, -, hg, -⟩
          cases g with
          | subscriptions => exact hsubs hg.1
          | depth => exact hdepth hg.1
          | broker => exact hbroker hg.1
          | metrics => exact hg.1
          | telemetry => exact htelemetry hg.1
        · have hmetrics' : ¬pending.Refused checks .metrics := id
          have hfirst : pending.RefusedFirst checks .telemetry :=
            refusedFirst_iff.mpr ⟨hrefused, by simp [Group.rank, hsubs, hdepth, hbroker, hmetrics']⟩
          rw [hfirst.halfCommitted_iff, exists_before_iff, ← hconfigured]
          simp only [Group.rank, Nat.lt_irrefl, false_and, or_false, Nat.reduceLT, true_and]
          refine settings_eq_iff.trans (not_congr ?_)
          exact or_congr_right (or_congr_right (or_congr hbroker' hmetrics))
      · have hfirst : pending.RefusedFirst checks .broker :=
          refusedFirst_iff.mpr ⟨hrefused, by simp [Group.rank, hsubs, hdepth]⟩
        rw [hfirst.halfCommitted_iff, exists_before_iff, ← hconfigured]
        simp only [Group.rank, Nat.lt_irrefl, false_and, or_false, Nat.reduceLT, true_and]
        refine settings_eq_iff.trans (not_congr ?_)
        simp only [ne_eq, not_true, or_false]
        rfl
    · have hfirst : pending.RefusedFirst checks .depth :=
        refusedFirst_iff.mpr ⟨hrefused, by simp [Group.rank, hsubs]⟩
      rw [hfirst.halfCommitted_iff, exists_before_iff, ← hconfigured]
      simp only [Group.rank, Nat.lt_irrefl, false_and, or_false, Nat.reduceLT, true_and]
      refine settings_eq_iff.trans (not_congr ?_)
      simp only [ne_eq, not_true, or_false]
  · have hfirst : pending.RefusedFirst checks .subscriptions :=
      refusedFirst_iff.mpr ⟨hrefused, by simp [Group.rank]⟩
    rw [hfirst.halfCommitted_iff, exists_before_iff]
    simp only [Group.rank, Nat.not_lt_zero, false_and, or_false, not_false_eq_true]

end Pending

/-! ### The two sinks -/

/-- The parameters a sink gathered from a batch are committed, and the batch is answered: a
rejection leaves the settings as they were exactly if the batch is not half committed. -/
theorem answer_unchanged_iff {C P T : Type} {checks : Checks C P T} {settings : Settings C P T}
    {gathered : Except String (Pending P T)} {m : Configuring C P T PUnit}
    (hm : m = do let pending ← require gathered; pending.commit checks) :
    ((m.answer settings).1.successful = false → (m.answer settings).2 = settings) ↔
      ∀ pending, gathered = .ok pending → ¬pending.HalfCommitted checks settings := by
  cases gathered with
  | error reason =>
    subst hm
    exact iff_of_true (fun _ => rfl) fun _ h => by cases h
  | ok pending =>
    have hcommit : wp m (fun _ _ => ¬pending.HalfCommitted checks settings)
        (fun _ settings' => settings' = settings ↔ ¬pending.HalfCommitted checks settings)
        settings := by
      subst hm
      exact Pending.wp_commit
    simp only [Except.ok.injEq, forall_eq']
    cases hrun : m settings with
    | ok _ settings' =>
      have hanswer : m.answer settings = (⟨true, "accepted"⟩, settings') := by
        rw [Configuring.answer, hrun]
      rw [hanswer]
      exact iff_of_true (fun h => Bool.noConfusion h) (of_wp_ok hcommit hrun)
    | error reason settings' =>
      have hanswer : m.answer settings = (⟨false, reason⟩, settings') := by
        rw [Configuring.answer, hrun]
      rw [hanswer]
      simpa using of_wp_error hcommit hrun

/-- The checks of `kafka_sink`. -/
def kafkaChecks (reader : YamlReader) :
    Checks KafkaSink.SubscriptionConfig KafkaSink.KafkaParameters KafkaSink.Telemetry where
  parse := KafkaSink.parseSubscriptionsYaml reader
  broker := KafkaSink.validateKafkaParameters
  telemetry := KafkaSink.validateTelemetry

/-- The checks of `mosquitto_sink`, which has no telemetry settings. -/
def mosquittoChecks (reader : YamlReader) :
    Checks MosquittoSink.SubscriptionConfig MosquittoSink.MqttParameters PUnit where
  parse := MosquittoSink.parseSubscriptionsYaml reader
  broker := MosquittoSink.validateMqttParameters
  telemetry _ := .ok ⟨⟩

/-- Without telemetry settings there is nothing left to commit after the metrics. -/
theorem mosquittoCommit (reader : YamlReader) (pending : MosquittoSink.Pending) :
    MosquittoSink.commitPending reader pending = pending.commit (mosquittoChecks reader) := by
  have hcheck : pending.commitTelemetry (C := MosquittoSink.SubscriptionConfig)
      (mosquittoChecks reader).telemetry = pure ⟨⟩ := by
    unfold Pending.commitTelemetry
    split <;> rfl
  unfold MosquittoSink.commitPending Pending.commit
  rw [hcheck]
  simp only [mosquittoChecks, bind_pure_unit]

/-- **A rejection leaves the settings as they were**, in both sinks, exactly if the batch is
refused while it is gathered or is not half committed. -/
theorem rejected_leaves_settings_iff (reader : YamlReader) (active : Bool) :
    (∀ (batch : List KafkaSink.Parameter) (settings : KafkaSink.Settings),
      ((KafkaSink.onParametersSet reader active batch settings).1.successful = false →
          (KafkaSink.onParametersSet reader active batch settings).2 = settings) ↔
        ∀ pending, KafkaSink.stageBatch active settings batch = .ok pending →
          ¬pending.HalfCommitted (kafkaChecks reader) settings) ∧
    (∀ (batch : List MosquittoSink.Parameter) (settings : MosquittoSink.Settings),
      ((MosquittoSink.onParametersSet reader active batch settings).1.successful = false →
          (MosquittoSink.onParametersSet reader active batch settings).2 = settings) ↔
        ∀ pending, MosquittoSink.stageBatch active settings batch = .ok pending →
          ¬pending.HalfCommitted (mosquittoChecks reader) settings) := by
  constructor
  · intro batch settings
    exact answer_unchanged_iff rfl
  · intro batch settings
    refine answer_unchanged_iff ?_
    simp only [mosquittoCommit]

/-- A running kafka_sink rejects a batch for its telemetry and keeps the depth of it; a
mosquitto_sink rejects one for an empty host and keeps the depth of it. -/
theorem rejected_depth_stays :
    (∃ settings, KafkaSink.onParametersSet .oneEntry true
        [⟨.qosDepth, (5 : Int64)⟩, ⟨.telemetry .logEveryN, (0 : Int64)⟩] KafkaSink.initialSettings =
          (⟨false, "telemetry.log_every_n must be >= 1"⟩, settings) ∧
      settings.qosDepth = 5 ∧ KafkaSink.initialSettings.qosDepth = 10) ∧
    (∃ settings, MosquittoSink.onParametersSet .oneEntry false
        [⟨.qosDepth, (5 : Int64)⟩, ⟨.mqtt .brokerHost, ""⟩] MosquittoSink.initialSettings =
          (⟨false, "mqtt.broker_host cannot be empty."⟩, settings) ∧
      settings.qosDepth = 5 ∧ MosquittoSink.initialSettings.qosDepth = 10) := by
  refine ⟨⟨{ KafkaSink.initialSettings with qosDepth := 5 }, ?_⟩,
    ⟨{ MosquittoSink.initialSettings with qosDepth := 5 }, ?_⟩⟩
  · decide +kernel
  · decide +kernel

end Ros2Dispatcher.Sinks
