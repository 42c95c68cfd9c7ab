import Ros2Dispatcher.Sinks.Rejection

/-!
# Configuring again

A sink reads its parameters in two places: `configure_from_parameters` decodes the whole
store, `on_parameters_set` the parameters of one batch on top of the members. A `Reading`
says what each group of settings is, read off the store, and `Reading.Yields` that settings
are what a store holds and pass their checks.

* `Kind.Reads`: a sink configures itself as a reading says, and its accepted batches follow it.
* `Kind.Reads.agreement`: then, whatever the order of transitions and accepted batches,
  configuring from the store succeeds, and gives the settings an inactive or active node has.
* `configurations_agree`: both sinks.
-/

namespace Ros2Dispatcher.Sinks

open Procedure Lifecycle

variable {S C P T : Type}

/-- The groups of settings, read off the stored parameter values. -/
structure Reading (S P T : Type) where
  text : S → String
  depth : S → Int32
  broker : S → Option P
  metrics : S → MetricsSettings
  telemetry : S → T

namespace Reading

/-- The settings, except the subscriptions, are those of the store, whose values pass every
check. -/
structure Tracks (reading : Reading S P T) (checks : Checks C P T) (stored : S)
    (settings : Settings C P T) : Prop where
  parses : ∃ configured, checks.parse (reading.text stored) = .ok configured
  depth : settings.qosDepth = reading.depth stored
  depth_pos : ¬settings.qosDepth ≤ 0
  broker : reading.broker stored = some settings.broker
  broker_ok : checks.broker settings.broker = .ok ⟨⟩
  metrics : settings.metrics = reading.metrics stored
  telemetry : settings.telemetry = reading.telemetry stored
  telemetry_ok : checks.telemetry settings.telemetry = .ok ⟨⟩

/-- The settings are what the store holds. -/
structure Yields (reading : Reading S P T) (checks : Checks C P T) (stored : S)
    (settings : Settings C P T) : Prop extends Tracks reading checks stored settings where
  subscriptions : checks.parse (reading.text stored) = .ok settings.configuredSubscriptions

/-- A batch in the making follows the store: what it has gathered on top of `settings` is
what the store holds once the parameters seen so far are in it. -/
structure Follows (reading : Reading S P T) (text : String) (settings : Settings C P T)
    (stored : S) (pending : Pending P T) : Prop where
  yaml : reading.text stored = pending.yaml.getD text
  depth : pending.depth = reading.depth stored
  broker : reading.broker stored = some pending.broker
  broker_kept : pending.brokerUpdate = false → pending.broker = settings.broker
  metrics : pending.metrics = reading.metrics stored
  metrics_kept : pending.metricsUpdate = false → pending.metrics = settings.metrics
  telemetry : pending.telemetry = reading.telemetry stored
  telemetry_kept : pending.telemetryUpdate = false → pending.telemetry = settings.telemetry

variable {reading : Reading S P T} {checks : Checks C P T} {stored stored' : S}
  {settings settings' : Settings C P T} {pending : Pending P T}

/-- A store yields one record of settings at most. -/
theorem Yields.unique (h : reading.Yields checks stored settings)
    (h' : reading.Yields checks stored settings') : settings = settings' := by
  have hsubscriptions : settings.configuredSubscriptions = settings'.configuredSubscriptions :=
    Except.ok.inj (h.subscriptions.symm.trans h'.subscriptions)
  have hbroker : settings.broker = settings'.broker :=
    Option.some.inj (h.broker.symm.trans h'.broker)
  have hdepth : settings.qosDepth = settings'.qosDepth := h.depth.trans h'.depth.symm
  have hmetrics : settings.metrics = settings'.metrics := h.metrics.trans h'.metrics.symm
  have htelemetry : settings.telemetry = settings'.telemetry :=
    h.telemetry.trans h'.telemetry.symm
  cases settings
  cases settings'
  simp_all

/-- Settings that track a store yield it once they have its subscriptions. -/
theorem Tracks.exists_yields (h : reading.Tracks checks stored settings) :
    ∃ target, reading.Yields checks stored target := by
  obtain ⟨configured, hparse⟩ := h.parses
  exact ⟨{ settings with configuredSubscriptions := configured },
    { parses := ⟨configured, hparse⟩
      depth := h.depth
      depth_pos := h.depth_pos
      broker := h.broker
      broker_ok := h.broker_ok
      metrics := h.metrics
      telemetry := h.telemetry
      telemetry_ok := h.telemetry_ok
      subscriptions := hparse }⟩

theorem Tracks.withoutSubscriptions (h : reading.Tracks checks stored settings) :
    reading.Tracks checks stored { settings with configuredSubscriptions := [] } :=
  { h with }

/-- An empty batch follows the store. -/
theorem Tracks.follows (h : reading.Tracks checks stored settings) :
    reading.Follows (reading.text stored) settings stored settings.pending where
  yaml := rfl
  depth := h.depth
  broker := h.broker
  broker_kept _ := rfl
  metrics := h.metrics
  metrics_kept _ := rfl
  telemetry := h.telemetry
  telemetry_kept _ := rfl

/-! ### Committing -/

namespace Follows

variable {text : String} {Q : PUnit → Settings C P T → Prop}

/-- The subscriptions of the batch parse; without some in it, the ones of the node stay. -/
theorem wp_commitSubscriptions (h : reading.Follows text settings stored pending)
    (hparses : ∃ configured, checks.parse text = .ok configured)
    (hok : ∀ configured, (∃ configured', checks.parse (reading.text stored) = .ok configured') →
      (checks.parse text = .ok settings.configuredSubscriptions →
        checks.parse (reading.text stored) = .ok configured) →
      Q ⟨⟩ { settings with configuredSubscriptions := configured }) :
    wp (pending.commitSubscriptions checks.parse) Q (fun _ _ => True) settings := by
  have htext := h.yaml
  unfold Pending.commitSubscriptions
  cases hyaml : pending.yaml with
  | none =>
    rw [hyaml, Option.getD_none] at htext
    rw [htext] at hok
    exact hok settings.configuredSubscriptions hparses id
  | some text' =>
    rw [hyaml, Option.getD_some] at htext
    rw [htext] at hok
    rw [wp_bind]
    refine Pending.wp_require (fun configured hparse => ?_) fun _ _ => trivial
    exact hok configured ⟨configured, hparse⟩ fun _ => hparse

theorem wp_commitDepth
    (hok : ¬pending.depth ≤ 0 → Q ⟨⟩ { settings with qosDepth := pending.depth }) :
    wp pending.commitDepth Q (fun _ _ => True) settings := by
  unfold Pending.commitDepth validateQosDepth
  rw [wp_bind]
  by_cases hdepth : pending.depth ≤ 0
  · rw [if_pos hdepth]
    trivial
  · rw [if_neg hdepth]
    exact hok hdepth

theorem wp_commitBroker (hkept : pending.brokerUpdate = false → pending.broker = settings.broker)
    (hvalid : checks.broker settings.broker = .ok ⟨⟩)
    (hok : checks.broker pending.broker = .ok ⟨⟩ →
      Q ⟨⟩ { settings with broker := pending.broker }) :
    wp (pending.commitBroker checks.broker) Q (fun _ _ => True) settings := by
  unfold Pending.commitBroker
  refine wp_ite.mpr ⟨fun _ => ?_, fun hupdate => ?_⟩
  · rw [wp_bind]
    exact Pending.wp_require (fun _ hcheck => hok hcheck) fun _ _ => trivial
  · rw [hkept (Bool.eq_false_iff.mpr hupdate)] at hok
    exact hok hvalid

theorem wp_commitMetrics
    (hkept : pending.metricsUpdate = false → pending.metrics = settings.metrics)
    (hok : Q ⟨⟩ { settings with metrics := pending.metrics }) :
    wp pending.commitMetrics Q (fun _ _ => True) settings := by
  unfold Pending.commitMetrics
  refine wp_ite.mpr ⟨fun _ => hok, fun hupdate => ?_⟩
  rwa [hkept (Bool.eq_false_iff.mpr hupdate)] at hok

theorem wp_commitTelemetry
    (hkept : pending.telemetryUpdate = false → pending.telemetry = settings.telemetry)
    (hvalid : checks.telemetry settings.telemetry = .ok ⟨⟩)
    (hok : checks.telemetry pending.telemetry = .ok ⟨⟩ →
      Q ⟨⟩ { settings with telemetry := pending.telemetry }) :
    wp (pending.commitTelemetry checks.telemetry) Q (fun _ _ => True) settings := by
  unfold Pending.commitTelemetry
  refine wp_ite.mpr ⟨fun _ => ?_, fun hupdate => ?_⟩
  · rw [wp_bind]
    exact Pending.wp_require (fun _ hcheck => hok hcheck) fun _ _ => trivial
  · rw [hkept (Bool.eq_false_iff.mpr hupdate)] at hok
    exact hok hvalid

/-- **Committing a batch that follows the store** ends, unless a check fails, with settings
that track the store; if the node had the subscriptions of its store, it has them again. -/
theorem wp_commit (h : reading.Follows text settings stored pending)
    (hparses : ∃ configured, checks.parse text = .ok configured)
    (hbroker : checks.broker settings.broker = .ok ⟨⟩)
    (htelemetry : checks.telemetry settings.telemetry = .ok ⟨⟩) :
    wp (pending.commit checks)
      (fun _ settings' => reading.Tracks checks stored settings' ∧
        (checks.parse text = .ok settings.configuredSubscriptions →
          checks.parse (reading.text stored) = .ok settings'.configuredSubscriptions))
      (fun _ _ => True) settings := by
  unfold Pending.commit
  rw [wp_bind]
  refine h.wp_commitSubscriptions hparses fun configured hparses' hconfigured => ?_
  rw [wp_bind]
  refine wp_commitDepth fun hdepth => ?_
  rw [wp_bind]
  refine wp_commitBroker h.broker_kept hbroker fun hbroker' => ?_
  rw [wp_bind]
  refine wp_commitMetrics h.metrics_kept ?_
  refine wp_commitTelemetry h.telemetry_kept htelemetry fun htelemetry' => ⟨?_, hconfigured⟩
  exact
    { parses := hparses'
      depth := h.depth
      depth_pos := hdepth
      broker := h.broker
      broker_ok := hbroker'
      metrics := h.metrics
      telemetry := h.telemetry
      telemetry_ok := htelemetry' }

end Follows

end Reading

/-! ### The runs of a sink -/

section Kinds

variable {N : Type} {V : N → Type} {R : Type}

/-- The whole batch follows the store, if each parameter does. -/
theorem Reading.Follows.foldlM [DecidableEq N] {reading : Reading ((name : N) → V name) P T}
    {text : String} {settings : Settings C P T}
    {stage : Pending P T → (name : N) × V name → Except String (Pending P T)}
    (hstage : ∀ stored pending parameter pending', reading.Follows text settings stored pending →
      stage pending parameter = .ok pending' →
      reading.Follows text settings (Function.update stored parameter.1 parameter.2) pending')
    {batch : List ((name : N) × V name)} {stored : (name : N) → V name}
    {pending pending' : Pending P T} (h : reading.Follows text settings stored pending)
    (hbatch : batch.foldlM stage pending = .ok pending') :
    reading.Follows text settings (storeBatch batch stored) pending' := by
  induction batch generalizing stored pending with
  | nil =>
    cases hbatch
    exact h
  | cons parameter batch ih =>
    rw [List.foldlM_cons] at hbatch
    cases hfirst : stage pending parameter with
    | error reason =>
      rw [hfirst] at hbatch
      cases hbatch
    | ok next =>
      rw [hfirst] at hbatch
      exact ih (hstage stored pending parameter next h hfirst) hbatch

namespace Kind

variable [DecidableEq N] {kind : Kind N V C P T R} {reading : Reading ((name : N) → V name) P T}
  {checks : Checks C P T}
  {stage : Bool → Pending P T → (name : N) × V name → Except String (Pending P T)}

/-- A sink configures itself as a reading says, and gathers its batches parameter by
parameter, each as the reading has it, before it commits them. -/
structure Reads (kind : Kind N V C P T R) (reading : Reading ((name : N) → V name) P T)
    (checks : Checks C P T)
    (stage : Bool → Pending P T → (name : N) × V name → Except String (Pending P T)) : Prop where
  configures : ∀ stored prior settings,
    kind.configureFromParameters stored prior = .ok ⟨⟩ settings ↔
      reading.Yields checks stored settings
  stages : ∀ active text (settings : Settings C P T) stored pending parameter pending',
    reading.Follows text settings stored pending → stage active pending parameter = .ok pending' →
    reading.Follows text settings (Function.update stored parameter.1 parameter.2) pending'
  answers : ∀ active batch settings, kind.onParametersSet active batch settings =
    Configuring.answer (do
      let pending ← require (batch.foldlM (stage active) settings.pending)
      pending.commit checks) settings

/-- The batches of a run are accepted. -/
def Accepts (kind : Kind N V C P T R) (s : State × Node ((name : N) → V name) C P T R)
    (input : Input Activation (List ((name : N) × V name))) : Prop :=
  ∀ batch, input = .parameters batch →
    (kind.onParametersSet (s.1 = .active) batch s.2.settings).1.successful = true

/-- Configuring from the store succeeds, an inactive or active node has what it gives, and an
inactive node that is cleaned up and configured again is set up as it was. -/
structure Reconfigures (kind : Kind N V C P T R)
    (s : State × Node ((name : N) → V name) C P T R) : Prop where
  succeeds : ∃ settings, ∀ prior, kind.configureFromParameters s.2.stored prior = .ok ⟨⟩ settings
  agrees : s.1 = .inactive ∨ s.1 = .active → ∀ prior,
    kind.configureFromParameters s.2.stored prior = .ok ⟨⟩ s.2.settings
  repeats : s.1 = .inactive → ∀ outside outside', ∃ cleaned configured,
    kind.managed.step s (.transition .cleanup outside) = some (.unconfigured, cleaned) ∧
    kind.managed.step (.unconfigured, cleaned) (.transition .configure outside') =
      some (.inactive, configured) ∧
    configured.stored = s.2.stored ∧ configured.settings = s.2.settings

/-- The settings of a node track its store, and an inactive or active one has its
subscriptions too. -/
def Reconciled (reading : Reading ((name : N) → V name) P T) (checks : Checks C P T)
    (s : State × Node ((name : N) → V name) C P T R) : Prop :=
  reading.Tracks checks s.2.stored s.2.settings ∧
    (s.1 = .inactive ∨ s.1 = .active → reading.Yields checks s.2.stored s.2.settings)

theorem answer_successful {m : Configuring C P T PUnit} {settings : Settings C P T}
    (h : (m.answer settings).1.successful = true) :
    m settings = .ok ⟨⟩ (m.answer settings).2 := by
  unfold Configuring.answer at h ⊢
  cases hrun : m settings with
  | ok _ settings' => rfl
  | error reason settings' =>
    rw [hrun] at h
    cases h

/-- An accepted batch leaves the settings tracking the store that has the batch in it. -/
theorem Reads.accepted (h : kind.Reads reading checks stage) {active : Bool}
    {batch : List ((name : N) × V name)} {stored : (name : N) → V name}
    {settings : Settings C P T} (htracks : reading.Tracks checks stored settings)
    (haccepted : (kind.onParametersSet active batch settings).1.successful = true) :
    reading.Tracks checks (storeBatch batch stored) (kind.onParametersSet active batch settings).2 ∧
    (reading.Yields checks stored settings → reading.Yields checks (storeBatch batch stored)
      (kind.onParametersSet active batch settings).2) := by
  rw [h.answers] at haccepted ⊢
  cases hgathered : batch.foldlM (stage active) settings.pending with
  | error reason =>
    rw [hgathered] at haccepted
    cases haccepted
  | ok pending =>
    rw [hgathered] at haccepted
    have hfollows : reading.Follows (reading.text stored) settings (storeBatch batch stored)
        pending := htracks.follows.foldlM (h.stages active _ _) hgathered
    have hcommit := hfollows.wp_commit htracks.parses htracks.broker_ok htracks.telemetry_ok
    obtain ⟨htracks', hsubscriptions⟩ := of_wp_ok hcommit (answer_successful haccepted)
    exact ⟨htracks', fun hyields => ⟨htracks', hsubscriptions hyields.subscriptions⟩⟩

/-- Configuring a node whose settings track its store succeeds. -/
theorem Reads.onConfigure (h : kind.Reads reading checks stage)
    {node : Node ((name : N) → V name) C P T R}
    (htracks : reading.Tracks checks node.stored node.settings) :
    ∃ settings, kind.onConfigure node = (.success, { node with settings }) ∧
      reading.Yields checks node.stored settings := by
  obtain ⟨target, htarget⟩ := htracks.exists_yields
  refine ⟨target, ?_, htarget⟩
  unfold Kind.onConfigure
  rw [(h.configures node.stored node.settings target).mpr htarget]

/-- **Step lemma.** A transition, or an accepted batch, keeps a node reconciled. -/
theorem Reads.step (h : kind.Reads reading checks stage)
    {s s' : State × Node ((name : N) → V name) C P T R}
    {input : Input Activation (List ((name : N) × V name))} (hs : Reconciled reading checks s)
    (haccepts : kind.Accepts s input) (hstep : kind.managed.step s input = some s') :
    Reconciled reading checks s' := by
  obtain ⟨htracks, hyields⟩ := hs
  cases input with
  | parameters batch =>
    cases hstep
    have haccepted := haccepts batch rfl
    have hstored : (kind.setParameters s.1 batch s.2).stored = storeBatch batch s.2.stored :=
      if_pos haccepted
    obtain ⟨htracks', hyields'⟩ := h.accepted htracks haccepted
    refine ⟨?_, fun hstate => ?_⟩
    · change reading.Tracks checks (kind.setParameters s.1 batch s.2).stored _
      rw [hstored]
      exact htracks'
    · change reading.Yields checks (kind.setParameters s.1 batch s.2).stored _
      rw [hstored]
      exact hyields' (hyields hstate)
  | transition transition outside =>
    obtain ⟨hstart, rfl⟩ := Managed.trigger_eq (fun _ => rfl) hstep
    cases transition with
    | configure =>
      obtain ⟨settings, hconfigure, htarget⟩ := h.onConfigure htracks
      have hcallback : kind.managed.callback .configure outside s.2 =
          (.success, { s.2 with settings }) := hconfigure
      rw [hcallback]
      exact ⟨htarget.toTracks, fun _ => htarget⟩
    -- the settings are not touched
    | activate =>
      have hinactive : s.1 = .inactive := of_decide_eq_true hstart
      exact ⟨htracks, fun _ => hyields (.inl hinactive)⟩
    | deactivate =>
      have hactive : s.1 = .active := of_decide_eq_true hstart
      exact ⟨htracks, fun _ => hyields (.inr hactive)⟩
    -- the configured subscriptions are gone, and the node is no longer inactive
    | cleanup =>
      refine ⟨htracks.withoutSubscriptions, fun hstate => ?_⟩
      rcases hstate with hstate | hstate <;> cases hstate
    | shutdown =>
      refine ⟨htracks.withoutSubscriptions, fun hstate => ?_⟩
      rw [Managed.stateAfter_shutdown] at hstate
      rcases hstate with hstate | hstate <;> cases hstate

/-- A reconciled node can be configured again. -/
theorem Reads.reconfigures (h : kind.Reads reading checks stage)
    {s : State × Node ((name : N) → V name) C P T R} (hs : Reconciled reading checks s) :
    kind.Reconfigures s where
  succeeds := by
    obtain ⟨target, htarget⟩ := hs.1.exists_yields
    exact ⟨target, fun prior => (h.configures s.2.stored prior target).mpr htarget⟩
  agrees hstate prior := (h.configures s.2.stored prior s.2.settings).mpr (hs.2 hstate)
  repeats hstate outside outside' := by
    have hyields : reading.Yields checks s.2.stored s.2.settings := hs.2 (.inl hstate)
    let cleaned := (kind.callback .cleanup outside s.2).2
    have htracks : reading.Tracks checks cleaned.stored cleaned.settings :=
      hs.1.withoutSubscriptions
    obtain ⟨settings, hconfigure, htarget⟩ := h.onConfigure htracks
    refine ⟨cleaned, { cleaned with settings }, ?_, ?_, rfl, htarget.unique hyields⟩
    · change kind.managed.trigger .cleanup outside s = _
      unfold Managed.trigger
      rw [hstate]
      rfl
    · change kind.managed.trigger .configure outside' (.unconfigured, cleaned) = _
      have hcallback : kind.managed.callback .configure outside' cleaned =
          (.success, { cleaned with settings }) := hconfigure
      simp only [Managed.trigger, hcallback]
      rfl

/-- **Configuring agrees with setting parameters.** From a node that has just been configured,
transitions and accepted batches in any order reach nodes that can be configured again. -/
theorem Reads.agreement (h : kind.Reads reading checks stage)
    {node configured : Node ((name : N) → V name) C P T R}
    {s : State × Node ((name : N) → V name) C P T R}
    (hconfigure : kind.onConfigure node = (.success, configured))
    (hruns : Runs kind.managed.step kind.Accepts (.inactive, configured) s) :
    kind.Reconfigures s := by
  have hyields : reading.Yields checks configured.stored configured.settings := by
    unfold Kind.onConfigure at hconfigure
    cases hrun : kind.configureFromParameters node.stored node.settings with
    | error reason settings =>
      rw [hrun] at hconfigure
      cases hconfigure
    | ok _ settings =>
      rw [hrun] at hconfigure
      cases hconfigure
      exact (h.configures node.stored node.settings settings).mp hrun
  have hinitial : Reconciled reading checks (.inactive, configured) :=
    ⟨hyields.toTracks, fun _ => hyields⟩
  exact h.reconfigures (hruns.invariant (fun _ _ _ hs haccepts hstep => h.step hs haccepts hstep)
    hinitial)

end Kind

end Kinds

/-! ### What the two sinks share -/

theorem wp_require_iff {α : Type} {check : Except String α} {settings : Settings C P T}
    {Q : α → Settings C P T → Prop} :
    wp (require check) Q (fun _ _ => False) settings ↔ ∃ a, check = .ok a ∧ Q a settings := by
  cases check with
  | ok a => simp [require]
  | error reason => simp [require]

theorem wp_require_unit_iff {check : Except String Unit} {settings : Settings C P T}
    {Q : Unit → Settings C P T → Prop} :
    wp (require check) Q (fun _ _ => False) settings ↔ check = .ok ⟨⟩ ∧ Q ⟨⟩ settings := by
  cases check with
  | ok a => simp [require]
  | error reason => simp [require]

/-- A parameter that an active node does not take was gathered by an inactive one. -/
theorem whileInactive_ok {active : Bool} {gathered : Except String (Pending P T)}
    {pending : Pending P T} (h : whileInactive active gathered = .ok pending) :
    gathered = .ok pending := by
  unfold whileInactive at h
  split at h
  · cases h
  · exact h

theorem validateQosDepth_ok_iff {depth : Int32} :
    validateQosDepth depth = .ok ⟨⟩ ↔ ¬depth ≤ 0 := by
  unfold validateQosDepth
  split <;> simp [*]

/-- The metrics settings in the store. -/
def readMetrics (values : (name : MetricsName) → name.Value) : MetricsSettings where
  enabled := values .enabled
  intervalMs := (values .intervalMs).toInt32
  topic := values .topic

theorem readMetrics_update (values : (name : MetricsName) → name.Value) (name : MetricsName)
    (value : name.Value) :
    readMetrics (Function.update values name value) = (readMetrics values).stage name value := by
  cases name <;> rfl

end Ros2Dispatcher.Sinks

namespace Ros2Dispatcher.KafkaSink

open Procedure Lifecycle Sinks

/-! ### `kafka_sink` -/

/-- The kafka parameters in the store, unless one of them names no mode or format. -/
def readKafka (values : (name : KafkaName) → name.Value) : Option KafkaParameters := do
  let topicMappingMode ← parseTopicMappingMode (values .topicMappingMode)
  let payloadFormat ← parsePayloadFormat (values .payloadFormat)
  return {
    bootstrapServers := values .bootstrapServers
    clientId := values .clientId
    acks := values .acks
    topicPrefix := values .topicPrefix
    messageKey := values .messageKey
    topicMappingMode
    fixedTopic := values .fixedTopic
    strictStartup := values .strictStartup
    maxQueueMessages := queueSize (values .maxQueueMessages)
    dropWhenFull := values .dropWhenFull
    lingerMs := nonNegative (values .lingerMs)
    batchSize := nonNegative (values .batchSize)
    payloadFormat }

/-- The telemetry settings in the store. -/
def readTelemetry (values : (name : TelemetryName) → name.Value) : Telemetry where
  enabled := values .enabled
  logEveryN := (values .logEveryN).toInt32

/-- How `kafka_sink` reads its store. -/
def reading : Reading Stored KafkaParameters Telemetry where
  text stored := stored .subscriptionsYaml
  depth stored := (stored .qosDepth).toInt32
  broker stored := readKafka fun name => stored (.kafka name)
  metrics stored := readMetrics fun name => stored (.metrics name)
  telemetry stored := readTelemetry fun name => stored (.telemetry name)

theorem readKafka_update {values : (name : KafkaName) → name.Value}
    {kafka kafka' : KafkaParameters} {name : KafkaName} {value : name.Value}
    (h : readKafka values = some kafka) (hstage : stageKafka kafka name value = .ok kafka') :
    readKafka (Function.update values name value) = some kafka' := by
  simp only [readKafka, Option.bind_eq_bind, Option.bind_eq_some_iff] at h ⊢
  obtain ⟨mode, hmode, format, hformat, h⟩ := h
  cases h
  cases name with
  | topicMappingMode =>
    cases hmode' : parseTopicMappingMode value with
    | none =>
      simp only [stageKafka, hmode'] at hstage
      cases hstage
    | some mode' =>
      simp only [stageKafka, hmode'] at hstage
      cases hstage
      exact ⟨mode', hmode', format, hformat, rfl⟩
  | payloadFormat =>
    cases hformat' : parsePayloadFormat value with
    | none =>
      simp only [stageKafka, hformat'] at hstage
      cases hstage
    | some format' =>
      simp only [stageKafka, hformat'] at hstage
      cases hstage
      exact ⟨mode, hmode, format', hformat', rfl⟩
  | _ =>
    cases hstage
    exact ⟨mode, hmode, format, hformat, rfl⟩

theorem readTelemetry_update (values : (name : TelemetryName) → name.Value)
    (name : TelemetryName) (value : name.Value) :
    readTelemetry (Function.update values name value) =
      (readTelemetry values).stage name value := by
  cases name <;> rfl

/-- One parameter of a batch is read as the store has it. -/
theorem stageParameter_follows {active : Bool} {text : String} {settings : Settings}
    {stored : Stored} {pending pending' : Pending} {parameter : Parameter}
    (h : reading.Follows text settings stored pending)
    (hstage : stageParameter active pending parameter = .ok pending') :
    reading.Follows text settings (Function.update stored parameter.1 parameter.2) pending' := by
  obtain ⟨name, value⟩ := parameter
  cases name with
  | subscriptionsYaml =>
    cases whileInactive_ok hstage
    exact { h with yaml := rfl }
  | qosDepth =>
    cases hstage
    exact { h with depth := rfl }
  | kafka name =>
    have hgathered := whileInactive_ok hstage
    have hbroker : readKafka (fun name => stored (.kafka name)) = some pending.broker := h.broker
    cases hkafka : stageKafka pending.broker name value with
    | error reason =>
      rw [hkafka] at hgathered
      cases hgathered
    | ok kafka =>
      rw [hkafka] at hgathered
      cases hgathered
      refine { h with broker := ?_, broker_kept := fun hkept => Bool.noConfusion hkept }
      have hread := readKafka_update hbroker hkafka
      rwa [← Function.update_comp_eq_of_injective' stored (fun _ _ => Name.kafka.inj) name value]
        at hread
  | metrics name =>
    cases whileInactive_ok hstage
    refine { h with metrics := ?_, metrics_kept := fun hkept => Bool.noConfusion hkept }
    have hread := readMetrics_update (fun name => stored (.metrics name)) name value
    rw [← Function.update_comp_eq_of_injective' stored (fun _ _ => Name.metrics.inj) name value]
      at hread
    change pending.metrics.stage name value = _
    rw [h.metrics]
    exact hread.symm
  | telemetry name =>
    cases hstage
    refine { h with telemetry := ?_, telemetry_kept := fun hkept => Bool.noConfusion hkept }
    have hread := readTelemetry_update (fun name => stored (.telemetry name)) name value
    rw [← Function.update_comp_eq_of_injective' stored (fun _ _ => Name.telemetry.inj) name value]
      at hread
    change pending.telemetry.stage name value = _
    rw [h.telemetry]
    exact hread.symm
  | other name =>
    cases hstage
    exact { h with }

/-- `configure_kafka_parameters` succeeds with the kafka parameters of the store, if these are
there and valid. -/
theorem wp_configureKafkaParameters_iff {stored : Stored} {settings : Settings}
    {Q : PUnit → Settings → Prop} :
    wp (configureKafkaParameters stored) Q (fun _ _ => False) settings ↔
      ∃ kafka, reading.broker stored = some kafka ∧ validateKafkaParameters kafka = .ok ⟨⟩ ∧
        Q ⟨⟩ { settings with broker := kafka } := by
  unfold configureKafkaParameters reading readKafka
  cases hmode : parseTopicMappingMode (stored (.kafka .topicMappingMode)) with
  | none => simp [hmode]
  | some mode =>
    cases hformat : parsePayloadFormat (stored (.kafka .payloadFormat)) with
    | none => simp [hmode, hformat]
    | some format => simp [hmode, hformat, wp_require_unit_iff]

theorem validateTelemetry_ok_iff {telemetry : Telemetry} :
    validateTelemetry telemetry = .ok ⟨⟩ ↔ ¬telemetry.logEveryN < 1 := by
  unfold validateTelemetry
  split <;> simp [*]

/-- `configure_from_parameters` succeeds with the settings of the store, if these pass their
checks. -/
theorem configureFromParameters_ok_iff {reader : YamlReader} {stored : Stored}
    {prior settings : Settings} :
    configureFromParameters reader stored prior = .ok ⟨⟩ settings ↔
      reading.Yields (kafkaChecks reader) stored settings := by
  rw [eq_ok_iff_wp]
  unfold configureFromParameters
  simp only [wp_bind, wp_modify, wp_get, wp_require_iff, wp_configureKafkaParameters_iff, wp_ite,
    wp_throw, wp_pure, imp_false]
  constructor
  · rintro ⟨_, hdepth, htelemetry, h⟩
    obtain ⟨configured, hparse, kafka, hkafka, hvalid, -, rfl⟩ := h htelemetry
    exact
      { parses := ⟨configured, hparse⟩
        depth := rfl
        depth_pos := validateQosDepth_ok_iff.mp hdepth
        broker := hkafka
        broker_ok := hvalid
        metrics := rfl
        telemetry := rfl
        telemetry_ok := if_neg htelemetry
        subscriptions := hparse }
  · intro h
    have htelemetry : ¬settings.telemetry.logEveryN < 1 :=
      validateTelemetry_ok_iff.mp h.telemetry_ok
    have hdepth := validateQosDepth_ok_iff.mpr h.depth_pos
    rw [h.telemetry] at htelemetry
    rw [h.depth] at hdepth
    refine ⟨⟨⟩, hdepth, htelemetry, fun _ => ⟨settings.configuredSubscriptions, h.subscriptions,
      settings.broker, h.broker, h.broker_ok, trivial, ?_⟩⟩
    obtain ⟨⟨-, hdepth', -, -, -, hmetrics, htelemetry', -⟩, -⟩ := h
    cases settings
    cases hdepth'
    cases hmetrics
    cases htelemetry'
    rfl

theorem kind_reads (reader : YamlReader) :
    (kind reader).Reads reading (kafkaChecks reader) stageParameter where
  configures _ _ _ := configureFromParameters_ok_iff
  stages _ _ _ _ _ _ _ := stageParameter_follows
  answers _ _ _ := rfl

end Ros2Dispatcher.KafkaSink

namespace Ros2Dispatcher.MosquittoSink

open Procedure Lifecycle Sinks

/-! ### `mosquitto_sink` -/

/-- The mqtt parameters in the store, unless one of them names no mode or format. -/
def readMqtt (values : (name : MqttName) → name.Value) : Option MqttParameters := do
  let topicMappingMode ← parseTopicMappingMode (values .topicMappingMode)
  let payloadFormat ← parsePayloadFormat (values .payloadFormat)
  return {
    brokerHost := values .brokerHost
    brokerPort := (values .brokerPort).toInt32
    clientId := values .clientId
    username := values .username
    password := values .password
    qos := (values .qos).toInt32
    retain := values .retain
    keepAliveSeconds := (values .keepAliveSeconds).toInt32
    topicPrefix := values .topicPrefix
    topicMappingMode
    fixedTopic := values .fixedTopic
    payloadFormat
    useTls := values .useTls
    caCertPath := values .caCertPath
    lwtTopic := values .lwtTopic
    lwtPayload := values .lwtPayload
    lwtQos := (values .lwtQos).toInt32
    lwtRetain := values .lwtRetain
    messageKey := values .messageKey }

/-- How `mosquitto_sink` reads its store. -/
def reading : Reading Stored MqttParameters PUnit where
  text stored := stored .subscriptionsYaml
  depth stored := (stored .qosDepth).toInt32
  broker stored := readMqtt fun name => stored (.mqtt name)
  metrics stored := readMetrics fun name => stored (.metrics name)
  telemetry _ := ⟨⟩

theorem readMqtt_update {values : (name : MqttName) → name.Value} {mqtt mqtt' : MqttParameters}
    {name : MqttName} {value : name.Value} (h : readMqtt values = some mqtt)
    (hstage : stageMqtt mqtt name value = .ok mqtt') :
    readMqtt (Function.update values name value) = some mqtt' := by
  simp only [readMqtt, Option.bind_eq_bind, Option.bind_eq_some_iff] at h ⊢
  obtain ⟨mode, hmode, format, hformat, h⟩ := h
  cases h
  cases name with
  | topicMappingMode =>
    cases hmode' : parseTopicMappingMode value with
    | none =>
      simp only [stageMqtt, hmode'] at hstage
      cases hstage
    | some mode' =>
      simp only [stageMqtt, hmode'] at hstage
      cases hstage
      exact ⟨mode', hmode', format, hformat, rfl⟩
  | payloadFormat =>
    cases hformat' : parsePayloadFormat value with
    | none =>
      simp only [stageMqtt, hformat'] at hstage
      cases hstage
    | some format' =>
      simp only [stageMqtt, hformat'] at hstage
      cases hstage
      exact ⟨mode, hmode, format', hformat', rfl⟩
  | _ =>
    cases hstage
    exact ⟨mode, hmode, format, hformat, rfl⟩

/-- One parameter of a batch is read as the store has it. -/
theorem stageParameter_follows {active : Bool} {text : String} {settings : Settings}
    {stored : Stored} {pending pending' : Pending} {parameter : Parameter}
    (h : reading.Follows text settings stored pending)
    (hstage : stageParameter active pending parameter = .ok pending') :
    reading.Follows text settings (Function.update stored parameter.1 parameter.2) pending' := by
  obtain ⟨name, value⟩ := parameter
  cases name with
  | subscriptionsYaml =>
    cases whileInactive_ok hstage
    exact { h with yaml := rfl }
  | qosDepth =>
    cases hstage
    exact { h with depth := rfl }
  | mqtt name =>
    have hgathered := whileInactive_ok hstage
    have hbroker : readMqtt (fun name => stored (.mqtt name)) = some pending.broker := h.broker
    cases hmqtt : stageMqtt pending.broker name value with
    | error reason =>
      rw [hmqtt] at hgathered
      cases hgathered
    | ok mqtt =>
      rw [hmqtt] at hgathered
      cases hgathered
      refine { h with broker := ?_, broker_kept := fun hkept => Bool.noConfusion hkept }
      have hread := readMqtt_update hbroker hmqtt
      rwa [← Function.update_comp_eq_of_injective' stored (fun _ _ => Name.mqtt.inj) name value]
        at hread
  | metrics name =>
    cases whileInactive_ok hstage
    refine { h with metrics := ?_, metrics_kept := fun hkept => Bool.noConfusion hkept }
    have hread := readMetrics_update (fun name => stored (.metrics name)) name value
    rw [← Function.update_comp_eq_of_injective' stored (fun _ _ => Name.metrics.inj) name value]
      at hread
    change pending.metrics.stage name value = _
    rw [h.metrics]
    exact hread.symm
  | other name =>
    cases hstage
    exact { h with }

/-- `configure_mqtt_parameters` succeeds with the mqtt parameters of the store, if these are
there and valid. -/
theorem wp_configureMqttParameters_iff {stored : Stored} {settings : Settings}
    {Q : PUnit → Settings → Prop} :
    wp (configureMqttParameters stored) Q (fun _ _ => False) settings ↔
      ∃ mqtt, reading.broker stored = some mqtt ∧ validateMqttParameters mqtt = .ok ⟨⟩ ∧
        Q ⟨⟩ { settings with broker := mqtt } := by
  unfold configureMqttParameters reading readMqtt
  cases hmode : parseTopicMappingMode (stored (.mqtt .topicMappingMode)) with
  | none => simp [hmode]
  | some mode =>
    cases hformat : parsePayloadFormat (stored (.mqtt .payloadFormat)) with
    | none => simp [hmode, hformat]
    | some format => simp [hmode, hformat, wp_require_unit_iff]

/-- `configure_from_parameters` succeeds with the settings of the store, if these pass their
checks. -/
theorem configureFromParameters_ok_iff {reader : YamlReader} {stored : Stored}
    {prior settings : Settings} :
    configureFromParameters reader stored prior = .ok ⟨⟩ settings ↔
      reading.Yields (mosquittoChecks reader) stored settings := by
  rw [eq_ok_iff_wp]
  unfold configureFromParameters
  simp only [wp_bind, wp_modify, wp_get, wp_require_iff, wp_configureMqttParameters_iff]
  constructor
  · rintro ⟨_, hdepth, configured, hparse, mqtt, hmqtt, hvalid, -, rfl⟩
    exact
      { parses := ⟨configured, hparse⟩
        depth := rfl
        depth_pos := validateQosDepth_ok_iff.mp hdepth
        broker := hmqtt
        broker_ok := hvalid
        metrics := rfl
        telemetry := rfl
        telemetry_ok := rfl
        subscriptions := hparse }
  · intro h
    have hdepth := validateQosDepth_ok_iff.mpr h.depth_pos
    rw [h.depth] at hdepth
    refine ⟨⟨⟩, hdepth, settings.configuredSubscriptions, h.subscriptions,
      settings.broker, h.broker, h.broker_ok, trivial, ?_⟩
    obtain ⟨⟨-, hdepth', -, -, -, hmetrics, -, -⟩, -⟩ := h
    cases settings
    cases hdepth'
    cases hmetrics
    rfl

theorem kind_reads (reader : YamlReader) :
    (kind reader).Reads reading (mosquittoChecks reader) stageParameter where
  configures _ _ _ := configureFromParameters_ok_iff
  stages _ _ _ _ _ _ _ := stageParameter_follows
  answers active batch settings := by
    change onParametersSet reader active batch settings = _
    unfold onParametersSet stageBatch
    simp only [mosquittoCommit]

end Ros2Dispatcher.MosquittoSink

namespace Ros2Dispatcher.Sinks

open Lifecycle

/-- **The two ways of configuring agree**, in both sinks: after a configuration that succeeded,
whatever transitions and accepted batches follow, `configure_from_parameters` succeeds on the
stored parameters, and with exactly the settings of the node, which cleaning up and
configuring again therefore brings back. -/
theorem configurations_agree (reader : YamlReader) :
    (∀ (node configured : KafkaSink.Node) (s : State × KafkaSink.Node),
      (KafkaSink.kind reader).onConfigure node = (.success, configured) →
      Runs (KafkaSink.kind reader).managed.step (KafkaSink.kind reader).Accepts
        (.inactive, configured) s →
      (KafkaSink.kind reader).Reconfigures s) ∧
    (∀ (node configured : MosquittoSink.Node) (s : State × MosquittoSink.Node),
      (MosquittoSink.kind reader).onConfigure node = (.success, configured) →
      Runs (MosquittoSink.kind reader).managed.step (MosquittoSink.kind reader).Accepts
        (.inactive, configured) s →
      (MosquittoSink.kind reader).Reconfigures s) := by
  constructor
  · intro node configured s hconfigure hruns
    exact (KafkaSink.kind_reads reader).agreement hconfigure hruns
  · intro node configured s hconfigure hruns
    exact (MosquittoSink.kind_reads reader).agreement hconfigure hruns

/-- A kafka_sink with its default parameters is configured and takes two batches, the second
one with a parameter of the first; a mosquitto_sink takes one. -/
theorem defaults_reconfigure :
    (∃ node, (KafkaSink.kind .oneEntry).Reconfigures (.inactive, node) ∧
      node.settings.qosDepth = 7 ∧ node.settings.configuredSubscriptions.length = 1) ∧
    (∃ node, (MosquittoSink.kind .oneEntry).Reconfigures (.inactive, node) ∧
      node.settings.broker.qos = 2) := by
  constructor
  · let kind := KafkaSink.kind .oneEntry
    let configured := (kind.onConfigure (KafkaSink.boot KafkaSink.defaults)).2
    let first : List KafkaSink.Parameter :=
      [⟨.qosDepth, (5 : Int64)⟩, ⟨.subscriptionsYaml, "[\x7btopic_name: /a, msg_type: T\x7d]"⟩]
    let second : List KafkaSink.Parameter := [⟨.qosDepth, (7 : Int64)⟩]
    let between := kind.setParameters .inactive first configured
    have hfirst : kind.Accepts (.inactive, configured) (.parameters first) := by
      rintro batch hbatch
      cases hbatch
      decide +kernel
    have hsecond : kind.Accepts (.inactive, between) (.parameters second) := by
      rintro batch hbatch
      cases hbatch
      decide +kernel
    have hconfigure : kind.onConfigure (KafkaSink.boot KafkaSink.defaults) =
        (.success, configured) := Prod.ext (by decide +kernel) rfl
    have hruns : Runs kind.managed.step kind.Accepts (.inactive, configured)
        (.inactive, kind.setParameters .inactive second between) :=
      (Runs.single hfirst rfl).tail hsecond rfl
    exact ⟨_, (configurations_agree .oneEntry).1 _ _ _ hconfigure hruns, by decide +kernel,
      by decide +kernel⟩
  · let kind := MosquittoSink.kind .oneEntry
    let configured := (kind.onConfigure (MosquittoSink.boot MosquittoSink.defaults)).2
    let batch : List MosquittoSink.Parameter := [⟨.mqtt .qos, (2 : Int64)⟩]
    have hbatch : kind.Accepts (.inactive, configured) (.parameters batch) := by
      rintro batch' hbatch'
      cases hbatch'
      decide +kernel
    have hconfigure : kind.onConfigure (MosquittoSink.boot MosquittoSink.defaults) =
        (.success, configured) := Prod.ext (by decide +kernel) rfl
    have hruns : Runs kind.managed.step kind.Accepts (.inactive, configured)
        (.inactive, kind.setParameters .inactive batch configured) := .single hbatch rfl
    exact ⟨_, (configurations_agree .oneEntry).2 _ _ _ hconfigure hruns, by decide +kernel⟩

end Ros2Dispatcher.Sinks
