import Ros2Dispatcher.Library.Fallible
import Ros2Dispatcher.Sinks.Rejection

/-!
# The subscriptions of an active sink

A `kafka_sink` copies its configuration into subscription records once, when it is activated.
The copies stay true because a node that is `ACTIVE` takes no parameter that they were made
of, accepted or not.

* `Kind.exists_activation`: an active sink was activated last, and has only been given
  parameters since.
* `onActivate_success`: an activation that succeeds has created every planned subscription.
* `active_subscriptions_mirror`: the records of an active `kafka_sink`.
-/

namespace Ros2Dispatcher.Sinks

open Lifecycle Procedure

/-! ### A successful activation -/

section Activating

variable {C P T R : Type} {held : Resources R}

/-- The loop that creates every subscription has appended every record. -/
theorem wp_createSubscriptions_created {create : Nat → CreateOutcome} {n : Nat}
    {planned : List (PlannedSubscription R)} :
    wp (createSubscriptions create n planned)
      (fun created held' => created = true → held'.activeSubscriptions =
        held.activeSubscriptions ++ planned.map PlannedSubscription.created)
      (fun _ _ => True) held := by
  induction planned generalizing n held with
  | nil => exact fun _ => (List.append_nil _).symm
  | cons first rest ih =>
    rw [createSubscriptions, wp_bind, wp_get, wp_bind, wp_set]
    cases create n with
    | throws => trivial
    | null => exact nofun
    | subscription =>
      rw [wp_bind, wp_set]
      refine wp_mono ih (fun created held' h hcreated => ?_) fun _ _ _ => trivial
      rw [h hcreated, List.append_assoc, List.map_cons]
      rfl

theorem startMetrics_keeps {metrics : MetricsSettings} {publisherThrows : Bool}
    {subscriptions : List (ActiveSubscription R)} :
    Keeps (fun _ => True) (fun held : Resources R => held.activeSubscriptions = subscriptions)
      (startMetrics metrics publisherThrows) := by
  unfold startMetrics
  refine .ite (.bind (.ite (.throw trivial) .pure) fun _ => ?_) .pure
  refine .bind (fun _ h => h) fun _ => ?_
  exact .bind (.ite (.throw trivial) .pure) fun _ _ h => h

/-- **An activation that succeeds** has a subscription for each planned one, in order. -/
theorem onActivate_success {outside : Activation} {metrics : MetricsSettings}
    {planned : List (PlannedSubscription R)}
    (hsuccess : (callbackResult (onActivate outside metrics planned) held).1 = .success) :
    (callbackResult (onActivate outside metrics planned) held).2.activeSubscriptions =
      planned.map PlannedSubscription.created := by
  revert hsuccess
  refine callbackResult_of_wp (Φ := fun result (held' : Resources R) => result = .success →
    held'.activeSubscriptions = planned.map PlannedSubscription.created) ?_
  rw [onActivate, wp_bind]
  cases outside.start with
  | started =>
    rw [startClient, wp_bind, wp_modify, wp_pure, if_pos rfl, wp_bind, buildSubscriptions,
      wp_bind, clearSubscriptions, wp_modify, wp_bind, wp_get, if_pos rfl]
    refine wp_mono wp_createSubscriptions_created (fun created held' h => ?_) fun _ _ _ => nofun
    cases created with
    | false => exact nofun
    | true =>
      rw [if_pos rfl, wp_bind, wp_modify, wp_bind]
      exact wp_mono (startMetrics_keeps _ (h rfl)) (fun _ _ h' _ => h') fun _ _ _ => nofun
  | refused => exact nofun
  | constructorThrows => exact nofun
  | startThrows => exact nofun

end Activating

/-! ### The last activation -/

section Runs

variable {C P T R N : Type} {V : N → Type} [DecidableEq N] {kind : Kind N V C P T R}
variable {s₀ s : State × Node ((name : N) → V name) C P T R}

/-- The steps in which a node is given parameters. -/
def GivesParameters {S : Type} (_ : State × Node S C P T R)
    (input : Input Activation (List ((name : N) × V name))) : Prop :=
  ∃ batch, input = .parameters batch

/-- The run from `s₀` to `s` ends with an activation by `outside`, followed by parameters. -/
structure Kind.ActivatedBy (kind : Kind N V C P T R) (outside : Activation)
    (s₀ before after s : State × Node ((name : N) → V name) C P T R) : Prop where
  reached : Ros2Dispatcher.Runs kind.managed.step (fun _ _ => True) s₀ before
  activates : kind.managed.step before (.transition .activate outside) = some after
  active : after.1 = .active
  since : Ros2Dispatcher.Runs kind.managed.step GivesParameters after s

/-- A transition that leads to `ACTIVE` is an activation. -/
theorem Kind.activate_of_active {transition : Lifecycle.Transition} {outside : Activation}
    {s s' : State × Node ((name : N) → V name) C P T R}
    (hstep : kind.managed.step s (.transition transition outside) = some s')
    (hactive : s'.1 = .active) : transition = .activate := by
  obtain ⟨hstart, rfl⟩ := Managed.trigger_eq (fun _ => rfl) hstep
  cases transition with
  | activate => rfl
  | configure =>
    have hstate : s.1 = .unconfigured := of_decide_eq_true hstart
    rw [hstate] at hactive
    cases hresult : (kind.managed.callback .configure outside s.2).1 <;>
      simp [hresult, Managed.stateAfter, Lifecycle.Transition.goal,
        Lifecycle.Transition.fallback] at hactive
  | deactivate => exact State.noConfusion hactive
  | cleanup => exact State.noConfusion hactive
  | shutdown =>
    rw [Managed.stateAfter_shutdown] at hactive
    cases hactive

/-- An active sink was activated last, and has only been given parameters since. -/
theorem Kind.exists_activation
    (hruns : Ros2Dispatcher.Runs kind.managed.step (fun _ _ => True) s₀ s)
    (hinitial : s₀.1 ≠ .active) (hactive : s.1 = .active) :
    ∃ outside before after, kind.ActivatedBy outside s₀ before after s := by
  induction hruns with
  | refl => exact absurd hactive hinitial
  | tail hruns hlast ih =>
    obtain ⟨input, -, hstep⟩ := hlast
    cases input with
    | parameters batch =>
      cases hstep
      obtain ⟨outside, before, after, hreached, hactivates, hafter, hsince⟩ := ih hactive
      exact ⟨outside, before, after, hreached, hactivates, hafter, hsince.tail ⟨batch, rfl⟩ rfl⟩
    | transition transition outside =>
      cases Kind.activate_of_active hstep hactive
      exact ⟨outside, _, _, hruns, hstep, hactive, .refl⟩

/-- An activation that leads to `ACTIVE` has created every planned subscription. -/
theorem Kind.activated_resources {outside : Activation}
    {s s' : State × Node ((name : N) → V name) C P T R}
    (hstep : kind.managed.step s (.transition .activate outside) = some s')
    (hactive : s'.1 = .active) :
    s'.2.resources.activeSubscriptions =
        (kind.planned s.2.settings outside).map PlannedSubscription.created ∧
      s'.2.settings = s.2.settings := by
  obtain ⟨hstart, rfl⟩ := Managed.trigger_eq (fun _ => rfl) hstep
  have hstate : s.1 = .inactive := of_decide_eq_true hstart
  refine ⟨onActivate_success ?_, rfl⟩
  have hafter : Managed.stateAfter .activate s.1 (callbackResult (onActivate outside
    s.2.settings.metrics (kind.planned s.2.settings outside)) s.2.resources).1 = .active := hactive
  rw [hstate] at hafter
  cases hresult : (callbackResult (onActivate outside s.2.settings.metrics
    (kind.planned s.2.settings outside)) s.2.resources).1 with
  | success => rfl
  | failure =>
    rw [hresult] at hafter
    cases hafter
  | error =>
    rw [hresult] at hafter
    cases hafter

end Runs

/-! ### Keeping settings -/

section Settings

variable {C P T : Type} {I : Settings C P T → Prop}

theorem require_keeps {α : Type} (check : Except String α) :
    Keeps (fun _ => True) I (require check) := by
  cases check with
  | ok a => exact .pure
  | error reason => exact .throw trivial

theorem require_bind_keeps {α : Type} {check : Except String α} {f : α → Configuring C P T PUnit}
    (hf : ∀ a, check = .ok a → Keeps (fun _ => True) I (f a)) :
    Keeps (fun _ => True) I (require check >>= f) := by
  cases check with
  | ok a => exact hf a rfl
  | error reason => exact .throw trivial

/-- A batch without subscriptions and broker parameters leaves both as they are. -/
theorem Pending.commit_keeps {checks : Checks C P T} {pending : Pending P T}
    (hyaml : pending.yaml = none) (hbroker : pending.brokerUpdate = false)
    {configured : List C} {broker : P} :
    Keeps (fun _ => True)
      (fun settings => settings.configuredSubscriptions = configured ∧ settings.broker = broker)
      (pending.commit checks) := by
  unfold Pending.commit Pending.commitSubscriptions Pending.commitBroker
  rw [hyaml, hbroker]
  refine .bind .pure fun _ => ?_
  refine .bind (.bind (require_keeps _) fun _ _ h => h) fun _ => ?_
  refine .bind .pure fun _ => ?_
  refine .bind (.ite (fun _ h => h) .pure) fun _ => ?_
  exact .ite (.bind (require_keeps _) fun _ _ h => h) .pure

/-- What a procedure keeps holds of the settings after a batch, accepted or not. -/
theorem answer_of_keeps {m : Configuring C P T PUnit} {settings : Settings C P T}
    (hm : Keeps (fun _ => True) I m) (h : I settings) : I (m.answer settings).2 := by
  have hwp := hm settings h
  unfold Configuring.answer
  cases hrun : m settings with
  | ok _ settings' => exact of_wp_ok hwp hrun
  | error reason settings' => exact (of_wp_error hwp hrun).2

end Settings

end Ros2Dispatcher.Sinks

namespace Ros2Dispatcher.KafkaSink

open Lifecycle Procedure Fallible Sinks

/-! ### `kafka_sink` -/

/-- An active node gathers no subscriptions and no broker parameters. -/
theorem stageBatch_active {settings : Settings} {batch : List Parameter} {pending : Pending}
    (h : stageBatch true settings batch = .ok pending) :
    pending.yaml = none ∧ pending.brokerUpdate = false := by
  refine foldlM_eq_ok_invariant (I := fun gathered : Pending =>
    gathered.yaml = none ∧ gathered.brokerUpdate = false) ?_ ⟨rfl, rfl⟩ h
  rintro gathered ⟨name, value⟩ gathered' hgathered hstage
  cases name with
  | qosDepth =>
    cases hstage
    exact hgathered
  | telemetry name =>
    cases hstage
    exact hgathered
  | other name =>
    cases hstage
    exact hgathered
  -- the other groups are refused
  | subscriptionsYaml => cases hstage
  | kafka name => cases hstage
  | metrics name => cases hstage

/-- **An active node keeps its subscriptions and kafka parameters**, whatever batch it is given
and however it answers. -/
theorem onParametersSet_active (reader : YamlReader) (batch : List Parameter)
    (settings : Settings) :
    (onParametersSet reader true batch settings).2.configuredSubscriptions =
        settings.configuredSubscriptions ∧
      (onParametersSet reader true batch settings).2.broker = settings.broker := by
  unfold onParametersSet
  cases hgathered : stageBatch true settings batch with
  | error reason => exact ⟨rfl, rfl⟩
  | ok pending =>
    obtain ⟨hyaml, hbroker⟩ := stageBatch_active hgathered
    have hkeeps : Keeps (fun _ => True)
        (fun settings' : Settings =>
          settings'.configuredSubscriptions = settings.configuredSubscriptions ∧
            settings'.broker = settings.broker)
        (pending.commit (kafkaChecks reader)) := Pending.commit_keeps hyaml hbroker
    exact answer_of_keeps hkeeps ⟨rfl, rfl⟩

/-! ### Message keys -/

/-- No key of a message is empty: neither the one of the node nor that of a subscription. -/
structure Keyed (settings : Settings) : Prop where
  messageKey : settings.broker.messageKey ≠ ""
  kafkaKey : ∀ config ∈ settings.configuredSubscriptions, config.kafkaKey ≠ some ""

theorem validateKafkaParameters_messageKey {kafka : KafkaParameters}
    (h : validateKafkaParameters kafka = .ok ⟨⟩) : kafka.messageKey ≠ "" := by
  intro hempty
  unfold validateKafkaParameters at h
  rw [if_pos hempty] at h
  split at h
  · cases h
  · split at h
    · cases h
    · split at h <;> cases h

theorem optionalText_ne {cpp : YamlCpp} {entry : Yaml} {key : String} {text : Option String}
    (h : optionalText cpp entry key = .ok text) : text ≠ some "" := by
  obtain ⟨field, -, h⟩ := bind_eq_ok_iff.mp h
  cases field with
  | none =>
    cases h
    exact nofun
  | some node =>
    obtain ⟨raw, -, h⟩ := bind_eq_ok_iff.mp h
    rw [← Except.ok.inj h]
    split
    · exact nofun
    next hraw => exact fun hempty => hraw (by rw [Option.some.inj hempty]; rfl)

theorem parseEntry_kafkaKey {cpp : YamlCpp} {node : Yaml} {config : SubscriptionConfig}
    (h : parseEntry cpp node = .ok config) : config.kafkaKey ≠ some "" := by
  cases node with
  | map entries =>
    obtain ⟨topic, -, h⟩ := bind_eq_ok_iff.mp h
    obtain ⟨type, -, h⟩ := bind_eq_ok_iff.mp h
    cases topic with
    | none => cases h
    | some topicNode =>
      cases type with
      | none => cases h
      | some typeNode =>
        obtain ⟨topicName, -, h⟩ := bind_eq_ok_iff.mp h
        obtain ⟨msgType, -, h⟩ := bind_eq_ok_iff.mp h
        obtain ⟨kafkaName, -, h⟩ := bind_eq_ok_iff.mp h
        obtain ⟨names, -, h⟩ := bind_eq_ok_iff.mp h
        obtain ⟨kafkaKey, hkey, h⟩ := bind_eq_ok_iff.mp h
        cases h
        exact optionalText_ne hkey
  | null => cases h
  | scalar text => cases h
  | sequence items => cases h

theorem parseSubscriptionsYaml_kafkaKey {reader : YamlReader} {text : String}
    {configured : List SubscriptionConfig}
    (h : parseSubscriptionsYaml reader text = .ok configured) :
    ∀ config ∈ configured, config.kafkaKey ≠ some "" := by
  unfold parseSubscriptionsYaml parseSubscriptions at h
  split at h
  · cases h
    exact nofun
  · split at h
    · cases h
    next entries _ =>
      cases hentries : entries.mapM (parseEntry reader.cpp) with
      | error failure =>
        rw [hentries] at h
        cases h
      | ok configs =>
        rw [hentries] at h
        cases h
        intro config hconfig
        obtain ⟨node, -, hnode⟩ := mapM_eq_ok_mem hentries config hconfig
        exact parseEntry_kafkaKey hnode
    · cases h

/-- Committing a batch keeps every key nonempty. -/
theorem commitPending_keyed (reader : YamlReader) (pending : Pending) :
    Keeps (fun _ => True) Keyed (commitPending reader pending) := by
  unfold commitPending
  refine .bind ?_ fun _ => .bind ?_ fun _ => .bind ?_ fun _ => .bind ?_ fun _ => ?_
  · unfold Pending.commitSubscriptions
    cases pending.yaml with
    | none => exact .pure
    | some text =>
      refine require_bind_keeps fun configured hparse settings h => ?_
      exact ⟨h.messageKey, parseSubscriptionsYaml_kafkaKey hparse⟩
  · exact require_bind_keeps fun _ _ settings h => ⟨h.messageKey, h.kafkaKey⟩
  · refine .ite (require_bind_keeps fun _ hvalid settings h => ?_) .pure
    exact ⟨validateKafkaParameters_messageKey hvalid, h.kafkaKey⟩
  · exact .ite (fun settings h => ⟨h.messageKey, h.kafkaKey⟩) .pure
  · exact .ite (require_bind_keeps fun _ _ settings h => ⟨h.messageKey, h.kafkaKey⟩) .pure

theorem configureFromParameters_keyed (reader : YamlReader) (stored : Stored) :
    Keeps (fun _ => True) Keyed (configureFromParameters reader stored) := by
  unfold configureFromParameters
  refine .bind (fun settings h => ⟨h.messageKey, h.kafkaKey⟩) fun _ => ?_
  refine .bind (fun _ h => h) fun settings => ?_
  refine require_bind_keeps fun _ _ => .bind (.ite (.throw trivial) .pure) fun _ => ?_
  refine require_bind_keeps fun configured hparse => ?_
  refine .bind (fun settings h => ⟨h.messageKey, parseSubscriptionsYaml_kafkaKey hparse⟩)
    fun _ => ?_
  unfold configureKafkaParameters
  split
  · exact .throw trivial
  · split
    · exact .throw trivial
    · refine require_bind_keeps fun _ hvalid settings h => ?_
      exact ⟨validateKafkaParameters_messageKey hvalid, h.kafkaKey⟩

/-- The settings of a node that has just been made have keys, and every step keeps them. -/
theorem keyed_of_runs {reader : YamlReader} {stored : Stored} {s : State × Node}
    (hruns : Ros2Dispatcher.Runs (kind reader).managed.step (fun _ _ => True)
      (.unconfigured, boot stored) s) : Keyed s.2.settings := by
  refine hruns.invariant (I := fun s : State × Node => Keyed s.2.settings) ?_
    ⟨show initialSettings.broker.messageKey ≠ "" by decide, nofun⟩
  rintro s input s' h - hstep
  cases input with
  | parameters batch =>
    cases hstep
    change Keyed (onParametersSet reader (s.1 = .active) batch s.2.settings).2
    unfold onParametersSet
    exact answer_of_keeps (require_bind_keeps fun pending _ => commitPending_keyed reader pending) h
  | transition transition outside =>
    obtain ⟨-, rfl⟩ := Managed.trigger_eq (fun _ => rfl) hstep
    cases transition with
    | configure =>
      have hconfigured := configureFromParameters_keyed reader s.2.stored s.2.settings h
      change Keyed ((kind reader).onConfigure s.2).2.settings
      unfold Kind.onConfigure
      cases hrun : (kind reader).configureFromParameters s.2.stored s.2.settings with
      | ok _ settings => exact of_wp_ok hconfigured hrun
      | error reason settings => exact (of_wp_error hconfigured hrun).2
    | activate => exact h
    | deactivate => exact h
    | cleanup => exact ⟨h.messageKey, nofun⟩
    | shutdown => exact ⟨h.messageKey, nofun⟩

/-! ### The records -/

/-- The record of a subscription is what the configuration says, for the type support that was
found when it was made. -/
structure MirrorsEntry (kafka : KafkaParameters) (load : LoadOutcome)
    (config : SubscriptionConfig) (active : ActiveSubscription SubscriptionRuntime) : Prop where
  subscription : active.subscription = true
  topicName : active.topicName = config.topicName
  msgType : active.msgType = config.msgType
  rosTopic : active.runtimeState.rosTopic = config.topicName
  runtimeMsgType : active.runtimeState.msgType = config.msgType
  kafkaTopic : active.runtimeState.kafkaTopic =
    mapKafkaTopic kafka (config.kafkaName.getD config.topicName)
  messageKeyBytes : active.runtimeState.messageKeyBytes =
    (config.kafkaKey.getD kafka.messageKey).toUTF8.data.toList
  messageKeyBytes_ne : active.runtimeState.messageKeyBytes ≠ []
  payloadFormat : active.runtimeState.payloadFormat =
    if kafka.payloadFormat = .json ∧ load.loaded = false then .cdr else kafka.payloadFormat

/-- The active subscriptions are those of the configuration, in order, made under `outside`. -/
structure Mirrors (outside : Activation) (node : Node) : Prop where
  length : node.resources.activeSubscriptions.length =
    node.settings.configuredSubscriptions.length
  entry : ∀ n config active, node.settings.configuredSubscriptions[n]? = some config →
    node.resources.activeSubscriptions[n]? = some active →
    MirrorsEntry node.settings.broker (outside.load n) config active

theorem toUTF8_ne_nil {text : String} (h : text ≠ "") : text.toUTF8.data.toList ≠ [] := by
  intro hnil
  refine h (String.utf8ByteSize_eq_zero_iff.mp ?_)
  have hsize : text.toUTF8.data.toList.length = 0 := congrArg List.length hnil
  rwa [Array.length_toList] at hsize

/-- The format of a new record: JSON only if the type support was loaded. -/
theorem newRuntime_payloadFormat (kafka : KafkaParameters) (load : LoadOutcome)
    (config : SubscriptionConfig) : (newRuntime kafka load config).payloadFormat =
      if kafka.payloadFormat = .json ∧ load.loaded = false then .cdr else kafka.payloadFormat := by
  unfold newRuntime
  cases hformat : kafka.payloadFormat with
  | cdr => simp
  | json => cases hloaded : load.loaded <;> simp

/-- The second attempt to load the type support changes nothing: a record in JSON has it. -/
theorem settle_newRuntime (kafka : KafkaParameters) (load reload : LoadOutcome)
    (config : SubscriptionConfig) :
    (newRuntime kafka load config).settle reload = newRuntime kafka load config := by
  refine if_neg ?_
  rintro ⟨hformat, hrmw⟩
  rw [newRuntime_payloadFormat] at hformat
  unfold newRuntime at hrmw
  split at hformat
  · cases hformat
  next hload =>
    rw [if_pos hformat] at hrmw
    have hloaded : load.loaded = true := by simpa [hformat] using hload
    rw [(load.both_of_loaded hloaded).1] at hrmw
    cases hrmw

/-- A planned subscription, once created, mirrors its entry. -/
theorem plannedSubscription_mirrors {kafka : KafkaParameters} {outside : Activation} {n : Nat}
    {config : SubscriptionConfig} (hkey : kafka.messageKey ≠ "")
    (hkafkaKey : config.kafkaKey ≠ some "") :
    MirrorsEntry kafka (outside.load n) config
      (plannedSubscription kafka outside n config).created := by
  have hruntime : (plannedSubscription kafka outside n config).created.runtimeState =
      newRuntime kafka (outside.load n) config := settle_newRuntime kafka _ _ config
  have hfields : (newRuntime kafka (outside.load n) config).rosTopic = config.topicName ∧
      (newRuntime kafka (outside.load n) config).msgType = config.msgType ∧
      (newRuntime kafka (outside.load n) config).kafkaTopic =
        mapKafkaTopic kafka (config.kafkaName.getD config.topicName) ∧
      (newRuntime kafka (outside.load n) config).messageKeyBytes =
        (config.kafkaKey.getD kafka.messageKey).toUTF8.data.toList := by
    unfold newRuntime
    split <;> exact ⟨rfl, rfl, rfl, rfl⟩
  have hbytes : config.kafkaKey.getD kafka.messageKey ≠ "" := by
    cases hconfig : config.kafkaKey with
    | none => exact hkey
    | some key => exact fun hempty => hkafkaKey (by rw [hconfig, ← hempty]; rfl)
  refine ⟨rfl, rfl, rfl, ?_, ?_, ?_, ?_, ?_, ?_⟩
  · rw [hruntime, hfields.1]
  · rw [hruntime, hfields.2.1]
  · rw [hruntime, hfields.2.2.1]
  · rw [hruntime, hfields.2.2.2]
  · rw [hruntime, hfields.2.2.2]
    exact toUTF8_ne_nil hbytes
  · rw [hruntime, newRuntime_payloadFormat]

/-- While a node is only given parameters, it stays active and keeps what it was activated
with. -/
theorem kept_since_activation {reader : YamlReader} {after s : State × Node}
    (hactive : after.1 = .active)
    (hruns : Ros2Dispatcher.Runs (kind reader).managed.step GivesParameters after s) :
    s.1 = .active ∧ s.2.resources = after.2.resources ∧
      s.2.settings.configuredSubscriptions = after.2.settings.configuredSubscriptions ∧
      s.2.settings.broker = after.2.settings.broker := by
  refine hruns.invariant (I := fun s : State × Node => s.1 = .active ∧
    s.2.resources = after.2.resources ∧
    s.2.settings.configuredSubscriptions = after.2.settings.configuredSubscriptions ∧
    s.2.settings.broker = after.2.settings.broker) ?_ ⟨hactive, rfl, rfl, rfl⟩
  rintro s input s' ⟨hstate, hresources, hconfigured, hbroker⟩ ⟨batch, rfl⟩ hstep
  cases hstep
  have hkept := onParametersSet_active reader batch s.2.settings
  have hsettings : ((kind reader).setParameters s.1 batch s.2).settings =
      (onParametersSet reader true batch s.2.settings).2 := by
    rw [hstate]
    rfl
  refine ⟨hstate, hresources, ?_, ?_⟩
  · exact (congrArg Sinks.Settings.configuredSubscriptions hsettings).trans
      (hkept.1.trans hconfigured)
  · exact (congrArg Sinks.Settings.broker hsettings).trans (hkept.2.trans hbroker)

/-- **The subscriptions of an active `kafka_sink` mirror its configuration**: in every active
state a node can reach, whatever transitions and parameters, accepted or not, led there, the
records are those of the current settings, under the type support that the last activation
found. -/
theorem active_subscriptions_mirror (reader : YamlReader) (stored : Stored) (node : Node)
    (hruns : Ros2Dispatcher.Runs (kind reader).managed.step (fun _ _ => True)
      (.unconfigured, boot stored) (.active, node)) :
    ∃ outside before after,
      (kind reader).ActivatedBy outside (.unconfigured, boot stored) before after (.active, node) ∧
      Mirrors outside node := by
  obtain ⟨outside, before, after, hactivated⟩ :=
    Kind.exists_activation hruns State.noConfusion rfl
  refine ⟨outside, before, after, hactivated, ?_⟩
  obtain ⟨-, hresources, hconfigured, hbroker⟩ :=
    kept_since_activation hactivated.active hactivated.since
  have hkeyed := keyed_of_runs hruns
  obtain ⟨hactivate, hsettings⟩ := Kind.activated_resources hactivated.activates hactivated.active
  have hplanned : (kind reader).planned before.2.settings outside =
      planned node.settings outside := by
    change planned before.2.settings outside = _
    unfold planned
    rw [← hsettings, ← hconfigured, ← hbroker]
  have hrecords : node.resources.activeSubscriptions =
      (planned node.settings outside).map PlannedSubscription.created := by
    rw [← hplanned, ← hactivate]
    exact congrArg Sinks.Resources.activeSubscriptions hresources
  constructor
  · rw [hrecords, List.length_map, planned, List.length_mapIdx]
  · intro n config active hconfig hrecord
    rw [hrecords, List.getElem?_map, planned, List.getElem?_mapIdx, hconfig] at hrecord
    cases hrecord
    exact plannedSubscription_mirrors hkeyed.messageKey
      (hkeyed.kafkaKey config (List.mem_of_getElem? hconfig))

/-- A node with one subscription is activated and then refuses a new kafka prefix. -/
theorem one_subscription_mirrors :
    ∃ outside node, Mirrors outside node ∧
      node.resources.activeSubscriptions.map (fun active => active.runtimeState.kafkaTopic) =
        ["ros2.a"] := by
  let inputs : List (Input Activation (List Parameter)) :=
    [.parameters [⟨.subscriptionsYaml, "[\x7btopic_name: /a, msg_type: T\x7d]"⟩],
      .transition .configure {}, .transition .activate {},
      .parameters [⟨.kafka .topicPrefix, "other"⟩]]
  obtain ⟨⟨state, node⟩, hnode, hstate⟩ := Option.map_eq_some_iff.mp (show
    (inputs.foldlM (kind .oneEntry).managed.step (.unconfigured, boot defaults)).map
      (fun s => (s.1, s.2.resources.activeSubscriptions.map
        fun active => active.runtimeState.kafkaTopic)) = some (.active, ["ros2.a"]) by
    decide +kernel)
  obtain ⟨hactive, htopics⟩ := Prod.mk.inj hstate
  cases hactive
  obtain ⟨outside, -, -, -, hmirrors⟩ := active_subscriptions_mirror .oneEntry defaults node
    (.of_foldlM hnode fun _ _ _ => trivial)
  exact ⟨outside, node, hmirrors, htopics⟩

end Ros2Dispatcher.KafkaSink
