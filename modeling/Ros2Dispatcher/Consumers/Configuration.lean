import Ros2Dispatcher.Consumers.KafkaCdrToJson
import Ros2Dispatcher.Consumers.KafkaSource

/-!
# What a consumer runs with

A consumer should run with members that are valid and that `configure_from_parameters` would
read from the stored values again (`Kind.Configured`). They are so in `ACTIVE`, and in
`INACTIVE`, from where `start_consumer` is entered, as long as no batch given in `INACTIVE` is
rejected: the callback writes the members before it checks them, and the activation does not
read them again.

The condition is exact (`Kind.upToDate_step_iff`): a batch that is rejected in `INACTIVE`
leaves members there that are not valid.
-/

namespace Ros2Dispatcher.Consumers

open Lifecycle Procedure

section Kinds

variable {N : Type} {V : N → Type} {M : Type} {kind : Kind N V M}
variable {s s' : State × Node ((name : N) → V name) M} {held : Running} {members : M}
variable {outside : Outside} {input : Input Outside (List ((name : N) × V name))}

/-- Valid members, which a new configuration would read again. -/
structure Kind.Configured (kind : Kind N V M) (node : Node ((name : N) → V name) M) : Prop where
  valid : kind.validateParameters node.members = .ok ⟨⟩
  stored : node.members = kind.read node.stored

/-- A node that runs, or can be activated, is configured. -/
def Kind.UpToDate (kind : Kind N V M) (s : State × Node ((name : N) → V name) M) : Prop :=
  s.1 = .inactive ∨ s.1 = .active → kind.Configured s.2

/-- A batch given in `INACTIVE` leads to valid members. -/
def Kind.Acceptable (kind : Kind N V M) (s : State × Node ((name : N) → V name) M) :
    Input Outside (List ((name : N) × V name)) → Prop
  | .parameters batch =>
    s.1 = .inactive → kind.validateParameters (batch.foldl kind.assign s.2.members) = .ok ⟨⟩
  | .transition _ _ => True

/-- `is_active_` is set in `ACTIVE` only, until the node is finalized. -/
def Flagged (s : State × Node ((name : N) → V name) M) : Prop :=
  s.1 ≠ .finalized → s.2.held.isActive = decide (s.1 = .active)

/-! ### The callbacks -/

/-- A procedure that does not touch `is_active_`. -/
theorem wp_resetMetricsTimer {enabled : Bool} {intervalMs : Int32}
    {Q : PUnit → Running → Prop} {E : String → Running → Prop}
    (hQ : ∀ held', held'.isActive = held.isActive → Q ⟨⟩ held')
    (hE : held.isActive = true → ∀ what held', E what held') :
    wp (resetMetricsTimer enabled intervalMs) Q E held := by
  unfold resetMetricsTimer
  rw [wp_bind, wp_modify, wp_bind, wp_get]
  refine wp_ite.mpr ⟨fun hactive => ?_, fun _ => hQ _ rfl⟩
  rw [wp_bind]
  refine wp_ite.mpr ⟨fun _ => hE ?_ _ _, fun _ => hQ _ rfl⟩
  exact (Bool.and_eq_true_iff.mp hactive).2

theorem wp_start {Q : Bool → Running → Prop} {E : String → Running → Prop}
    (hQ : ∀ started held', held'.isActive = held.isActive → Q started held')
    (hE : ∀ what held', E what held') : wp (kind.start outside) Q E held := by
  unfold Kind.start
  rw [wp_bind]
  cases outside.consumer with
  | throws => exact hE _ _
  | refused => exact hQ _ _ rfl
  | started =>
    rw [startConsumer, wp_bind, wp_modify, wp_pure, if_pos rfl]
    refine wp_ite.mpr ⟨fun _ => ?_, fun _ => hQ _ _ rfl⟩
    rw [wp_bind]
    cases outside.producer with
    | throws => exact hE _ _
    | refused => exact hQ _ _ rfl
    | started => exact hQ _ _ rfl

/-- An activation that succeeds sets `is_active_`, one that fails leaves it. -/
theorem onActivate_result :
    let result := callbackResult (kind.onActivate outside members) held
    (result.1 = .success → result.2.isActive = true) ∧
      (result.1 = .failure → result.2.isActive = held.isActive) := by
  refine callbackResult_of_wp (Φ := fun result (held' : Running) =>
    (result = .success → held'.isActive = true) ∧
      (result = .failure → held'.isActive = held.isActive)) ?_
  have herror : ∀ held' : Running,
      (CallbackReturn.error = .success → held'.isActive = true) ∧
        (CallbackReturn.error = .failure → held'.isActive = held.isActive) := fun _ =>
    ⟨fun h => CallbackReturn.noConfusion h, fun h => CallbackReturn.noConfusion h⟩
  rw [Kind.onActivate, wp_bind]
  refine wp_start (fun started held₁ hheld => ?_) fun _ => herror
  refine wp_ite.mpr ⟨fun _ => ?_, fun _ => ?_⟩
  · rw [wp_bind, wp_modify, wp_bind]
    refine wp_resetMetricsTimer (fun held₂ hactive => ?_) fun _ _ => herror
    rw [wp_bind, wp_modify, wp_bind]
    refine wp_ite.mpr ⟨fun _ => herror _, fun _ => ?_⟩
    exact ⟨fun _ => hactive, fun h => CallbackReturn.noConfusion h⟩
  · exact ⟨fun h => CallbackReturn.noConfusion h, fun _ => hheld⟩

theorem wp_stop {Q : PUnit → Running → Prop} {E : String → Running → Prop}
    (hQ : ∀ held', held'.isActive = held.isActive → Q ⟨⟩ held') : wp kind.stop Q E held := by
  unfold Kind.stop stopConsumer stopProducer
  rw [wp_bind, wp_modify]
  exact wp_ite.mpr ⟨fun _ => hQ _ rfl, fun _ => hQ _ rfl⟩

/-- The callbacks that stop a node succeed and reset `is_active_`. -/
def Stops (result : CallbackReturn × Running) : Prop :=
  result.1 = .success ∧ result.2.isActive = false

theorem onDeactivate_stops : Stops (callbackResult (kind.onDeactivate members) held) := by
  refine callbackResult_of_wp (Φ := fun result held' => Stops (result, held')) ?_
  unfold Kind.onDeactivate joinThread
  rw [wp_bind, wp_modify, wp_bind]
  refine wp_stop fun held₁ _ => ?_
  rw [wp_bind, wp_modify, wp_bind]
  exact wp_resetMetricsTimer (fun _ h => ⟨rfl, h⟩) fun h => Bool.noConfusion h

theorem onCleanup_stops : Stops (callbackResult kind.onCleanup held) := by
  refine callbackResult_of_wp (Φ := fun result held' => Stops (result, held')) ?_
  unfold Kind.onCleanup joinThread
  rw [wp_bind, wp_modify, wp_bind, wp_modify, wp_bind]
  refine wp_stop fun held₁ h => ?_
  exact ⟨rfl, h⟩

/-- A configuration leaves `is_active_`, and succeeds only with a configured node. -/
theorem onConfigure_result {node : Node ((name : N) → V name) M} :
    (kind.onConfigure outside node).2.held.isActive = node.held.isActive ∧
      ((kind.onConfigure outside node).1 = .success →
        kind.Configured (kind.onConfigure outside node).2) := by
  unfold Kind.onConfigure
  cases hcheck : kind.validateParameters (kind.read node.stored) with
  | error reason =>
    simp only [hcheck]
    exact ⟨trivial, fun h => CallbackReturn.noConfusion h⟩
  | ok =>
    cases outside.publisherThrows with
    | true =>
      simp only [hcheck, if_true]
      exact ⟨trivial, fun h => CallbackReturn.noConfusion h⟩
    | false =>
      simp only [hcheck, Bool.false_eq_true, if_false]
      exact ⟨trivial, fun _ => ⟨hcheck, rfl⟩⟩

/-! ### Steps -/

variable [DecidableEq N]

/-- `is_active_` follows the state in every step. -/
theorem Flagged.step (hs : Flagged s) (hstep : kind.managed.step s input = some s') :
    Flagged s' := by
  cases input with
  | parameters batch =>
    cases hstep
    exact hs
  | transition transition outside =>
    obtain ⟨hstart, rfl⟩ := Managed.trigger_eq (fun _ => rfl) hstep
    intro hfinal
    cases transition with
    | configure =>
      have hstate : s.1 = .unconfigured := of_decide_eq_true hstart
      have hidle : s.2.held.isActive = false := (hs (by simp [hstate])).trans (by simp [hstate])
      change (kind.onConfigure outside s.2).2.held.isActive =
        decide (Managed.stateAfter .configure s.1 (kind.onConfigure outside s.2).1 = .active)
      rw [onConfigure_result.1, hidle, hstate]
      cases (kind.onConfigure outside s.2).1 <;> rfl
    | activate =>
      have hstate : s.1 = .inactive := of_decide_eq_true hstart
      have hidle : s.2.held.isActive = false := (hs (by simp [hstate])).trans (by simp [hstate])
      change Managed.stateAfter .activate s.1
        (callbackResult (kind.onActivate outside s.2.members) s.2.held).1 ≠ .finalized at hfinal
      change (callbackResult (kind.onActivate outside s.2.members) s.2.held).2.isActive =
        decide (Managed.stateAfter .activate s.1
          (callbackResult (kind.onActivate outside s.2.members) s.2.held).1 = .active)
      rw [hstate] at hfinal ⊢
      cases hresult : (callbackResult (kind.onActivate outside s.2.members) s.2.held).1 with
      | success => exact onActivate_result.1 hresult
      | failure => exact (onActivate_result.2 hresult).trans hidle
      -- an exception ends in `FINALIZED`
      | error =>
        rw [hresult] at hfinal
        exact absurd rfl hfinal
    | deactivate =>
      have hstops : Stops (callbackResult (kind.onDeactivate s.2.members) s.2.held) :=
        onDeactivate_stops
      change (callbackResult (kind.onDeactivate s.2.members) s.2.held).2.isActive =
        decide (Managed.stateAfter .deactivate s.1
          (callbackResult (kind.onDeactivate s.2.members) s.2.held).1 = .active)
      rw [hstops.1, hstops.2]
      rfl
    | cleanup =>
      have hstops : Stops (callbackResult kind.onCleanup s.2.held) := onCleanup_stops
      change (callbackResult kind.onCleanup s.2.held).2.isActive =
        decide (Managed.stateAfter .cleanup s.1
          (callbackResult kind.onCleanup s.2.held).1 = .active)
      rw [hstops.1, hstops.2]
      rfl
    -- a finalized node is not asked any more
    | shutdown => simp at hfinal

/-- Only a configuration changes the members, and no transition the stored values. -/
theorem transition_members {transition : Lifecycle.Transition}
    (hstep : kind.managed.step s (.transition transition outside) = some s')
    (hne : transition ≠ .configure) : s'.2.members = s.2.members ∧ s'.2.stored = s.2.stored := by
  obtain ⟨-, rfl⟩ := Managed.trigger_eq (fun _ => rfl) hstep
  cases transition with
  | configure => exact absurd rfl hne
  | activate => exact ⟨rfl, rfl⟩
  | deactivate => exact ⟨rfl, rfl⟩
  | cleanup => exact ⟨rfl, rfl⟩
  | shutdown => exact ⟨rfl, rfl⟩

/-- An active node takes no parameters. -/
theorem setParameters_active {batch : List ((name : N) × V name)}
    {node : Node ((name : N) → V name) M} (hactive : node.held.isActive = true) :
    kind.setParameters batch node = node := by
  simp [Kind.setParameters, Kind.onParametersSet, hactive]

/-- A batch given to a configured node that is not active leaves it configured exactly if the
members it leads to are valid. -/
theorem setParameters_configured_iff (batch : List ((name : N) × V name))
    {node : Node ((name : N) → V name) M}
    (hread : ∀ stored parameter, kind.assign (kind.read stored) parameter =
      kind.read (Function.update stored parameter.1 parameter.2))
    (hidle : node.held.isActive = false) (hnode : kind.Configured node) :
    kind.Configured (kind.setParameters batch node) ↔
      kind.validateParameters (batch.foldl kind.assign node.members) = .ok ⟨⟩ := by
  have hmembers : (kind.setParameters batch node).members =
      batch.foldl kind.assign node.members := by
    simp only [Kind.setParameters, Kind.onParametersSet, hidle]
    cases kind.validateParameters (batch.foldl kind.assign node.members) <;> rfl
  constructor
  · intro h
    rw [← hmembers]
    exact h.valid
  · intro hvalid
    refine ⟨hmembers ▸ hvalid, ?_⟩
    have hstored : (kind.setParameters batch node).stored = storeBatch batch node.stored := by
      simp [Kind.setParameters, Kind.onParametersSet, hidle, hvalid]
    rw [hmembers, hstored, hnode.stored, foldl_read hread]

/-- **Step lemma.** A step keeps a node up to date exactly if it is acceptable. -/
theorem Kind.upToDate_step_iff
    (hread : ∀ stored parameter, kind.assign (kind.read stored) parameter =
      kind.read (Function.update stored parameter.1 parameter.2))
    (hflagged : Flagged s) (hs : kind.UpToDate s)
    (hstep : kind.managed.step s input = some s') :
    kind.UpToDate s' ↔ kind.Acceptable s input := by
  cases input with
  | parameters batch =>
    cases hstep
    change (s.1 = .inactive ∨ s.1 = .active → kind.Configured (kind.setParameters batch s.2)) ↔
      (s.1 = .inactive → _)
    by_cases hstate : s.1 = .inactive
    · have hidle : s.2.held.isActive = false :=
        (hflagged (by simp [hstate])).trans (by simp [hstate])
      have hconfigured := setParameters_configured_iff batch hread hidle (hs (.inl hstate))
      exact ⟨fun h _ => hconfigured.mp (h (.inl hstate)), fun h _ => hconfigured.mpr (h hstate)⟩
    · refine iff_of_true (fun h => ?_) fun h => absurd h hstate
      -- an active node refuses before it writes anything
      have hactive : s.1 = .active := h.resolve_left hstate
      rw [setParameters_active ((hflagged (by simp [hactive])).trans (by simp [hactive]))]
      exact hs h
  | transition transition outside =>
    refine iff_of_true ?_ trivial
    by_cases hconfigure : transition = .configure
    · subst hconfigure
      obtain ⟨hstart, rfl⟩ := Managed.trigger_eq (fun _ => rfl) hstep
      have hstate : s.1 = .unconfigured := of_decide_eq_true hstart
      change Managed.stateAfter .configure s.1 (kind.onConfigure outside s.2).1 = .inactive ∨
          Managed.stateAfter .configure s.1 (kind.onConfigure outside s.2).1 = .active →
        kind.Configured (kind.onConfigure outside s.2).2
      rw [hstate]
      cases hresult : (kind.onConfigure outside s.2).1 with
      | success => exact fun _ => onConfigure_result.2 hresult
      | failure => simp [Managed.stateAfter, Transition.fallback]
      | error => simp [Managed.stateAfter]
    · intro hstate
      -- such a step starts from a state that is up to date and keeps members and values
      have hfrom : s.1 = .inactive ∨ s.1 = .active := by
        obtain ⟨hstart, rfl⟩ := Managed.trigger_eq (fun _ => rfl) hstep
        cases transition with
        | configure => exact absurd rfl hconfigure
        | activate => exact .inl (of_decide_eq_true hstart)
        | deactivate => exact .inr (of_decide_eq_true hstart)
        | cleanup => exact .inl (of_decide_eq_true hstart)
        | shutdown => simp at hstate
      obtain ⟨hmembers, hstored⟩ := transition_members hstep hconfigure
      have hconfigured := hs hfrom
      exact ⟨hmembers ▸ hconfigured.valid,
        hmembers.trans (hconfigured.stored.trans (congrArg kind.read hstored.symm))⟩

/-- **Run lemma.** A run of acceptable steps keeps a node up to date, and goes on doing so
exactly with an acceptable step. -/
theorem Kind.upToDate_of_runs
    (hread : ∀ stored parameter, kind.assign (kind.read stored) parameter =
      kind.read (Function.update stored parameter.1 parameter.2))
    {node : Node ((name : N) → V name) M} (hidle : node.held.isActive = false)
    (hrun : Runs kind.managed.step kind.Acceptable (.unconfigured, node) s) :
    kind.UpToDate s ∧ ∀ input s', kind.managed.step s input = some s' →
      (kind.UpToDate s' ↔ kind.Acceptable s input) := by
  have hs : Flagged s ∧ kind.UpToDate s := by
    refine Runs.invariant (I := fun s => Flagged s ∧ kind.UpToDate s) ?_ hrun
      ⟨fun _ => hidle, fun h => by simp at h⟩
    intro s input s' hs hacceptable hstep
    exact ⟨hs.1.step hstep, (Kind.upToDate_step_iff hread hs.1 hs.2 hstep).mpr hacceptable⟩
  exact ⟨hs.2, fun _ _ hstep => Kind.upToDate_step_iff hread hs.1 hs.2 hstep⟩

end Kinds

/-- **Consumers run with a valid, stored configuration**: in `kafka_source` and in
`kafka_cdr_to_json`, in every state that a run of acceptable steps reaches; and a further step
keeps it so exactly if it is acceptable too. -/
theorem consumers_configured (source : KafkaSource.Stored) (converter : KafkaCdrToJson.Stored) :
    (∀ s : State × KafkaSource.Node,
      Runs KafkaSource.kind.managed.step KafkaSource.kind.Acceptable
          (.unconfigured, KafkaSource.boot source) s →
        KafkaSource.kind.UpToDate s ∧ ∀ input s', KafkaSource.kind.managed.step s input = some s' →
          (KafkaSource.kind.UpToDate s' ↔ KafkaSource.kind.Acceptable s input)) ∧
    (∀ s : State × KafkaCdrToJson.Node,
      Runs KafkaCdrToJson.kind.managed.step KafkaCdrToJson.kind.Acceptable
          (.unconfigured, KafkaCdrToJson.boot converter) s →
        KafkaCdrToJson.kind.UpToDate s ∧
          ∀ input s', KafkaCdrToJson.kind.managed.step s input = some s' →
            (KafkaCdrToJson.kind.UpToDate s' ↔ KafkaCdrToJson.kind.Acceptable s input)) :=
  ⟨fun _ => Kind.upToDate_of_runs KafkaSource.assign_read rfl,
    fun _ => Kind.upToDate_of_runs KafkaCdrToJson.assign_read rfl⟩

/-- A kafka_source that accepts a batch in `INACTIVE` is configured with it. -/
theorem consumers_configured_accepted :
    ∃ s, Runs KafkaSource.kind.managed.step KafkaSource.kind.Acceptable
        (.unconfigured, KafkaSource.boot KafkaSource.defaults) s ∧
      s.1 = .active ∧ s.2.members.qosDepth = 5 ∧ KafkaSource.kind.Configured s.2 := by
  have h : ((KafkaSource.kind.managed.step (.unconfigured, KafkaSource.boot KafkaSource.defaults)
      (.transition .configure {})).bind fun configured =>
        (KafkaSource.kind.managed.step configured (.parameters [⟨.qosDepth, (5 : Int64)⟩])).bind
          fun changed => (KafkaSource.kind.managed.step changed (.transition .activate {})).map
            fun s => (decide (configured.2.members = {}), s.1, s.2.members.qosDepth)) =
      some (true, .active, 5) := by
    decide +kernel
  obtain ⟨configured, hconfigured, h⟩ := Option.bind_eq_some_iff.mp h
  obtain ⟨changed, hchanged, h⟩ := Option.bind_eq_some_iff.mp h
  obtain ⟨s, hs, h⟩ := Option.map_eq_some_iff.mp h
  simp only [Prod.mk.injEq, decide_eq_true_eq] at h
  have hacceptable : KafkaSource.kind.Acceptable configured
      (.parameters [⟨.qosDepth, (5 : Int64)⟩]) := by
    intro _
    rw [h.1]
    decide
  have hrun : Runs KafkaSource.kind.managed.step KafkaSource.kind.Acceptable
      (.unconfigured, KafkaSource.boot KafkaSource.defaults) s :=
    ((Runs.single (by trivial) hconfigured).tail hacceptable hchanged).tail (by trivial) hs
  have hupToDate :=
    ((consumers_configured KafkaSource.defaults KafkaCdrToJson.defaults).1 s hrun).1
  exact ⟨s, hrun, h.2.1, h.2.2, hupToDate (.inr h.2.1)⟩

/-- A kafka_source that rejects an empty topic pattern in `INACTIVE` is activated with it. -/
theorem rejected_pattern_activated :
    ∃ s, Runs KafkaSource.kind.managed.step (fun _ _ => True)
        (.unconfigured, KafkaSource.boot KafkaSource.defaults) s ∧
      s.1 = .active ∧ s.2.members.kafkaParameters.topicPattern = "" ∧
        s.2.stored .topicPattern = "^ros2\\..*" ∧
        KafkaSource.validateParameters s.2.members =
          .error "kafka.topic_pattern must be non-empty." := by
  obtain ⟨s, hrun, hs⟩ := Option.map_eq_some_iff.mp (show
    (List.foldlM KafkaSource.kind.managed.step
      (.unconfigured, KafkaSource.boot KafkaSource.defaults)
      [.transition .configure {}, .parameters [⟨.topicPattern, ""⟩],
        .transition .activate {}]).map (fun s => (s.1, s.2.members.kafkaParameters.topicPattern,
          s.2.stored .topicPattern, KafkaSource.validateParameters s.2.members)) =
      some (.active, "", "^ros2\\..*", .error "kafka.topic_pattern must be non-empty.") by
    decide +kernel)
  simp only [Prod.mk.injEq] at hs
  exact ⟨s, .of_foldlM hrun fun _ _ _ => trivial, hs⟩

end Ros2Dispatcher.Consumers
