import Ros2Dispatcher.Sinks.KafkaSink
import Ros2Dispatcher.Sinks.MosquittoSink

/-!
# Releasing what a sink holds

Outside `ACTIVE` a sink should hold nothing: no client, no subscription, no metrics timer,
and `is_active_` is false (`Resources.Released`). The callbacks do not guarantee this. A
subscription that cannot be created leaves the records of the loop behind, and by an
exception the client too; an exception while the metrics are set up leaves everything; and
`on_shutdown` does not touch the metrics timer.

`Kind.Orderly` is the condition on one step under which none of this happens. It is exact:
from a state that holds nothing outside `ACTIVE`, a step leads to such a state if and only
if it is orderly (`Kind.holdsNothing_step_iff`), and so all states of a run of orderly
steps are (`sinks_released`).
-/

namespace Ros2Dispatcher.Sinks

open Lifecycle Procedure

/-- The resources of a sink that is not running. -/
structure Resources.Released {R : Type} (held : Resources R) : Prop where
  isActive : held.isActive = false
  client : held.client = false
  activeSubscriptions : held.activeSubscriptions = []
  metricsTimer : held.metricsTimer = false

/-- An activation that does not stop halfway: the client starts or refuses to, every
subscription is created, and the metrics can be set up if they are enabled. -/
structure Activation.Smooth (outside : Activation) (count : Nat) (metrics : MetricsSettings) :
    Prop where
  start : outside.start ≠ .startThrows
  create : outside.start = .started → ∀ n < count, outside.create n = .subscription
  metrics : outside.start = .started → metrics.enabled = true →
    outside.publisherThrows = false ∧ 0 ≤ metrics.intervalMs

section Callbacks

variable {C P T R : Type} {held : Resources R} {create : Nat → CreateOutcome}
variable {planned : List (PlannedSubscription R)} {outside : Activation}
variable {metrics : MetricsSettings}

/-! ### Building the subscriptions -/

/-- The loop appends every subscription if all are created. Otherwise it stops with the
record of the first one that is not still in the list. -/
theorem wp_createSubscriptions {Q : Bool → Resources R → Prop} {E : String → Resources R → Prop}
    {n : Nat}
    (hall : (∀ k < planned.length, create (n + k) = .subscription) → ∀ subscriptions,
      Q true { held with activeSubscriptions := subscriptions })
    (hnull : ¬(∀ k < planned.length, create (n + k) = .subscription) → ∀ subscriptions ≠ [],
      Q false { held with activeSubscriptions := subscriptions })
    (hthrow : ¬(∀ k < planned.length, create (n + k) = .subscription) → ∀ what subscriptions,
      E what { held with activeSubscriptions := subscriptions }) :
    wp (createSubscriptions create n planned) Q E held := by
  induction planned generalizing n held with
  | nil => exact hall (fun k hk => absurd hk (Nat.not_lt_zero k)) held.activeSubscriptions
  | cons first rest ih =>
    have hsplit : (∀ k < (first :: rest).length, create (n + k) = .subscription) ↔
        create n = .subscription ∧ ∀ k < rest.length, create (n + 1 + k) = .subscription := by
      constructor
      · intro h
        refine ⟨h 0 (Nat.zero_lt_succ _), fun k hk => ?_⟩
        rw [Nat.add_assoc, Nat.add_comm 1 k]
        exact h (k + 1) (Nat.succ_lt_succ hk)
      · rintro ⟨hfirst, hrest⟩ k hk
        cases k with
        | zero => exact hfirst
        | succ k =>
          rw [Nat.add_comm k 1, ← Nat.add_assoc]
          exact hrest k (Nat.lt_of_succ_lt_succ hk)
    simp only [hsplit] at hall hnull hthrow
    rw [createSubscriptions, wp_bind, wp_get, wp_bind, wp_set]
    cases hcreate : create n with
    | throws => exact hthrow (fun h => by simp [hcreate] at h) _ _
    | null => exact hnull (fun h => by simp [hcreate] at h) _ (by simp)
    | subscription =>
      rw [wp_bind, wp_set]
      refine ih (fun h => hall ⟨hcreate, h⟩) (fun h => hnull fun h' => h h'.2)
        fun h => hthrow fun h' => h h'.2

/-! ### Activating -/

/-- Setting up the metrics succeeds where nothing in it throws. -/
theorem wp_startMetrics {publisherThrows : Bool} {Q : PUnit → Resources R → Prop}
    {E : String → Resources R → Prop}
    (hok : (metrics.enabled = true → publisherThrows = false ∧ 0 ≤ metrics.intervalMs) →
      ∀ held' : Resources R, Q ⟨⟩ held')
    (hthrow : ¬(metrics.enabled = true → publisherThrows = false ∧ 0 ≤ metrics.intervalMs) →
      ∀ what (held' : Resources R), held'.isActive = held.isActive → E what held') :
    wp (startMetrics metrics publisherThrows) Q E held := by
  unfold startMetrics
  cases henabled : metrics.enabled with
  | false => exact hok (by simp [henabled]) held
  | true =>
    simp only [henabled, true_implies] at hok hthrow
    rw [if_pos rfl, wp_bind]
    cases publisherThrows with
    | true => exact hthrow (fun h => by simp at h) _ held rfl
    | false =>
      rw [if_neg Bool.false_ne_true, wp_pure, wp_bind, wp_modify, wp_bind]
      refine wp_ite.mpr ⟨fun hneg => ?_, fun hneg => hok ⟨rfl, Int32.not_lt.mp hneg⟩ _⟩
      exact hthrow (fun h => Int32.not_lt.mpr h.2 hneg) _ _ rfl

/-- From released resources an activation succeeds only if it is smooth, and otherwise
leaves the resources released if and only if it is. -/
theorem wp_onActivate (hreleased : held.Released) :
    wp (onActivate outside metrics planned)
      (fun result held' => if result = .success then outside.Smooth planned.length metrics
        else held'.Released ↔ outside.Smooth planned.length metrics)
      (fun _ held' => held'.Released ↔ outside.Smooth planned.length metrics) held := by
  have hidle : outside.start ≠ .started → outside.start ≠ .startThrows →
      outside.Smooth planned.length metrics := fun hstarted hthrows =>
    ⟨hthrows, fun h => absurd h hstarted, fun h => absurd h hstarted⟩
  rw [onActivate, wp_bind]
  -- by how far the start of the client gets
  cases hstart : outside.start with
  | constructorThrows =>
    exact iff_of_true hreleased (hidle (by simp [hstart]) (by simp [hstart]))
  | startThrows =>
    exact iff_of_false (fun h => Bool.noConfusion h.client) fun h => h.start hstart
  | refused =>
    refine iff_of_true ?_ (hidle (by simp [hstart]) (by simp [hstart]))
    exact ⟨hreleased.isActive, rfl, hreleased.activeSubscriptions, hreleased.metricsTimer⟩
  | started =>
    rw [startClient, wp_bind, wp_modify, wp_pure, if_pos rfl, wp_bind, buildSubscriptions,
      wp_bind, clearSubscriptions, wp_modify, wp_bind, wp_get, if_pos rfl]
    -- all subscriptions are created, or one is null, or one throws; what was created stays
    refine wp_createSubscriptions (fun hall subscriptions => ?_) (fun hnot subscriptions hne => ?_)
      fun hnot what subscriptions => ?_
    · have hcreate : ∀ n < planned.length, outside.create n = .subscription := fun n hn => by
        rw [← Nat.zero_add n]
        exact hall n hn
      rw [if_pos rfl, wp_bind, wp_modify, wp_bind]
      refine wp_startMetrics (fun hmetrics held' => ?_) fun hmetrics what held' hactive => ?_
      · rw [wp_pure, if_pos rfl]
        exact ⟨by simp [hstart], fun _ => hcreate, fun _ => hmetrics⟩
      · -- `is_active_` was set before the metrics
        refine iff_of_false (fun h => ?_) fun h => hmetrics (h.metrics hstart)
        rw [h.isActive] at hactive
        exact Bool.noConfusion hactive
    · refine iff_of_false (fun h => hne h.activeSubscriptions) fun h => hnot fun n hn => ?_
      rw [Nat.zero_add]
      exact h.create hstart n hn
    · refine iff_of_false (fun h => Bool.noConfusion h.client) fun h => hnot fun n hn => ?_
      rw [Nat.zero_add]
      exact h.create hstart n hn

/-- An activation succeeds only if it is smooth, and otherwise releases what it took if and
only if it is. -/
theorem onActivate_result (outside : Activation) (metrics : MetricsSettings)
    (planned : List (PlannedSubscription R)) (hreleased : held.Released) :
    ((callbackResult (onActivate outside metrics planned) held).1 = .success →
      outside.Smooth planned.length metrics) ∧
    ((callbackResult (onActivate outside metrics planned) held).1 ≠ .success →
      ((callbackResult (onActivate outside metrics planned) held).2.Released ↔
        outside.Smooth planned.length metrics)) := by
  refine callbackResult_of_wp (Φ := fun result (held' : Resources R) =>
    (result = .success → outside.Smooth planned.length metrics) ∧
    (result ≠ .success → (held'.Released ↔ outside.Smooth planned.length metrics))) ?_
  refine wp_mono (wp_onActivate hreleased) (fun result held' h => ?_) fun _ held' h => ?_
  · by_cases hresult : result = .success
    · rw [if_pos hresult] at h
      exact ⟨fun _ => h, fun hne => absurd hresult hne⟩
    · rw [if_neg hresult] at h
      exact ⟨fun heq => absurd heq hresult, fun _ => h⟩
  · exact ⟨fun heq => CallbackReturn.noConfusion heq, fun _ => h⟩

end Callbacks

/-! ### Steps -/

section Steps

variable {C P T R N : Type} {V : N → Type} [DecidableEq N] {kind : Kind N V C P T R}
variable {s s' : State × Node ((name : N) → V name) C P T R}
variable {input : Input Activation (List ((name : N) × V name))}

/-- Outside `ACTIVE` a sink holds nothing. -/
def HoldsNothing {S : Type} (s : State × Node S C P T R) : Prop :=
  s.1 ≠ .active → s.2.resources.Released

/-- A step that releases what it has to: an activation is smooth, and a shutdown from
`ACTIVE` finds no metrics timer. -/
def Kind.Orderly (kind : Kind N V C P T R) (s : State × Node ((name : N) → V name) C P T R) :
    Input Activation (List ((name : N) × V name)) → Prop
  | .transition .activate outside =>
    outside.Smooth (kind.planned s.2.settings outside).length s.2.settings.metrics
  | .transition .shutdown _ => s.1 = .active → s.2.resources.metricsTimer = false
  | _ => True

omit [DecidableEq N] in
theorem Kind.onConfigure_resources {node : Node ((name : N) → V name) C P T R} :
    (kind.onConfigure node).2.resources = node.resources := by
  unfold Kind.onConfigure
  split <;> rfl

/-- **Step lemma.** From a state that holds nothing outside `ACTIVE`, a step leads to such a
state exactly if it is orderly. -/
theorem Kind.holdsNothing_step_iff (hs : HoldsNothing s)
    (hstep : kind.managed.step s input = some s') : HoldsNothing s' ↔ kind.Orderly s input := by
  cases input with
  | parameters batch =>
    cases hstep
    exact iff_of_true hs trivial
  | transition transition outside =>
    obtain ⟨hstart, rfl⟩ := Managed.trigger_eq (fun _ => rfl) hstep
    cases transition with
    | configure =>
      have hstate : s.1 = .unconfigured := of_decide_eq_true hstart
      refine iff_of_true (fun _ => ?_) trivial
      rw [show (kind.managed.callback .configure outside s.2).2.resources = _ from
        Kind.onConfigure_resources]
      exact hs (by simp [hstate])
    | activate =>
      have hstate : s.1 = .inactive := of_decide_eq_true hstart
      have hactivated := onActivate_result outside s.2.settings.metrics
        (kind.planned s.2.settings outside) (hs (by simp [hstate]))
      change (Managed.stateAfter .activate s.1 (callbackResult (onActivate outside
          s.2.settings.metrics (kind.planned s.2.settings outside)) s.2.resources).1 ≠ .active →
        (callbackResult (onActivate outside s.2.settings.metrics
          (kind.planned s.2.settings outside)) s.2.resources).2.Released) ↔
        outside.Smooth (kind.planned s.2.settings outside).length s.2.settings.metrics
      generalize callbackResult (onActivate outside s.2.settings.metrics
        (kind.planned s.2.settings outside)) s.2.resources = result at hactivated ⊢
      rw [hstate]
      cases hresult : result.1 with
      | success => exact iff_of_true (fun h => absurd rfl h) (hactivated.1 hresult)
      | failure =>
        have hreleased := hactivated.2 (by simp [hresult])
        exact ⟨fun h => hreleased.mp (h (by simp [Managed.stateAfter, Transition.fallback])),
          fun h _ => hreleased.mpr h⟩
      | error =>
        have hreleased := hactivated.2 (by simp [hresult])
        exact ⟨fun h => hreleased.mp (h (by simp [Managed.stateAfter])), fun h _ => hreleased.mpr h⟩
    | deactivate => exact iff_of_true (fun _ => ⟨rfl, rfl, rfl, rfl⟩) trivial
    | cleanup => exact iff_of_true (fun _ => ⟨rfl, rfl, rfl, rfl⟩) trivial
    | shutdown =>
      -- only the metrics timer is left as it was
      refine ⟨fun h _ => (h (show State.finalized ≠ .active by simp)).metricsTimer,
        fun h _ => ⟨rfl, rfl, rfl, ?_⟩⟩
      by_cases hactive : s.1 = .active
      · exact h hactive
      · exact (hs hactive).metricsTimer

/-- **Run lemma.** A run of orderly steps keeps a sink released outside `ACTIVE`, and goes on
doing so exactly with an orderly step. -/
theorem Kind.holdsNothing_of_runs {s₀ : State × Node ((name : N) → V name) C P T R}
    (h₀ : HoldsNothing s₀) (hrun : Runs kind.managed.step kind.Orderly s₀ s) :
    HoldsNothing s ∧ ∀ input s', kind.managed.step s input = some s' →
      (HoldsNothing s' ↔ kind.Orderly s input) := by
  have hs : HoldsNothing s := Runs.invariant (fun _ _ _ hs horderly hstep =>
    (Kind.holdsNothing_step_iff hs hstep).mpr horderly) hrun h₀
  exact ⟨hs, fun _ _ hstep => Kind.holdsNothing_step_iff hs hstep⟩

end Steps

/-- **The resources follow the lifecycle** in both sinks, in every state that a run of orderly
steps reaches; and a further step keeps it so exactly if it is orderly too. -/
theorem sinks_released (reader : YamlReader) :
    (∀ (stored : KafkaSink.Stored) (s : State × KafkaSink.Node),
      Runs (KafkaSink.kind reader).managed.step (KafkaSink.kind reader).Orderly
          (.unconfigured, KafkaSink.boot stored) s →
        HoldsNothing s ∧ ∀ input s', (KafkaSink.kind reader).managed.step s input = some s' →
          (HoldsNothing s' ↔ (KafkaSink.kind reader).Orderly s input)) ∧
    (∀ (stored : MosquittoSink.Stored) (s : State × MosquittoSink.Node),
      Runs (MosquittoSink.kind reader).managed.step (MosquittoSink.kind reader).Orderly
          (.unconfigured, MosquittoSink.boot stored) s →
        HoldsNothing s ∧ ∀ input s', (MosquittoSink.kind reader).managed.step s input = some s' →
          (HoldsNothing s' ↔ (MosquittoSink.kind reader).Orderly s input)) :=
  ⟨fun _ _ => Kind.holdsNothing_of_runs fun _ => ⟨rfl, rfl, rfl, rfl⟩,
    fun _ _ => Kind.holdsNothing_of_runs fun _ => ⟨rfl, rfl, rfl, rfl⟩⟩

/-- A kafka_sink with metrics, activated and deactivated again, holds nothing. -/
theorem sinks_released_deactivated :
    ∃ activated s, Runs (KafkaSink.kind .oneEntry).managed.step
        (KafkaSink.kind .oneEntry).Orderly (.unconfigured, KafkaSink.boot KafkaSink.defaults)
        activated ∧
      activated.1 = .active ∧
      (KafkaSink.kind .oneEntry).managed.step activated (.transition .deactivate {}) = some s ∧
      s.1 = .inactive ∧ s.2.resources.Released := by
  have h : ((List.foldlM (KafkaSink.kind .oneEntry).managed.step
      (.unconfigured, KafkaSink.boot KafkaSink.defaults)
      [.parameters [⟨.metrics .enabled, true⟩], .transition .configure {}]).bind fun configured =>
        ((KafkaSink.kind .oneEntry).managed.step configured (.transition .activate {})).bind
          fun activated => ((KafkaSink.kind .oneEntry).managed.step activated
            (.transition .deactivate {})).map fun s =>
              (configured.2.settings.metrics.intervalMs, activated.1, s.1)) =
      some (1000, .active, .inactive) := by
    decide +kernel
  obtain ⟨configured, hconfigured, h⟩ := Option.bind_eq_some_iff.mp h
  obtain ⟨activated, hactivated, h⟩ := Option.bind_eq_some_iff.mp h
  obtain ⟨s, hs, h⟩ := Option.map_eq_some_iff.mp h
  simp only [Prod.mk.injEq] at h
  have hrun : Runs (KafkaSink.kind .oneEntry).managed.step (KafkaSink.kind .oneEntry).Orderly
      (.unconfigured, KafkaSink.boot KafkaSink.defaults) configured := by
    refine .of_foldlM hconfigured fun input hinput _ => ?_
    simp only [List.mem_cons, List.not_mem_nil, or_false] at hinput
    rcases hinput with rfl | rfl <;> trivial
  have hsmooth : (KafkaSink.kind .oneEntry).Orderly configured (.transition .activate {}) := by
    refine ⟨by simp, fun _ _ _ => rfl, fun _ _ => ⟨rfl, ?_⟩⟩
    rw [h.1]
    decide
  have horderly : (KafkaSink.kind .oneEntry).Orderly activated (.transition .deactivate {}) :=
    trivial
  have hreleased := ((sinks_released .oneEntry).1 _ _
    ((hrun.tail hsmooth hactivated).tail horderly hs)).1
  exact ⟨activated, s, hrun.tail hsmooth hactivated, h.2.1, hs, h.2.2,
    hreleased (by simp [h.2.2])⟩

/-- A shutdown from `ACTIVE` leaves the metrics timer of kafka_sink running, and an activation
of mosquitto_sink that gets no subscription leaves a record of it. -/
theorem sinks_leave_resources :
    (∃ s, Runs (KafkaSink.kind .oneEntry).managed.step (fun _ _ => True)
        (.unconfigured, KafkaSink.boot KafkaSink.defaults) s ∧
      s.1 = .finalized ∧ s.2.resources.metricsTimer = true) ∧
    (∃ s, Runs (MosquittoSink.kind .oneEntry).managed.step (fun _ _ => True)
        (.unconfigured, MosquittoSink.boot MosquittoSink.defaults) s ∧
      s.1 = .inactive ∧ s.2.resources.activeSubscriptions ≠ []) := by
  constructor
  · obtain ⟨s, hrun, hs⟩ := Option.map_eq_some_iff.mp (show
      (List.foldlM (KafkaSink.kind .oneEntry).managed.step
        (.unconfigured, KafkaSink.boot KafkaSink.defaults)
        [.parameters [⟨.metrics .enabled, true⟩], .transition .configure {},
          .transition .activate {}, .transition .shutdown {}]).map
            (fun s => (s.1, s.2.resources.metricsTimer)) = some (.finalized, true) by
      decide +kernel)
    rw [Prod.mk.injEq] at hs
    exact ⟨s, .of_foldlM hrun fun _ _ _ => trivial, hs⟩
  · obtain ⟨s, hrun, hs⟩ := Option.map_eq_some_iff.mp (show
      (List.foldlM (MosquittoSink.kind .oneEntry).managed.step
        (.unconfigured, MosquittoSink.boot MosquittoSink.defaults)
        [.parameters [⟨.subscriptionsYaml, "[{topic_name: /a, msg_type: T}]"⟩],
          .transition .configure {}, .transition .activate { create := fun _ => .null }]).map
            (fun s => (s.1, s.2.resources.activeSubscriptions.map ActiveSubscription.topicName)) =
        some (.inactive, ["/a"]) by decide +kernel)
    rw [Prod.mk.injEq] at hs
    refine ⟨s, .of_foldlM hrun fun _ _ _ => trivial, hs.1, fun hnil => ?_⟩
    rw [hnil] at hs
    cases hs.2

end Ros2Dispatcher.Sinks
