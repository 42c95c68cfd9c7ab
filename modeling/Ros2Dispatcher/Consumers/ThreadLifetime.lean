import Ros2Dispatcher.Consumers.Configuration

/-!
# The life of the consumer thread

A consumer assigns `consumer_thread_` at the end of `on_activate` and joins it in the callbacks
that lead out of `ACTIVE`. A `std::thread` that is joinable must be neither assigned nor
destroyed: either ends the process.

The thread is joinable exactly in `ACTIVE` (`Threaded.step`), and so no activation assigns
a joinable one. Neither node has a destructor, so the thread is destroyed as the last callback
left it: a node may be destroyed in every state but `ACTIVE` (`consumer_threads_disciplined_iff`).
-/

namespace Ros2Dispatcher.Consumers

open Lifecycle Procedure

section Kinds

variable {N : Type} {V : N → Type} {M : Type} {kind : Kind N V M}
variable {outside : Outside} {members : M} {held : Running}

/-! ### The assignment -/

/-- `on_activate` up to the assignment of `consumer_thread_`, and whether it gets there. -/
def Kind.prepare (kind : Kind N V M) (outside : Outside) (members : M) : Callback Bool := do
  if ← kind.start outside then
    modify fun held => { held with isActive := true }
    resetMetricsTimer (kind.metricsEnabled members) (kind.metricsIntervalMs members)
    modify fun held => { held with running := true }
    (if outside.threadThrows then throw "thread construction failed" else pure ⟨⟩)
    pure true
  else pure false

/-- `on_activate` is what comes before the assignment, and the assignment. -/
theorem Kind.onActivate_eq :
    kind.onActivate outside members = (do
      if ← kind.prepare outside members then
        modify fun held => { held with consumerThread := true }
        pure .success
      else pure .failure) := by
  unfold Kind.onActivate Kind.prepare
  rw [bind_assoc]
  congr 1
  funext started
  cases started with
  | false => rfl
  | true =>
    rw [if_pos rfl, if_pos rfl]
    simp only [bind_assoc, pure_bind, if_true]

/-- What the node holds when an activation assigns the thread, if it does. -/
def Kind.assignedOver (kind : Kind N V M) (outside : Outside) (members : M) (held : Running) :
    Option Running :=
  match kind.prepare outside members held with
  | .ok true held' => some held'
  | _ => none

/-! ### What the callbacks do to the thread -/

/-- The thread is left as it is. -/
abbrev KeepsThread {α : Type} (m : Callback α) : Prop :=
  ∀ joinable, Keeps (fun _ => True) (fun held => held.consumerThread = joinable) m

theorem resetMetricsTimer_keepsThread {enabled : Bool} {intervalMs : Int32} :
    KeepsThread (resetMetricsTimer enabled intervalMs) := by
  intro joinable
  refine .bind (fun _ h => h) fun _ => .bind (fun _ h => h) fun _ => .ite ?_ .pure
  exact .bind (.ite (.throw trivial) .pure) fun _ => fun _ h => h

theorem start_keepsThread : KeepsThread (kind.start outside) := by
  intro joinable
  refine .bind ?_ fun _ => .ite (.ite (.bind ?_ fun _ => .ite .pure ?_) .pure) .pure
  · cases outside.consumer with
    | started => exact fun _ h => h
    | refused => exact .pure
    | throws => exact .throw trivial
  · cases outside.producer with
    | started => exact fun _ h => h
    | refused => exact fun _ h => h
    | throws => exact fun _ h => ⟨trivial, h⟩
  · exact fun _ h => h

theorem prepare_keepsThread : KeepsThread (kind.prepare outside members) := by
  intro joinable
  refine .bind (start_keepsThread joinable) fun _ => .ite ?_ .pure
  refine .bind (fun _ h => h) fun _ => .bind (resetMetricsTimer_keepsThread joinable) fun _ => ?_
  exact .bind (fun _ h => h) fun _ => .bind (.ite (.throw trivial) .pure) fun _ => .pure

theorem stop_keepsThread : KeepsThread kind.stop := by
  intro joinable
  refine .bind (fun _ h => h) fun _ => .ite (fun _ h => h) .pure

/-- The thread that an activation assigns is the one it began with. -/
theorem assignedOver_thread {held' : Running}
    (h : kind.assignedOver outside members held = some held') :
    held'.consumerThread = held.consumerThread := by
  have hkeeps : wp (kind.prepare outside members)
      (fun _ held' => held'.consumerThread = held.consumerThread) (fun _ _ => True) held :=
    wp_mono (prepare_keepsThread held.consumerThread held rfl) (fun _ _ h => h) fun _ _ _ => trivial
  unfold Kind.assignedOver at h
  split at h
  next hrun =>
    cases h
    have hthread := of_wp_ok hkeeps hrun
    exact hthread
  next => cases h

/-- An activation that succeeds leaves the thread joinable, and one that does not as it was. -/
theorem onActivate_thread (kind : Kind N V M) (outside : Outside) (members : M)
    (held : Running) :
    let result := callbackResult (kind.onActivate outside members) held
    result.2.consumerThread = if result.1 = .success then true else held.consumerThread := by
  refine callbackResult_of_wp (Φ := fun result (held' : Running) =>
    held'.consumerThread = if result = .success then true else held.consumerThread) ?_
  rw [Kind.onActivate_eq, wp_bind]
  refine wp_mono (prepare_keepsThread held.consumerThread held rfl) (fun assigns held' h => ?_)
    fun _ _ h => h.2
  cases assigns with
  | true => rfl
  | false => exact h

/-- What comes after the thread is joined leaves it joined. -/
theorem wp_joinThread_bind {m : Callback CallbackReturn} (hm : KeepsThread m) :
    wp (joinThread >>= fun _ => m) (fun _ held' => held'.consumerThread = false)
      (fun _ held' => held'.consumerThread = false) held := by
  rw [joinThread, wp_bind, wp_modify]
  exact wp_mono (hm false _ rfl) (fun _ _ h => h) fun _ _ h => h.2

theorem onDeactivate_joins :
    (callbackResult (kind.onDeactivate members) held).2.consumerThread = false := by
  refine callbackResult_of_wp (Φ := fun _ (held' : Running) => held'.consumerThread = false) ?_
  refine wp_joinThread_bind fun joinable => ?_
  refine .bind (stop_keepsThread joinable) fun _ => .bind (fun _ h => h) fun _ => ?_
  exact .bind (resetMetricsTimer_keepsThread joinable) fun _ => .pure

theorem onCleanup_joins : (callbackResult kind.onCleanup held).2.consumerThread = false := by
  refine callbackResult_of_wp (Φ := fun _ (held' : Running) => held'.consumerThread = false) ?_
  rw [Kind.onCleanup, wp_bind]
  refine wp_joinThread_bind fun joinable => ?_
  exact .bind (stop_keepsThread joinable) fun _ => .bind (fun _ h => h) fun _ => .pure

theorem onShutdown_joins : (callbackResult kind.onShutdown held).2.consumerThread = false := by
  refine callbackResult_of_wp (Φ := fun _ (held' : Running) => held'.consumerThread = false) ?_
  rw [Kind.onShutdown, wp_bind]
  refine wp_joinThread_bind fun joinable => ?_
  exact .bind (stop_keepsThread joinable) fun _ => .pure

/-! ### Runs -/

variable [DecidableEq N] {s s' : State × Node ((name : N) → V name) M}
variable {input : Input Outside (List ((name : N) × V name))}

/-- The thread is joinable exactly in `ACTIVE`. -/
def Threaded (s : State × Node ((name : N) → V name) M) : Prop :=
  s.2.held.consumerThread = decide (s.1 = .active)

/-- **Step lemma.** -/
theorem Threaded.step (hs : Threaded s) (hstep : kind.managed.step s input = some s') :
    Threaded s' := by
  cases input with
  | parameters batch =>
    cases hstep
    exact hs
  | transition transition outside =>
    obtain ⟨hstart, rfl⟩ := Managed.trigger_eq (fun _ => rfl) hstep
    cases transition with
    | configure =>
      have hstate : s.1 = .unconfigured := of_decide_eq_true hstart
      have hidle : s.2.held.consumerThread = false := hs.trans (by simp [hstate])
      have hkept : (kind.onConfigure outside s.2).2.held.consumerThread = false := by
        unfold Kind.onConfigure
        dsimp only
        split
        · exact hidle
        · split <;> exact hidle
      change (kind.onConfigure outside s.2).2.held.consumerThread =
        decide (Managed.stateAfter .configure s.1 (kind.onConfigure outside s.2).1 = .active)
      rw [hkept, hstate]
      cases (kind.onConfigure outside s.2).1 <;> rfl
    | activate =>
      have hstate : s.1 = .inactive := of_decide_eq_true hstart
      have hidle : s.2.held.consumerThread = false := hs.trans (by simp [hstate])
      have hthread := onActivate_thread kind outside s.2.members s.2.held
      change (callbackResult (kind.onActivate outside s.2.members) s.2.held).2.consumerThread =
        decide (Managed.stateAfter .activate s.1
          (callbackResult (kind.onActivate outside s.2.members) s.2.held).1 = .active)
      rw [hthread, hidle, hstate]
      cases (callbackResult (kind.onActivate outside s.2.members) s.2.held).1 <;> rfl
    | deactivate =>
      have hstops : Stops (callbackResult (kind.onDeactivate s.2.members) s.2.held) :=
        onDeactivate_stops
      change (callbackResult (kind.onDeactivate s.2.members) s.2.held).2.consumerThread =
        decide (Managed.stateAfter .deactivate s.1
          (callbackResult (kind.onDeactivate s.2.members) s.2.held).1 = .active)
      rw [onDeactivate_joins, hstops.1]
      rfl
    | cleanup =>
      have hstops : Stops (callbackResult kind.onCleanup s.2.held) := onCleanup_stops
      change (callbackResult kind.onCleanup s.2.held).2.consumerThread =
        decide (Managed.stateAfter .cleanup s.1
          (callbackResult kind.onCleanup s.2.held).1 = .active)
      rw [onCleanup_joins, hstops.1]
      rfl
    | shutdown =>
      change (callbackResult kind.onShutdown s.2.held).2.consumerThread =
        decide (Managed.stateAfter .shutdown s.1
          (callbackResult kind.onShutdown s.2.held).1 = .active)
      rw [onShutdown_joins, Managed.stateAfter_shutdown]
      rfl

/-- A step of a life: a state and what the node is asked to do there. -/
abbrev Kind.Step (_ : Kind N V M) : Type :=
  (State × Node ((name : N) → V name) M) × Input Outside (List ((name : N) × V name))

/-- A life of a node that ends with its destruction in `s`: in every state the thread is
joinable exactly in `ACTIVE`, no activation assigns a joinable one, and none is destroyed. -/
structure Kind.Disciplined (kind : Kind N V M) (steps : List kind.Step)
    (s : State × Node ((name : N) → V name) M) : Prop where
  before : ∀ x ∈ steps, Threaded x.1
  last : Threaded s
  assigned : ∀ x ∈ steps, ∀ outside held, x.2 = .transition .activate outside →
    kind.assignedOver outside x.1.2.members x.1.2.held = some held → held.consumerThread = false
  destroyed : s.2.held.consumerThread = false

/-- A node keeps the discipline exactly if it is not destroyed in `ACTIVE`. -/
theorem Kind.disciplined_iff {steps : List kind.Step} (hs : Threaded s)
    (hpath : Path kind.managed.step s steps s') :
    kind.Disciplined steps s' ↔ s'.1 ≠ .active := by
  obtain ⟨hsteps, hlast⟩ := hpath.invariant (fun _ _ _ h hstep => h.step hstep) hs
  have hdestroyed : s'.2.held.consumerThread = false ↔ s'.1 ≠ .active := by
    rw [hlast, decide_eq_false_iff_not]
  refine ⟨fun h => hdestroyed.mp h.destroyed, fun h => ⟨hsteps, hlast, ?_, hdestroyed.mpr h⟩⟩
  intro x hx outside held hinput hassigned
  obtain ⟨before, after, s₁, -, -, hstep⟩ := Path.exists_of_mem hpath hx
  rw [hinput] at hstep
  -- an activation starts from `INACTIVE`, where the thread is joined
  have hstate : x.1.1 = .inactive :=
    of_decide_eq_true (Managed.trigger_eq (fun _ => rfl) hstep).1
  rw [assignedOver_thread hassigned, hsteps x hx, hstate]
  rfl

end Kinds

/-- **Consumer threads**: over every life of a `kafka_source` and of a `kafka_cdr_to_json`, with
every outcome of the starts of consumer and producer, the thread is treated as it has to be
exactly if the node is not destroyed in `ACTIVE`. -/
theorem consumer_threads_disciplined_iff (source : KafkaSource.Stored)
    (converter : KafkaCdrToJson.Stored) :
    (∀ (steps : List KafkaSource.kind.Step) (s : State × KafkaSource.Node),
      Path KafkaSource.kind.managed.step (.unconfigured, KafkaSource.boot source) steps s →
        (KafkaSource.kind.Disciplined steps s ↔ s.1 ≠ .active)) ∧
    (∀ (steps : List KafkaCdrToJson.kind.Step) (s : State × KafkaCdrToJson.Node),
      Path KafkaCdrToJson.kind.managed.step (.unconfigured, KafkaCdrToJson.boot converter)
          steps s →
        (KafkaCdrToJson.kind.Disciplined steps s ↔ s.1 ≠ .active)) :=
  ⟨fun _ _ => Kind.disciplined_iff rfl, fun _ _ => Kind.disciplined_iff rfl⟩

/-- A kafka_source may be destroyed after it was deactivated. -/
theorem consumer_threads_disciplined_deactivated :
    ∃ (steps : List KafkaSource.kind.Step) (s : State × KafkaSource.Node),
      Path KafkaSource.kind.managed.step (.unconfigured, KafkaSource.boot KafkaSource.defaults)
          steps s ∧
        steps.map Prod.snd = [.transition .configure {}, .transition .activate {},
          .transition .deactivate {}] ∧
        KafkaSource.kind.Disciplined steps s := by
  obtain ⟨s, hrun, hs⟩ := Option.map_eq_some_iff.mp (show
    (List.foldlM KafkaSource.kind.managed.step
      (.unconfigured, KafkaSource.boot KafkaSource.defaults)
      [.transition .configure {}, .transition .activate {}, .transition .deactivate {}]).map
        Prod.fst = some .inactive by decide +kernel)
  obtain ⟨steps, hsteps, hpath⟩ := Path.exists_of_foldlM hrun
  refine ⟨steps, s, hpath, hsteps, ?_⟩
  exact ((consumer_threads_disciplined_iff KafkaSource.defaults KafkaCdrToJson.defaults).1
    steps s hpath).mpr (by rw [hs]; decide)

/-- A kafka_source that is destroyed while it runs destroys a joinable thread. -/
theorem active_node_not_disciplined :
    ∃ (steps : List KafkaSource.kind.Step) (s : State × KafkaSource.Node),
      Path KafkaSource.kind.managed.step (.unconfigured, KafkaSource.boot KafkaSource.defaults)
          steps s ∧
        steps.map Prod.snd = [.transition .configure {}, .transition .activate {}] ∧
        s.2.held.consumerThread = true ∧ ¬KafkaSource.kind.Disciplined steps s := by
  obtain ⟨s, hrun, hs⟩ := Option.map_eq_some_iff.mp (show
    (List.foldlM KafkaSource.kind.managed.step
      (.unconfigured, KafkaSource.boot KafkaSource.defaults)
      [.transition .configure {}, .transition .activate {}]).map
        (fun s => s.2.held.consumerThread) = some true by decide +kernel)
  obtain ⟨steps, hsteps, hpath⟩ := Path.exists_of_foldlM hrun
  refine ⟨steps, s, hpath, hsteps, hs, fun h => ?_⟩
  exact Bool.noConfusion (hs.symm.trans h.destroyed)

end Ros2Dispatcher.Consumers
