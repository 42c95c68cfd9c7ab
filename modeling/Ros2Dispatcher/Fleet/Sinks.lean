import Ros2Dispatcher.Fleet.Calls

/-!
# What the sink procedures do to a sink

`Touches sink s s'` says that between two states only `sink` was talked to: the other sink,
the container and the controller are as before. Each procedure gets one specification,
which adds what became of the sink's own node, on success and on failure:

* a state that was read is the state the sink has (`quiesceSink_spec`);
* a failure never leaves a sink active that was not active before in the same way, except
  for an activation that was performed although its answer came too late;
* with every request answered, only a finalized sink makes a procedure fail.
-/

namespace Ros2Dispatcher

open Procedure

/-- The services of one sink. -/
def Service.IsOf (sink : Sink) (service : Service) : Prop :=
  service = .getState sink ∨ service = .changeState sink ∨ service = .setParameters sink

/-- Between `s` and `s'` only the services of `sink` were called, and nothing but the node of
`sink` changed. -/
structure Touches (sink : Sink) (s s' : NodeState World) : Prop where
  ctl : s'.ctl = s.ctl
  container : s'.env.fleet.container = s.env.fleet.container
  others : ∀ other, other ≠ sink → s'.env.fleet.sink other = s.env.fleet.sink other
  calls : Calls (Service.IsOf sink) s s'

/-- Every request to a sink is answered. -/
def Pattern.Serves (pattern : Pattern) (sink : Sink) : Prop :=
  ∀ service, service.IsOf sink → ∀ n, pattern.outcome service n = .answered

/-- Every service answers every request. -/
def Pattern.AllAnswered (pattern : Pattern) : Prop :=
  ∀ service n, pattern.outcome service n = .answered

theorem Pattern.AllAnswered.serves {pattern : Pattern} (h : pattern.AllAnswered) (sink : Sink) :
    pattern.Serves sink :=
  fun _ _ => h _

/-- A sink is configured, and the next query for its state gets a reply. -/
def NodeState.Reaches (s : NodeState World) (cfg : Setting) (pattern : Pattern) (sink : Sink) :
    Prop :=
  (cfg.params.sinkNodeName sink).isEmpty = false ∧
    (s.next pattern (.getState sink)).replies = true

/-! ### The node of a sink -/

section SinkNode

variable {node : SinkNode} {sink other : Sink} {fleet : Fleet}

@[simp]
theorem Fleet.sink_setSink : (fleet.setSink node sink).sink sink = node := by
  cases sink <;> rfl

theorem Fleet.sink_setSink_of_ne (h : other ≠ sink) :
    (fleet.setSink node sink).sink other = fleet.sink other := by
  cases sink <;> cases other <;> first | rfl | exact absurd rfl h

@[simp]
theorem Fleet.container_setSink : (fleet.setSink node sink).container = fleet.container := by
  cases sink <;> rfl

/-- The node once it is no longer active. -/
def SinkNode.stopped (node : SinkNode) : SinkNode :=
  if node.state.primary = .active then { node with state := .inactive } else node

/-- The node once it can take a new list and be activated, if it is not finalized. -/
def SinkNode.quiesced (node : SinkNode) : SinkNode :=
  if node.state = .finalized then node else { node with state := .inactive }

/-- The node running with the list `subs`. -/
def SinkNode.running (subs : List TopicInfo) : SinkNode :=
  ⟨.active subs, subs⟩

theorem SinkNode.isActive_iff : node.IsActive ↔ node.state.primary = .active := by
  rw [SinkNode.IsActive]
  cases node.state <;> simp [SinkState.primary]

theorem SinkNode.stopped_of_not_active (h : ¬node.IsActive) : node.stopped = node :=
  if_neg (mt SinkNode.isActive_iff.mpr h)

theorem SinkNode.not_isActive_stopped : ¬node.stopped.IsActive := by
  rw [SinkNode.stopped]
  split
  · rintro ⟨running, h⟩
    cases h
  next h => exact mt SinkNode.isActive_iff.mp h

theorem SinkNode.not_isActive_quiesced : ¬node.quiesced.IsActive := by
  rw [SinkNode.quiesced]
  split
  next h =>
    rintro ⟨running, hrunning⟩
    rw [h] at hrunning
    cases hrunning
  · rintro ⟨running, h⟩
    cases h

@[simp]
theorem SinkNode.subscriptions_quiesced : node.quiesced.subscriptions = node.subscriptions := by
  rw [SinkNode.quiesced]
  split <;> rfl

/-- Deactivation is a transition of active nodes only. -/
theorem SinkNode.transition_deactivate {node' : SinkNode}
    (h : node.transition .deactivate = some node') : node' = node.stopped := by
  rw [SinkNode.transition] at h
  split at h
  next running hstate =>
    rw [SinkNode.stopped, if_pos (by rw [hstate]; rfl)]
    exact (Option.some.inj h).symm
  · cases h

theorem SinkNode.transition_deactivate_ne_none (h : node.IsActive) :
    node.transition .deactivate ≠ none := by
  obtain ⟨running, hstate⟩ := h
  simp [SinkNode.transition, hstate]

theorem SinkNode.transition_activate {node' : SinkNode}
    (h : node.transition .activate = some node') :
    node.state = .inactive ∧ node' = .running node.subscriptions := by
  rw [SinkNode.transition] at h
  split at h
  next hstate => exact ⟨hstate, (Option.some.inj h).symm⟩
  · cases h

theorem SinkNode.transition_configure {node' : SinkNode}
    (h : node.transition .configure = some node') :
    node.state = .unconfigured ∧ node' = { node with state := .inactive } := by
  rw [SinkNode.transition] at h
  split at h
  next hstate => exact ⟨hstate, (Option.some.inj h).symm⟩
  · cases h

end SinkNode

/-! ### Frames -/

namespace Touches

variable {sink : Sink} {s s' s'' : NodeState World}

protected theorem refl : Touches sink s s :=
  ⟨rfl, rfl, fun _ _ => rfl, .refl⟩

protected theorem trans (h : Touches sink s s') (h' : Touches sink s' s'') :
    Touches sink s s'' :=
  ⟨h'.ctl.trans h.ctl, h'.container.trans h.container,
    fun other hne => (h'.others other hne).trans (h.others other hne), h.calls.trans h'.calls⟩

/-- A request that changes nothing. -/
theorem record {rpc : Rpc} {outcome : Outcome} (h : rpc.service.IsOf sink) :
    Touches sink s (s.record rpc outcome s.env.fleet) :=
  ⟨rfl, rfl, fun _ _ => rfl, .record h⟩

/-- A request that changes the node. -/
theorem recordSink {rpc : Rpc} {outcome : Outcome} {node : SinkNode}
    (h : rpc.service.IsOf sink) :
    Touches sink s (s.record rpc outcome (s.env.fleet.setSink node sink)) :=
  ⟨rfl, Fleet.container_setSink, fun _ => Fleet.sink_setSink_of_ne, .record h⟩

/-- Talking to a sink unloads nothing. -/
theorem unloads {ids : List Nat} {P : Fleet → Prop} (h : Touches sink s s') :
    Unloads ids P s s' :=
  h.calls.unloads (by simp [Service.IsOf])

end Touches

/-! ### Specifications -/

variable {cfg : Setting} {pattern : Pattern} {sink : Sink} {s : NodeState World}
variable {subs : List TopicInfo} {state : LifecycleState}

/-- From `s` on, `sink` was made to run with the list `subs`, or with its old list because its
parameter service was not found. -/
def Restarted (cfg : Setting) (pattern : Pattern) (sink : Sink) (subs : List TopicInfo)
    (s s' : NodeState World) : Prop :=
  s'.env.fleet.sink sink = .running subs ∧ s.next pattern (.setParameters sink) = .answered ∨
    s'.env.fleet.sink sink = .running (s.env.fleet.sink sink).subscriptions ∧
      s.next pattern (.setParameters sink) = .unavailable ∧ cfg.params.allowMissingSinks = true

/-- From `s` on, `sink` was stopped, or passed over because it is not configured or did not
answer. -/
def Halted (cfg : Setting) (pattern : Pattern) (sink : Sink) (s s' : NodeState World) : Prop :=
  s'.env.fleet.sink sink = (s.env.fleet.sink sink).stopped ∨
    s'.env.fleet.sink sink = s.env.fleet.sink sink ∧ ¬s.Reaches cfg pattern sink ∧
      ((cfg.params.sinkNodeName sink).isEmpty = true ∨ cfg.params.allowMissingSinks = true)

theorem Parameters.hasClients_of_name {params : Parameters}
    (h : ¬(params.sinkNodeName sink).isEmpty = true) : params.hasClients sink = true := by
  cases sink with
  | kafka => rfl
  | mosquitto => simpa [Parameters.hasClients, Parameters.sinkNodeName] using h

/-- A sink that was reached is not active once it was halted. -/
theorem Halted.not_isActive {s' : NodeState World} (h : Halted cfg pattern sink s s')
    (hreach : s.Reaches cfg pattern sink) : ¬(s'.env.fleet.sink sink).IsActive := by
  rcases h with h | ⟨-, hskipped, -⟩
  · rw [h]
    exact SinkNode.not_isActive_stopped
  · exact absurd hreach hskipped

theorem Pattern.Serves.next {service : Service} (h : pattern.Serves sink)
    (hservice : service.IsOf sink) : s.next pattern service = .answered :=
  h service hservice _

/-- A deactivation request. -/
theorem deactivate_spec (hclients : cfg.params.hasClients sink = true)
    (hactive : (s.env.fleet.sink sink).IsActive) :
    wp (changeSinkState cfg.params (cfg.environment pattern) sink .deactivate)
      (fun _ s' => Touches sink s s' ∧
        s'.env.fleet.sink sink = (s.env.fleet.sink sink).stopped ∧
        s'.env.count (.setParameters sink) = s.env.count (.setParameters sink))
      (fun _ s' => Touches sink s s' ∧
        ((s'.env.fleet.sink sink).IsActive → s'.env.fleet.sink sink = s.env.fleet.sink sink) ∧
        ¬pattern.Serves sink) s := by
  have hof : (Rpc.changeState sink .deactivate).service.IsOf sink := .inr (.inl rfl)
  refine wp_changeSinkState hclients (fun _ node hnode => ?_) (fun _ outcome houtcome hnone => ?_)
    fun hlate _ node hnode => ?_
  · exact ⟨.recordSink hof, by simp [SinkNode.transition_deactivate hnode],
      by simp [Rpc.service]⟩
  · refine ⟨.record hof, fun _ => rfl, fun hserves => ?_⟩
    exact SinkNode.transition_deactivate_ne_none hactive
      (hnone (houtcome.symm.trans (hserves.next hof)))
  · refine ⟨.recordSink hof, fun h => ?_, fun hserves => ?_⟩
    · rw [NodeState.record_fleet, Fleet.sink_setSink, SinkNode.transition_deactivate hnode] at h
      exact absurd h SinkNode.not_isActive_stopped
    · exact nomatch hlate.symm.trans (hserves.next hof)

/-- An activation request. -/
theorem activate_spec (hclients : cfg.params.hasClients sink = true) :
    wp (changeSinkState cfg.params (cfg.environment pattern) sink .activate)
      (fun _ s' => Touches sink s s' ∧
        s'.env.fleet.sink sink = .running (s.env.fleet.sink sink).subscriptions)
      (fun _ s' => Touches sink s s' ∧
        (pattern.NeverLate (.changeState sink) →
          s'.env.fleet.sink sink = s.env.fleet.sink sink) ∧
        (pattern.Serves sink → (s.env.fleet.sink sink).state ≠ .inactive)) s := by
  have hof : (Rpc.changeState sink .activate).service.IsOf sink := .inr (.inl rfl)
  refine wp_changeSinkState hclients (fun _ node hnode => ?_) (fun _ outcome houtcome hnone => ?_)
    fun hlate _ node hnode => ?_
  · exact ⟨.recordSink hof, by simp [(SinkNode.transition_activate hnode).2]⟩
  · refine ⟨.record hof, fun _ => rfl, fun hserves hinactive => ?_⟩
    have hrejects := hnone (houtcome.symm.trans (hserves.next hof))
    simp [SinkNode.transition, hinactive] at hrejects
  · refine ⟨.recordSink hof, fun hnever => absurd hlate (hnever _), fun hserves => ?_⟩
    exact nomatch hlate.symm.trans (hserves.next hof)

/-- A configuration request to an unconfigured sink. -/
private theorem configure_spec (hclients : cfg.params.hasClients sink = true)
    (hstate : (s.env.fleet.sink sink).state = .unconfigured) :
    wp (changeSinkState cfg.params (cfg.environment pattern) sink .configure)
      (fun _ s' => Touches sink s s' ∧
        s'.env.fleet.sink sink = { s.env.fleet.sink sink with state := .inactive } ∧
        s'.env.count (.setParameters sink) = s.env.count (.setParameters sink))
      (fun _ s' => Touches sink s s' ∧ ¬(s'.env.fleet.sink sink).IsActive ∧
        ¬pattern.Serves sink) s := by
  have hof : (Rpc.changeState sink .configure).service.IsOf sink := .inr (.inl rfl)
  refine wp_changeSinkState hclients (fun _ node hnode => ?_) (fun _ outcome houtcome hnone => ?_)
    fun hlate _ node hnode => ?_
  · exact ⟨.recordSink hof, by simp [(SinkNode.transition_configure hnode).2],
      by simp [Rpc.service]⟩
  · refine ⟨.record hof, ?_, fun hserves => ?_⟩
    · simp [SinkNode.IsActive, hstate]
    · have hrejects := hnone (houtcome.symm.trans (hserves.next hof))
      simp [SinkNode.transition, hstate] at hrejects
  · refine ⟨.recordSink hof, ?_, fun hserves => ?_⟩
    · simp [SinkNode.IsActive, (SinkNode.transition_configure hnode).2]
    · exact nomatch hlate.symm.trans (hserves.next hof)

/-- Bringing an active sink out of `ACTIVE` ends in a state that is read back. -/
private theorem leaveActive_spec (hclients : cfg.params.hasClients sink = true)
    (hactive : (s.env.fleet.sink sink).IsActive) :
    wp (leaveActive cfg.params (cfg.environment pattern) sink)
      (fun state s' => Touches sink s s' ∧ state = (s'.env.fleet.sink sink).state.primary ∧
        s'.env.fleet.sink sink = (s.env.fleet.sink sink).stopped ∧
        s'.env.count (.setParameters sink) = s.env.count (.setParameters sink))
      (fun _ s' => Touches sink s s' ∧
        ((s'.env.fleet.sink sink).IsActive → s'.env.fleet.sink sink = s.env.fleet.sink sink) ∧
        ¬pattern.Serves sink) s := by
  rw [leaveActive, wp_bind]
  refine wp_mono (deactivate_spec hclients hactive) (fun _ s' hs' => ?_) fun _ _ h => h
  obtain ⟨htouches, hnode, hcount⟩ := hs'
  have hof : (Service.getState sink).IsOf sink := .inl rfl
  rw [wp_bind]
  refine wp_getSinkState hclients (fun outcome _ _ => ?_) fun outcome houtcome hreplies => ?_
  · exact ⟨htouches.trans (.record hof), rfl, hnode, by simpa [Rpc.service] using hcount⟩
  · refine ⟨htouches.trans (.record hof), fun h => ?_, fun hserves => ?_⟩
    · rw [NodeState.record_fleet, hnode] at h
      exact absurd h SinkNode.not_isActive_stopped
    · rw [← houtcome, hserves.next hof] at hreplies
      cases hreplies

/-- After the deactivate-and-configure block the sink can take a new list. -/
theorem quiesceSink_spec (hclients : cfg.params.hasClients sink = true)
    (hstate : state = (s.env.fleet.sink sink).state.primary) :
    wp (quiesceSink cfg.params (cfg.environment pattern) sink state)
      (fun _ s' => Touches sink s s' ∧
        s'.env.fleet.sink sink = (s.env.fleet.sink sink).quiesced ∧
        s'.env.count (.setParameters sink) = s.env.count (.setParameters sink))
      (fun _ s' => Touches sink s s' ∧
        ((s'.env.fleet.sink sink).IsActive → s'.env.fleet.sink sink = s.env.fleet.sink sink) ∧
        ¬pattern.Serves sink) s := by
  rw [quiesceSink, wp_bind]
  refine wp_ite.mpr ⟨fun hactive => ?_, fun hactive => ?_⟩
  · have hnode := SinkNode.isActive_iff.mpr (hstate.symm.trans hactive)
    refine wp_mono (leaveActive_spec hclients hnode) (fun state' s' hs' => ?_) fun _ _ h => h
    obtain ⟨htouches, hstate', hstopped, hcount⟩ := hs'
    -- a node that was active is inactive now, so there is nothing to configure
    obtain ⟨running, hrunning⟩ := hnode
    have hinactive : (s.env.fleet.sink sink).stopped =
        { s.env.fleet.sink sink with state := .inactive } := by
      rw [SinkNode.stopped, if_pos (by rw [hrunning]; rfl)]
    have hquiesced : (s.env.fleet.sink sink).quiesced =
        { s.env.fleet.sink sink with state := .inactive } := by
      rw [SinkNode.quiesced, if_neg (by simp [hrunning])]
    rw [hstate', hstopped, hinactive]
    exact ⟨htouches, hstopped.trans (hinactive.trans hquiesced.symm), hcount⟩
  · rw [wp_pure, hstate]
    rw [hstate] at hactive
    cases hnode : (s.env.fleet.sink sink).state with
    | unconfigured =>
      refine wp_mono (configure_spec hclients hnode) (fun _ s' hs' => ?_) fun _ s' hs' => ?_
      · refine ⟨hs'.1, hs'.2.1.trans ?_, hs'.2.2⟩
        rw [SinkNode.quiesced, if_neg (by simp [hnode])]
      · exact ⟨hs'.1, fun h => absurd h hs'.2.1, hs'.2.2⟩
    | inactive =>
      refine ⟨.refl, ?_, rfl⟩
      rw [SinkNode.quiesced, if_neg (by simp [hnode]), ← hnode]
    | active running => exact absurd (by rw [hnode]; rfl) hactive
    | finalized =>
      refine ⟨.refl, ?_, rfl⟩
      rw [SinkNode.quiesced, if_pos hnode]

/-- A sink that is not active takes the list or, where missing sinks are allowed, is passed
over when its parameter service is not found. -/
theorem setSinkSubscriptionsYaml_spec (hclients : cfg.params.hasClients sink = true)
    (hactive : ¬(s.env.fleet.sink sink).IsActive) :
    wp (setSinkSubscriptionsYaml cfg.params (cfg.environment pattern) sink subs)
      (fun _ s' => Touches sink s s' ∧
        (s'.env.fleet.sink sink = { s.env.fleet.sink sink with subscriptions := subs } ∧
            s.next pattern (.setParameters sink) = .answered ∨
          s'.env.fleet.sink sink = s.env.fleet.sink sink ∧
            s.next pattern (.setParameters sink) = .unavailable ∧
            cfg.params.allowMissingSinks = true))
      (fun _ s' => Touches sink s s' ∧ ¬(s'.env.fleet.sink sink).IsActive ∧
        ¬pattern.Serves sink) s := by
  have hof : (Rpc.setSubscriptionsYaml sink subs).service.IsOf sink := .inr (.inr rfl)
  refine wp_setSinkSubscriptionsYaml hclients hactive (fun h => ?_) (fun h hallow => ?_)
    (fun _ outcome houtcome hne _ => ?_) fun hlate _ => ?_
  · exact ⟨.recordSink hof, .inl ⟨Fleet.sink_setSink, h⟩⟩
  · exact ⟨.record hof, .inr ⟨rfl, h, hallow⟩⟩
  · exact ⟨.record hof, hactive, fun hserves => hne (houtcome.symm.trans (hserves.next hof))⟩
  · refine ⟨.recordSink hof, ?_, fun hserves => ?_⟩
    · rw [NodeState.record_fleet, Fleet.sink_setSink]
      exact hactive
    · exact nomatch hlate.symm.trans (hserves.next hof)

/-- What stopping one sink does: an active sink that answers is deactivated, and one that
does not answer is left as it is. -/
theorem deactivateSink_spec :
    wp (deactivateSink cfg.params (cfg.environment pattern) sink)
      (fun _ s' => Touches sink s s' ∧ Halted cfg pattern sink s s')
      (fun _ s' => Touches sink s s' ∧
        ((s'.env.fleet.sink sink).IsActive → s'.env.fleet.sink sink = s.env.fleet.sink sink) ∧
        ¬pattern.Serves sink) s := by
  refine wp_ite.mpr ⟨fun hname => ⟨.refl, .inr ⟨rfl, ?_, .inl hname⟩⟩, fun hname => ?_⟩
  · simp [NodeState.Reaches, hname]
  have hclients := Parameters.hasClients_of_name hname
  have hquery : ∀ outcome, Touches sink s (s.record (.getState sink) outcome s.env.fleet) :=
    fun _ => .record (.inl rfl)
  rw [wp_bind]
  refine wp_getSinkState hclients (fun outcome _ _ => ?_) fun outcome houtcome hreplies => ?_
  · refine wp_ite.mpr ⟨fun hactive => ?_, fun hactive => ?_⟩
    · refine wp_mono (deactivate_spec hclients (SinkNode.isActive_iff.mpr hactive))
        (fun _ s' hs' => ?_) fun _ s' hs' => ?_
      · exact ⟨(hquery outcome).trans hs'.1, .inl hs'.2.1⟩
      · exact ⟨(hquery outcome).trans hs'.1, hs'.2⟩
    · refine ⟨hquery outcome, .inl ?_⟩
      exact (SinkNode.stopped_of_not_active (mt SinkNode.isActive_iff.mp hactive)).symm
  · have hreach : ¬s.Reaches cfg pattern sink := fun h => by simp [← houtcome, h.2] at hreplies
    refine wp_ite.mpr ⟨fun hallow => ?_, fun _ => ?_⟩
    · exact ⟨hquery outcome, .inr ⟨rfl, hreach, .inr hallow⟩⟩
    · refine ⟨hquery outcome, fun _ => rfl, fun hserves => hreach ⟨by simpa using hname, ?_⟩⟩
      rw [hserves.next (.inl rfl)]
      rfl

/-- What applying a list to one sink does: a sink that answers runs afterwards, with the
list, or with its old one where its parameter service was not found; a sink that does not
answer is left as it is. -/
theorem applySelectionToSink_spec :
    wp (applySelectionToSink cfg.params (cfg.environment pattern) sink subs)
      (fun _ s' => Touches sink s s' ∧
        (¬s.Reaches cfg pattern sink → s'.env.fleet.sink sink = s.env.fleet.sink sink) ∧
        (s.Reaches cfg pattern sink → Restarted cfg pattern sink subs s s'))
      (fun _ s' => Touches sink s s' ∧
        (pattern.Serves sink → (s.env.fleet.sink sink).state = .finalized)) s := by
  refine wp_ite.mpr ⟨fun hname => ⟨.refl, fun _ => rfl, fun h => ?_⟩, fun hname => ?_⟩
  -- a sink without a name is not asked for anything
  · rw [h.1] at hname
    cases hname
  have hclients := Parameters.hasClients_of_name hname
  have hquery : ∀ outcome, Touches sink s (s.record (.getState sink) outcome s.env.fleet) :=
    fun _ => .record (.inl rfl)
  rw [wp_bind]
  refine wp_getSinkState hclients (fun outcome houtcome hreplies => ?_)
    fun outcome houtcome hreplies => ?_
  · have hreach : s.Reaches cfg pattern sink :=
      ⟨by simpa using hname, by rw [houtcome]; exact hreplies⟩
    have hfirst := hquery outcome
    have hcount₁ : (s.record (.getState sink) outcome s.env.fleet).env.count
        (.setParameters sink) = s.env.count (.setParameters sink) := by simp [Rpc.service]
    dsimp only
    rw [wp_bind]
    -- the state was answered: deactivate, write the list, activate, each on what the last one left
    refine wp_mono (quiesceSink_spec hclients rfl) (fun _ s₂ hs₂ => ?_) fun _ s₂ hs₂ => ?_
    · obtain ⟨htouches₂, hnode₂, hcount₂⟩ := hs₂
      have hnext : s₂.next pattern (.setParameters sink) =
          s.next pattern (.setParameters sink) := by
        rw [NodeState.next, World.next, hcount₂, hcount₁]
        rfl
      have hactive : ¬(s₂.env.fleet.sink sink).IsActive := by
        rw [hnode₂]
        exact SinkNode.not_isActive_quiesced
      rw [wp_bind]
      refine wp_mono (setSinkSubscriptionsYaml_spec hclients hactive) (fun _ s₃ hs₃ => ?_)
        fun _ s₃ hs₃ => ?_
      · obtain ⟨htouches₃, hnode₃⟩ := hs₃
        rw [hnext, hnode₂] at hnode₃
        refine wp_mono (activate_spec hclients) (fun _ s₄ hs₄ => ?_) fun _ s₄ hs₄ => ?_
        · refine ⟨hfirst.trans (htouches₂.trans (htouches₃.trans hs₄.1)),
            fun h => absurd hreach h, fun _ => ?_⟩
          rcases hnode₃ with ⟨hnode₃, hanswered⟩ | ⟨hnode₃, hunavailable⟩
          · exact .inl ⟨by rw [hs₄.2, hnode₃], hanswered⟩
          · exact .inr ⟨by rw [hs₄.2, hnode₃, SinkNode.subscriptions_quiesced]; rfl, hunavailable⟩
        · refine ⟨hfirst.trans (htouches₂.trans (htouches₃.trans hs₄.1)), fun hserves => ?_⟩
          -- only a finalized sink is not inactive once it was quiesced
          have hstate := hs₄.2.2 hserves
          by_contra hfinal
          have hquiesced : (s.env.fleet.sink sink).quiesced.state = .inactive := by
            rw [SinkNode.quiesced, if_neg hfinal]
          rcases hnode₃ with ⟨hnode₃, -⟩ | ⟨hnode₃, -, -⟩ <;> rw [hnode₃] at hstate <;>
            exact hstate hquiesced
      · exact ⟨hfirst.trans (htouches₂.trans hs₃.1), fun hserves => absurd hserves hs₃.2.2⟩
    · exact ⟨hfirst.trans hs₂.1, fun hserves => absurd hserves hs₂.2.2⟩
  · have hreach : ¬s.Reaches cfg pattern sink := fun h => by simp [← houtcome, h.2] at hreplies
    -- no answer: with `allow_missing_sinks` the sink is passed over, without it that is the failure
    refine wp_ite.mpr ⟨fun _ => ⟨hquery outcome, fun _ => rfl, fun h => absurd h hreach⟩,
      fun _ => ⟨hquery outcome, fun hserves => absurd ⟨by simpa using hname, ?_⟩ hreach⟩⟩
    rw [hserves.next (.inl rfl)]
    rfl

end Ros2Dispatcher
