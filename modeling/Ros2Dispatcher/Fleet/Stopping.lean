import Ros2Dispatcher.Controller.Frame
import Ros2Dispatcher.Fleet.Tools

/-!
# What `stop_streaming` does to the fleet

The calls of `stop_streaming` halt kafka_sink, then mosquitto_sink, then clear the tools.
`stopPipeline_spec` says what is left after success and after a failure of any of the
three, and that by the time a tool is unloaded every sink that could be reached is not
active.
-/

namespace Ros2Dispatcher

open Procedure

variable {cfg : Setting} {pattern : Pattern} {s s' : NodeState World}

/-- The fleets in which the calls of `stop_streaming`, made from `s` on, unload tools. -/
def NodeState.ReachedQuiet (s : NodeState World) (cfg : Setting) (pattern : Pattern)
    (fleet : Fleet) : Prop :=
  ∀ sink, s.Reaches cfg pattern sink → ¬(fleet.sink sink).IsActive

/-- The states the calls of `stop_streaming` fail in: a sink failed, and the tools are
untouched, or the sinks are halted, and clearing the tools failed. -/
inductive StopFailed (cfg : Setting) (pattern : Pattern) (s s' : NodeState World) : Prop
  | sink (sink : Sink) (toolbox : s'.toolbox = s.toolbox)
    (kafka : s'.env.fleet.kafka.IsActive → s'.env.fleet.kafka = s.env.fleet.kafka)
    (mosquitto : pattern.Serves .mosquitto → s'.env.fleet.mosquitto = s.env.fleet.mosquitto)
    (why : ¬pattern.Serves sink)
  | clear (done : List ActiveTopicTool) (tool : ActiveTopicTool) (rest : List ActiveTopicTool)
    (tools : s.ctl.trackedTools = done ++ tool :: rest)
    (toolbox : UnloadFailed pattern (s.env.count .unloadNode) s.toolbox done tool s'.toolbox)
    (halted : ∀ sink, Halted cfg pattern sink s s')

/-- A halted sink that is still active was passed over. -/
theorem Halted.isActive_imp {sink : Sink} (h : Halted cfg pattern sink s s')
    (hactive : (s'.env.fleet.sink sink).IsActive) :
    s'.env.fleet.sink sink = s.env.fleet.sink sink := by
  rcases h with h | ⟨h, -⟩
  · rw [h] at hactive
    exact absurd hactive SinkNode.not_isActive_stopped
  · exact h

/-- The state in which the tools are about to be unloaded: both sinks are halted, and nothing
else has changed. -/
structure SinksHalted (cfg : Setting) (pattern : Pattern) (s s' : NodeState World) : Prop where
  ctl : s'.ctl = s.ctl
  toolbox : s'.toolbox = s.toolbox
  unloads : Unloads s.ctl.trackedIds (s.ReachedQuiet cfg pattern) s s'
  unloadCount : s'.env.count .unloadNode = s.env.count .unloadNode
  halted : ∀ sink, Halted cfg pattern sink s s'

/-- kafka_sink and mosquitto_sink are halted one after the other. -/
private theorem sinksHalted_of_touches {s₁ s₂ : NodeState World} (htouches₁ : Touches .kafka s s₁)
    (hhalted₁ : Halted cfg pattern .kafka s s₁) (htouches₂ : Touches .mosquitto s₁ s₂)
    (hhalted₂ : Halted cfg pattern .mosquitto s₁ s₂) : SinksHalted cfg pattern s s₂ := by
  have hkafka : s₂.env.fleet.sink .kafka = s₁.env.fleet.sink .kafka :=
    htouches₂.others .kafka (by decide)
  have hmosquitto : s₁.env.fleet.sink .mosquitto = s.env.fleet.sink .mosquitto :=
    htouches₁.others .mosquitto (by decide)
  have hreaches : s₁.Reaches cfg pattern .mosquitto ↔ s.Reaches cfg pattern .mosquitto := by
    rw [NodeState.Reaches, NodeState.next, World.next,
      htouches₁.calls.count_eq (by simp [Service.IsOf])]
    rfl
  have htouched : Calls (fun service => ∃ sink, service.IsOf sink) s s₂ :=
    (htouches₁.calls.mono fun _ h => ⟨_, h⟩).trans (htouches₂.calls.mono fun _ h => ⟨_, h⟩)
  refine ⟨htouches₂.ctl.trans htouches₁.ctl, htouches₂.toolbox.trans htouches₁.toolbox,
    htouched.unloads (by simp [Service.IsOf]), htouched.count_eq (by simp [Service.IsOf]),
    fun sink => ?_⟩
  unfold Halted at hhalted₁ hhalted₂ ⊢
  cases sink with
  | kafka =>
    rw [hkafka]
    exact hhalted₁
  | mosquitto => rwa [hmosquitto, hreaches] at hhalted₂

/-- A sink stays halted while the sinks do not change. -/
private theorem Halted.of_sink_eq {sink : Sink} {s₂ : NodeState World}
    (h : Halted cfg pattern sink s s₂)
    (hsink : s'.env.fleet.sink sink = s₂.env.fleet.sink sink) :
    Halted cfg pattern sink s s' := by
  unfold Halted
  rw [hsink]
  exact h

/-- Unloading the tools, with both sinks halted. -/
private theorem SinksHalted.wp_clear {s₂ : NodeState World} (h : SinksHalted cfg pattern s s₂) :
    wp (clearActiveTopicTools (cfg.environment pattern))
      (fun _ s' => Unloads s.ctl.trackedIds (s.ReachedQuiet cfg pattern) s s' ∧
        s'.ctl.appliedSelection = s.ctl.appliedSelection ∧
        s'.toolbox = s.toolbox.clear ∧ ∀ sink, Halted cfg pattern sink s s')
      (fun _ s' => Unloads s.ctl.trackedIds (s.ReachedQuiet cfg pattern) s s' ∧
        s'.ctl.appliedSelection = s.ctl.appliedSelection ∧ StopFailed cfg pattern s s') s₂ := by
  -- every unload request is made in a fleet with the sinks of `s₂`
  have hquiet : ∀ fleet : Fleet, (∀ sink, fleet.sink sink = s₂.env.fleet.sink sink) →
      s.ReachedQuiet cfg pattern fleet := by
    intro fleet hsinks sink hreach
    have hhalted : Halted cfg pattern sink s ⟨s.ctl, ⟨fleet, []⟩⟩ :=
      (h.halted sink).of_sink_eq (hsinks sink)
    exact hhalted.not_isActive hreach
  refine wp_mono clearActiveTopicTools_spec (fun _ s₃ hs₃ => ?_) fun _ s₃ hs₃ => ?_
  · obtain ⟨htouches, htoolbox⟩ := hs₃
    rw [h.ctl] at htouches
    refine ⟨h.unloads.trans (htouches.unloads hquiet), ?_, ?_, fun sink => ?_⟩
    · rw [htouches.ctl, h.ctl]
    · rw [htoolbox, h.toolbox]
    · exact (h.halted sink).of_sink_eq (htouches.sinks sink)
  · obtain ⟨htouches, done, tool, rest, htools, hfailed⟩ := hs₃
    rw [h.ctl] at htouches htools
    rw [h.unloadCount, h.toolbox] at hfailed
    refine ⟨h.unloads.trans (htouches.unloads hquiet), ?_, ?_⟩
    · rw [htouches.ctl, h.ctl]
    · exact .clear done tool rest htools hfailed fun sink =>
        (h.halted sink).of_sink_eq (htouches.sinks sink)

/-- The calls of `stop_streaming` halt both sinks and clear the tools, or end `StopFailed`. -/
theorem stopPipeline_spec :
    wp (stopPipeline cfg.params (cfg.environment pattern))
      (fun _ s' => Unloads s.ctl.trackedIds (s.ReachedQuiet cfg pattern) s s' ∧
        s'.ctl.appliedSelection = s.ctl.appliedSelection ∧
        s'.toolbox = s.toolbox.clear ∧ ∀ sink, Halted cfg pattern sink s s')
      (fun _ s' => Unloads s.ctl.trackedIds (s.ReachedQuiet cfg pattern) s s' ∧
        s'.ctl.appliedSelection = s.ctl.appliedSelection ∧ StopFailed cfg pattern s s') s := by
  rw [stopPipeline, wp_bind]
  refine wp_mono deactivateSink_spec (fun _ s₁ hs₁ => ?_) fun _ s₁ hs₁ => ?_
  · obtain ⟨htouches₁, hhalted₁⟩ := hs₁
    rw [wp_bind]
    refine wp_mono deactivateSink_spec (fun _ s₂ hs₂ => ?_) fun _ s₂ hs₂ => ?_
    · obtain ⟨htouches₂, hhalted₂⟩ := hs₂
      exact (sinksHalted_of_touches htouches₁ hhalted₁ htouches₂ hhalted₂).wp_clear
    · obtain ⟨htouches₂, -, hwhy₂⟩ := hs₂
      have hkafka : s₂.env.fleet.sink .kafka = s₁.env.fleet.sink .kafka :=
        htouches₂.others .kafka (by decide)
      refine ⟨htouches₁.unloads.trans htouches₂.unloads, by rw [htouches₂.ctl, htouches₁.ctl],
        .sink .mosquitto (htouches₂.toolbox.trans htouches₁.toolbox)
          (hhalted₁.of_sink_eq hkafka).isActive_imp (fun hserves => absurd hserves hwhy₂) hwhy₂⟩
  · obtain ⟨htouches₁, hkafka, hwhy⟩ := hs₁
    refine ⟨htouches₁.unloads, by rw [htouches₁.ctl],
      .sink .kafka htouches₁.toolbox hkafka (fun _ => ?_) hwhy⟩
    exact htouches₁.others .mosquitto (by decide)

/-- What the calls of `stop_streaming` leave behind when they succeed. -/
structure StopDone (cfg : Setting) (pattern : Pattern) (s s' : NodeState World) : Prop where
  toolbox : s'.toolbox = s.toolbox.clear
  halted : ∀ sink, Halted cfg pattern sink s s'

/-- The answers of `handle_stop_streaming`: success exactly when the controller was not busy
and the calls went through, and then an empty `applied_selection_` and the phase `IDLE`. -/
theorem handleStopStreaming_spec {reset : Bool} :
    wp (handleStopStreaming cfg.params (cfg.environment pattern) reset)
      (fun response s' =>
        response = ⟨true, "Streaming stopped"⟩ ∧ StopDone cfg pattern s s' ∧
            s'.ctl.appliedSelection = {} ∧ s'.ctl.phase = .idle ∨
          response.success = false ∧ (s.ctl.phase ≠ .busy → StopFailed cfg pattern s s'))
      (fun _ _ => False) s := by
  have hleaves : Leaves s.ctl.withoutPipeline
      (stopPipeline cfg.params (cfg.environment pattern)) := stopPipeline_keeps
  have hstop : wp (stopPipeline cfg.params (cfg.environment pattern)) _ _ s := stopPipeline_spec
  rw [handleStopStreaming, wp_bind, wp_members]
  refine wp_ite.mpr ⟨fun hbusy => .inr ⟨rfl, fun hready => absurd hbusy hready⟩, fun _ => ?_⟩
  rw [wp_bind]
  refine wp_tryCall (wp_mono (wp_and hstop (hleaves s rfl))
    (fun _ s' hs' => ?_) fun e s' hs' => ?_)
  · obtain ⟨⟨-, -, htoolbox, hhalted⟩, -⟩ := hs'
    refine wp_bind.mpr (wp_ite.mpr ⟨fun _ => ?_, fun _ => ?_⟩)
    · exact .inl ⟨rfl, ⟨htoolbox, hhalted⟩, rfl, rfl⟩
    · exact .inl ⟨rfl, ⟨htoolbox, hhalted⟩, rfl, rfl⟩
  · obtain ⟨⟨-, -, hfailed⟩, ⟨message, rfl, -⟩, -⟩ := hs'
    refine ⟨fun _ _ => .inr ⟨rfl, fun _ => ?_⟩, nofun⟩
    cases hfailed with
    | sink sink toolbox kafka mosquitto why => exact .sink sink toolbox kafka mosquitto why
    | clear done tool rest tools toolbox halted =>
      exact .clear done tool rest tools toolbox halted

/-- A stop as a round of the system: it never ends the process. -/
theorem Setting.stop_spec (cfg : Setting) (pattern : Pattern) (reset : Bool) (sys : System) :
    ∃ response s', cfg.step sys ⟨.stopStreaming reset, pattern⟩ = some ⟨s'.ctl, s'.env.fleet⟩ ∧
      cfg.answer sys ⟨.stopStreaming reset, pattern⟩ = some (.response response) ∧
      (response = ⟨true, "Streaming stopped"⟩ ∧ StopDone cfg pattern sys.start s' ∧
          s'.ctl.appliedSelection = {} ∧ s'.ctl.phase = .idle ∨
        response.success = false ∧
          (sys.ctl.phase ≠ .busy → StopFailed cfg pattern sys.start s')) := by
  have hspec : wp (handleStopStreaming cfg.params (cfg.environment pattern) reset) _ _ sys.start :=
    handleStopStreaming_spec
  cases hresult : handleStopStreaming cfg.params (cfg.environment pattern) reset sys.start with
  | ok response s' =>
    have hperform : cfg.perform sys ⟨.stopStreaming reset, pattern⟩ =
        .ok (.response response) s' := by
      simp [Setting.perform, Operation.run, Functor.map, EStateM.map, hresult]
    have hpost := of_wp_ok hspec hresult
    refine ⟨response, s', ?_, ?_, hpost⟩
    · rw [Setting.step, hperform]
    · rw [Setting.answer, hperform]
  | error failure s' => exact (of_wp_error hspec hresult).elim

end Ros2Dispatcher
