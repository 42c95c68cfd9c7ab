import Ros2Dispatcher.Fleet.Applying
import Ros2Dispatcher.Fleet.Operations
import Ros2Dispatcher.Fleet.Stopping

/-!
# In which order sinks stop and tools go

A stop halts both sinks before it unloads the first tool. An apply halts only kafka_sink
before that: mosquitto_sink goes on running until its own turn, after the tools have been
replaced. So no tool is unloaded under a running sink that can be reached
(`unloads_after_halting`), provided that mosquitto_sink does not stream the output of a
tracked tool when an applying operation starts.
-/

namespace Ros2Dispatcher

open Procedure

variable {cfg : Setting} {pattern : Pattern} {fleet : Fleet} {sys : System} {round : Round}

/-- A sink is configured and answers the first state query of the round. -/
def Round.Hears (cfg : Setting) (round : Round) (sink : Sink) : Prop :=
  (cfg.params.sinkNodeName sink).isEmpty = false ∧
    (round.pattern.outcome (.getState sink) 0).replies = true

/-- No sink that is heard in the round streams the output of a tool tracked in `sys` under
the id `id` while the fleet is `fleet`. -/
def Round.Spares (cfg : Setting) (round : Round) (sys : System) (id : Nat) (fleet : Fleet) :
    Prop :=
  ∀ tool ∈ sys.ctl.trackedTools, tool.uniqueId = id → ∀ sink, round.Hears cfg sink →
    ¬(fleet.sink sink).Streams tool.config.outputTopic

/-- If the operation applies a selection, mosquitto_sink, where it is heard, does not stream
the output of a tracked tool when it starts. -/
def Round.MosquittoApart (cfg : Setting) (sys : System) (round : Round) : Prop :=
  round.operation.applies sys.ctl = true → round.Hears cfg .mosquitto →
    ∀ tool ∈ sys.ctl.trackedTools, ¬sys.fleet.mosquitto.Streams tool.config.outputTopic

/-- The id an unload request is for. -/
def Event.unloaded? (event : Event) : Option Nat :=
  match event.rpc with
  | .unloadNode id => some id
  | _ => none

theorem Event.unloaded?_eq_some {event : Event} {id : Nat} :
    event.unloaded? = some id ↔ event.rpc = .unloadNode id := by
  unfold Event.unloaded?
  cases event.rpc <;> simp

theorem SinkNode.Streams.isActive {node : SinkNode} {topic : String} (h : node.Streams topic) :
    node.IsActive :=
  h.imp fun _ => And.left

/-- The unload requests of a whole log, from those since `s`. -/
private theorem unloads_of_log {ids : List Nat} {P : Fleet → Prop} {s s' : NodeState World}
    (hlog : ∀ event ∈ s.env.log, event.rpc.service ≠ .unloadNode) (h : Unloads ids P s s') :
    ∀ event ∈ s'.env.log, ∀ id, event.rpc = .unloadNode id → id ∈ ids ∧ P event.fleet := by
  obtain ⟨events, hevents, hP⟩ := h
  intro event hevent id hid
  rw [hevents] at hevent
  refine (List.mem_append.mp hevent).elim (fun hold => ?_) fun hnew => hP event hnew id hid
  exact absurd (by rw [hid]; rfl) (hlog event hold)

/-- The unload requests of a round are for tracked tools, none of them streamed by a sink
that is heard. -/
private theorem establishes_order (hround : round.MosquittoApart cfg sys) :
    Establishes cfg round.pattern round.operation sys.ctl sys.fleet fun _ world =>
      ∀ event ∈ world.log, ∀ id, event.rpc = .unloadNode id →
        id ∈ sys.ctl.trackedIds ∧ round.Spares cfg sys id event.fleet where
  rest log hlog event hevent id hid := by
    have hquery := hlog event hevent
    rw [hid] at hquery
    simp [Rpc.service, Service.IsQuery, Service.IsDiscovery] at hquery
  apply selection s happlies _ hpipeline hfleet hlog := by
    have hfirst : ∀ event ∈ s.env.log, event.rpc.service ≠ .unloadNode := fun event he heq => by
      have hdiscovery := hlog event he
      rw [heq] at hdiscovery
      simp [Service.IsDiscovery] at hdiscovery
    have hend : ∀ s', Unloads s.ctl.trackedIds s.env.fleet.KafkaQuiet s s' →
        ∀ event ∈ s'.env.log, ∀ id, event.rpc = .unloadNode id →
          id ∈ sys.ctl.trackedIds ∧ round.Spares cfg sys id event.fleet := by
      intro s' hunloads event hevent id hid
      obtain ⟨htracked, hkafka, hmosquitto⟩ := unloads_of_log hfirst hunloads event hevent id hid
      refine ⟨by rwa [hpipeline] at htracked, fun tool htool _ sink hears hstreams => ?_⟩
      cases sink with
      | kafka => exact hkafka hstreams.isActive
      | mosquitto =>
        rw [hfleet] at hmosquitto
        rw [show event.fleet.sink .mosquitto = _ from hmosquitto] at hstreams
        exact hround happlies hears tool htool hstreams
    exact wp_mono applySelection_spec (fun _ s' hs' => hend s' hs'.1) fun _ s' hs' => hend s' hs'.1
  stop _ := by
    have hend : ∀ s', Unloads sys.ctl.trackedIds (sys.start.ReachedQuiet cfg round.pattern)
        sys.start s' → ∀ event ∈ s'.env.log, ∀ id, event.rpc = .unloadNode id →
          id ∈ sys.ctl.trackedIds ∧ round.Spares cfg sys id event.fleet := by
      intro s' hunloads event hevent id hid
      obtain ⟨htracked, hquiet⟩ :=
        unloads_of_log (by simp [System.start]) hunloads event hevent id hid
      exact ⟨htracked, fun _ _ _ sink hears hstreams => hquiet sink hears hstreams.isActive⟩
    exact wp_mono stopPipeline_spec (fun _ s' hs' => hend s' hs'.1) fun _ s' hs' => hend s' hs'.1

/-- **Tools are not pulled from under a running sink**: whenever a component is unloaded, no
sink that is heard streams the output of the tool tracked under its id. -/
theorem unloads_after_halting {mode filePath : String} {autoApply : Bool}
    (hrun : cfg.Runs (fun sys round => round.MosquittoApart cfg sys)
      (.boot mode filePath autoApply fleet) sys)
    (hround : round.MosquittoApart cfg sys) :
    ∀ event ∈ cfg.requests sys round, ∀ id, event.rpc = .unloadNode id →
      id ∈ sys.ctl.trackedIds ∧ round.Spares cfg sys id event.fleet := by
  have hsettled := Setting.runs_settled hrun Controller.initial_settled
  obtain ⟨_, _, hevents⟩ := Setting.requests_reached (establishes_order hround) hsettled
  exact hevents

/-- A stop unloads both tools of a file after it has halted the sinks. -/
theorem unloads_after_halting_stop :
    ∃ sys, Setting.default.step (.boot "gui" "" true .fresh) (.throttling ["/a", "/b"]) =
        some sys ∧
      (Setting.default.requests sys ⟨.stopStreaming false, {}⟩).filterMap Event.unloaded? =
        [1, 2] ∧
      ∀ event ∈ Setting.default.requests sys ⟨.stopStreaming false, {}⟩, ∀ id,
        event.rpc = .unloadNode id → id ∈ sys.ctl.trackedIds := by
  obtain ⟨sys, hstep, hrequests⟩ := Option.map_eq_some_iff.mp (show
    (Setting.default.step (.boot "gui" "" true .fresh) (.throttling ["/a", "/b"])).map
      (fun sys => (Setting.default.requests sys ⟨.stopStreaming false, {}⟩).filterMap
        Event.unloaded?) = some [1, 2] by decide +kernel)
  have hrun : Setting.default.Runs (fun sys round => round.MosquittoApart Setting.default sys)
      (.boot "gui" "" true .fresh) sys := by
    refine .tail .refl (fun _ _ tool htool => ?_) hstep
    cases htool
  refine ⟨sys, hstep, hrequests, fun event hevent id hid => ?_⟩
  exact (unloads_after_halting hrun (fun happlies => Bool.noConfusion happlies) event hevent id
    hid).1

/-- Applying a file again unloads its tool while mosquitto_sink streams the tool's output. -/
theorem reapply_unloads_under_mosquitto :
    ∃ sys, Setting.default.Runs (fun _ _ => True) (.boot "gui" "" true .fresh) sys ∧
      ∃ tool ∈ sys.ctl.trackedTools,
        ∃ event ∈ Setting.default.requests sys (.throttling ["/a"]),
          event.rpc = .unloadNode tool.uniqueId ∧
          (Round.throttling ["/a"]).Hears Setting.default .mosquitto ∧
          event.fleet.mosquitto.Streams tool.config.outputTopic := by
  obtain ⟨sys, hstep, hsys⟩ := Option.map_eq_some_iff.mp (show
    (Setting.default.step (.boot "gui" "" true .fresh) (.throttling ["/a"])).map
      (fun sys => (sys.ctl.trackedTools.map fun tool => (tool.uniqueId, tool.config.outputTopic),
        ((Setting.default.requests sys (.throttling ["/a"])).filter fun event =>
          event.unloaded? = some 1).map fun event => event.fleet.mosquitto.state)) =
      some ([(1, "/ThrottleNode__a/a")],
        [.active [⟨"/ThrottleNode__a/a", "std_msgs/msg/String"⟩]]) by decide +kernel)
  rw [Prod.mk.injEq] at hsys
  obtain ⟨tool, htool, hid⟩ := List.exists_of_mem_map (hsys.1 ▸ List.mem_singleton_self _)
  obtain ⟨event, hevent, hstate⟩ := List.exists_of_mem_map (hsys.2 ▸ List.mem_singleton_self _)
  rw [Prod.mk.injEq] at hid
  obtain ⟨hmem, hunload⟩ := List.mem_filter.mp hevent
  refine ⟨sys, .tail .refl trivial hstep, tool, htool, event, hmem, ?_, ⟨by decide, rfl⟩, ?_⟩
  · rw [hid.1]
    exact Event.unloaded?_eq_some.mp (of_decide_eq_true hunload)
  · rw [hid.2]
    exact ⟨_, hstate, _, List.mem_singleton_self _, rfl⟩

end Ros2Dispatcher
