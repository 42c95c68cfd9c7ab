import Mathlib.Data.List.Nodup
import Ros2Dispatcher.Fleet.Sinks

/-!
# The tools and the container

`Toolbox` puts the container next to the tools the controller has recorded. Unloading all
recorded tools and loading a list of new ones are functions on it (`Container.unloadAll`,
`Toolbox.loadAll`); the specifications say that `clear_active_topic_tools` and
`reconcile_topic_tools` compute these functions when they succeed, and how far along them
they got when they fail.

Two properties of a toolbox matter. It is `Complete` when every live component is recorded,
and `Sound` when every recorded component is live, under ids that are distinct. Loading
keeps a toolbox sound; it keeps it complete when each tool goes under an input topic that
is not in use.
-/

namespace Ros2Dispatcher

open Procedure

/-! ### Toolboxes -/

/-- The component container and the tools recorded in `active_topic_tools_`. -/
structure Toolbox where
  container : Container
  tracked : Std.TreeMap String ActiveTopicTool

/-- The toolbox of a pipeline and a fleet. -/
def Pipeline.toolbox (pipeline : Pipeline) (fleet : Fleet) : Toolbox :=
  ⟨fleet.container, pipeline.activeTopicTools⟩

/-- The toolbox in a state of the controller. -/
def NodeState.toolbox (s : NodeState World) : Toolbox :=
  s.ctl.toolbox s.env.fleet

/-- The toolbox depends on the recorded tools and the container only. -/
theorem NodeState.toolbox_congr {s s' : NodeState World}
    (htools : s'.ctl.activeTopicTools = s.ctl.activeTopicTools)
    (hcontainer : s'.env.fleet.container = s.env.fleet.container) : s'.toolbox = s.toolbox := by
  rw [NodeState.toolbox, NodeState.toolbox, Pipeline.toolbox, Pipeline.toolbox, htools, hcontainer]

/-- Talking to a sink leaves the toolbox alone. -/
theorem Touches.toolbox {sink : Sink} {s s' : NodeState World} (h : Touches sink s s') :
    s'.toolbox = s.toolbox :=
  NodeState.toolbox_congr (by rw [h.ctl]) h.container

/-- The ids under which tools are recorded. -/
def Toolbox.trackedIds (box : Toolbox) : List Nat :=
  (Registry.values box.tracked).map ActiveTopicTool.uniqueId

/-- Unload the components with the given ids, one after the other. -/
def Container.unloadAll (ids : List Nat) (container : Container) : Container :=
  ids.foldl (fun container id => container.unload id) container

/-- Load a tool and record it under its input topic. -/
def Toolbox.load (cfg : Setting) (box : Toolbox) (tool : ResolvedTopicTool) : Toolbox :=
  { container := box.container.load cfg.ids (tool.loadRequest cfg.params)
    tracked := box.tracked.insert tool.inputTopic
      (tool.loaded cfg.params (cfg.ids.pick box.container.issued)) }

/-- Load a list of tools. -/
def Toolbox.loadAll (cfg : Setting) (box : Toolbox) (tools : List ResolvedTopicTool) : Toolbox :=
  tools.foldl (Toolbox.load cfg) box

/-- Unload every recorded tool and forget it. -/
def Toolbox.clear (box : Toolbox) : Toolbox :=
  ⟨box.container.unloadAll box.trackedIds, ∅⟩

/-- Every live component is recorded. -/
def Toolbox.Complete (box : Toolbox) : Prop :=
  box.container.liveIds ⊆ box.trackedIds

/-- Every recorded tool is live, under an id of its own that the container has given out. -/
structure Toolbox.Sound (box : Toolbox) : Prop where
  live : box.trackedIds ⊆ box.container.liveIds
  issued : box.trackedIds ⊆ box.container.issued
  nodup : box.trackedIds.Nodup

section Container

variable {ids : IdSource} {component : LoadNodeRequest} {container : Container} {id : Nat}

@[simp]
theorem Container.liveIds_load :
    (container.load ids component).liveIds = container.liveIds ++ [ids.pick container.issued] := by
  simp [Container.load, Container.liveIds]

@[simp]
theorem Container.mem_liveIds_unload {other : Nat} :
    other ∈ (container.unload id).liveIds ↔ other ∈ container.liveIds ∧ other ≠ id := by
  simp only [Container.liveIds, Container.unload, List.mem_map, List.mem_filter, ne_eq,
    decide_not, Bool.not_eq_true', decide_eq_false_iff_not]
  constructor
  · rintro ⟨component, ⟨hmem, hne⟩, rfl⟩
    exact ⟨⟨component, hmem, rfl⟩, hne⟩
  · rintro ⟨⟨component, hmem, rfl⟩, hne⟩
    exact ⟨component, ⟨hmem, hne⟩, rfl⟩

theorem Container.mem_liveIds_unloadAll {other : Nat} {ids : List Nat} :
    other ∈ (container.unloadAll ids).liveIds ↔ other ∈ container.liveIds ∧ other ∉ ids := by
  induction ids generalizing container with
  | nil => simp [Container.unloadAll]
  | cons id ids ih =>
    rw [Container.unloadAll, List.foldl_cons, ← Container.unloadAll, ih,
      Container.mem_liveIds_unload, List.mem_cons, not_or, and_assoc]

@[simp]
theorem Container.issued_unloadAll {ids : List Nat} :
    (container.unloadAll ids).issued = container.issued := by
  induction ids generalizing container with
  | nil => rfl
  | cons id ids ih => exact ih

theorem Container.unloadAll_append {ids : List Nat} :
    container.unloadAll (ids ++ [id]) = (container.unloadAll ids).unload id := by
  simp [Container.unloadAll]

end Container

namespace Toolbox

variable {cfg : Setting} {box : Toolbox} {tool : ResolvedTopicTool}
variable {tools : List ResolvedTopicTool}

theorem loadAll_append :
    box.loadAll cfg (tools ++ [tool]) = (box.loadAll cfg tools).load cfg tool := by
  simp [loadAll]

/-- Loading keeps a toolbox sound: the new id is in use nowhere, and a tool that loses its
record loses it to the new one. -/
theorem Sound.load (h : box.Sound) : (box.load cfg tool).Sound := by
  have hfresh := cfg.ids.pick_fresh box.container.issued
  have hids : ∀ id ∈ (box.load cfg tool).trackedIds,
      id = cfg.ids.pick box.container.issued ∨ id ∈ box.trackedIds := by
    intro id hid
    obtain ⟨active, hactive, rfl⟩ := List.mem_map.mp hid
    rcases Registry.mem_values_insert hactive with rfl | hold
    · exact .inl rfl
    · exact .inr (List.mem_map_of_mem hold)
  refine ⟨fun id hid => ?_, fun id hid => ?_, ?_⟩
  · rw [Toolbox.load, Container.liveIds_load, List.mem_append, List.mem_singleton]
    exact (hids id hid).symm.imp_left fun hold => h.live hold
  · rw [Toolbox.load, Container.load, List.mem_append, List.mem_singleton]
    exact (hids id hid).symm.imp_left fun hold => h.issued hold
  · exact Registry.nodup_map_values_insert h.nodup fun hmem => hfresh (h.issued hmem)

theorem Sound.loadAll (h : box.Sound) : (box.loadAll cfg tools).Sound := by
  induction tools generalizing box with
  | nil => exact h
  | cons tool tools ih => exact ih h.load

/-- Loading under an input topic not in use keeps a toolbox complete. -/
theorem Complete.load (h : box.Complete) (hnew : tool.inputTopic ∉ box.tracked) :
    (box.load cfg tool).Complete := by
  have hperm := (Registry.values_insert_perm_of_not_mem (a := tool.loaded cfg.params
    (cfg.ids.pick box.container.issued)) hnew).map ActiveTopicTool.uniqueId
  intro id hid
  rw [Toolbox.load, Container.liveIds_load, List.mem_append, List.mem_singleton] at hid
  refine hperm.mem_iff.mpr (List.mem_cons.mpr ?_)
  rcases hid with hold | rfl
  · exact .inr (h hold)
  · exact .inl rfl

theorem Complete.loadAll (h : box.Complete) (hnodup : (tools.map (·.inputTopic)).Nodup)
    (hnew : ∀ tool ∈ tools, tool.inputTopic ∉ box.tracked) : (box.loadAll cfg tools).Complete := by
  induction tools generalizing box with
  | nil => exact h
  | cons tool tools ih =>
    rw [List.map_cons, List.nodup_cons] at hnodup
    refine ih (h.load (hnew tool List.mem_cons_self)) hnodup.2 fun other hother hmem => ?_
    rcases Std.TreeMap.mem_insert.mp hmem with heq | hold
    · have hsame : tool.inputTopic = other.inputTopic := by simpa using heq
      exact hnodup.1 (hsame ▸ List.mem_map_of_mem hother)
    · exact hnew other (List.mem_cons_of_mem _ hother) hold

theorem Sound.clear (box : Toolbox) : box.clear.Sound :=
  ⟨List.nil_subset _, List.nil_subset _, List.nodup_nil⟩

/-- Clearing a complete toolbox leaves no component alive. -/
theorem Complete.liveIds_clear (h : box.Complete) : box.clear.container.liveIds = [] :=
  List.eq_nil_iff_forall_not_mem.mpr fun _ hid =>
    (Container.mem_liveIds_unloadAll.mp hid).2 (h (Container.mem_liveIds_unloadAll.mp hid).1)

theorem Complete.clear (h : box.Complete) : box.clear.Complete := by
  rw [Complete, h.liveIds_clear]
  exact List.nil_subset _

end Toolbox

/-! ### Frames -/

/-- The services of the component container. -/
def Service.IsContainer (service : Service) : Prop :=
  service = .loadNode ∨ service = .unloadNode

/-- A request to the container, made while the sinks of `fleet` were as they are there; only
components in `ids` are asked to be unloaded. -/
structure Event.IsToolRequest (ids : List Nat) (fleet : Fleet) (event : Event) : Prop where
  service : event.rpc.service.IsContainer
  sinks : ∀ sink, event.fleet.sink sink = fleet.sink sink
  unloads : ∀ id, event.rpc = .unloadNode id → id ∈ ids

/-- Between `s` and `s'` only the container was talked to, unload requests were made for ids
in `ids` only, and nothing changed but the container and the recorded tools. -/
structure TouchesTools (ids : List Nat) (s s' : NodeState World) : Prop where
  ctl : s'.ctl = { s.ctl with activeTopicTools := s'.ctl.activeTopicTools }
  sinks : ∀ sink, s'.env.fleet.sink sink = s.env.fleet.sink sink
  log : ∃ events, s'.env.log = s.env.log ++ events ∧
    ∀ event ∈ events, event.IsToolRequest ids s.env.fleet

namespace TouchesTools

variable {ids : List Nat} {s s' s'' : NodeState World}

protected theorem refl : TouchesTools ids s s :=
  ⟨rfl, fun _ => rfl, [], by simp, by simp⟩

protected theorem trans (h : TouchesTools ids s s') (h' : TouchesTools ids s' s'') :
    TouchesTools ids s s'' := by
  obtain ⟨events, hlog, hevents⟩ := h.log
  obtain ⟨events', hlog', hevents'⟩ := h'.log
  refine ⟨by rw [h'.ctl, h.ctl], fun sink => (h'.sinks sink).trans (h.sinks sink),
    events ++ events', by rw [hlog', hlog, List.append_assoc], fun event he => ?_⟩
  rcases List.mem_append.mp he with he | he
  · exact hevents event he
  · obtain ⟨hservice, hsinks, hunloads⟩ := hevents' event he
    exact ⟨hservice, fun sink => (hsinks sink).trans (h.sinks sink), hunloads⟩

protected theorem record {rpc : Rpc} {outcome : Outcome} {container : Container}
    (hservice : rpc.service.IsContainer) (hunloads : ∀ id, rpc = .unloadNode id → id ∈ ids) :
    TouchesTools ids s (s.record rpc outcome { s.env.fleet with container }) := by
  refine ⟨rfl, fun sink => by cases sink <;> rfl, [⟨rpc, outcome, s.env.fleet⟩], rfl, ?_⟩
  intro event he
  rw [List.mem_singleton.mp he]
  exact ⟨hservice, fun _ => rfl, hunloads⟩

/-- Writing the recorded tools. -/
theorem write (h : TouchesTools ids s s') {tools : Std.TreeMap String ActiveTopicTool} :
    TouchesTools ids s { s' with ctl := { s'.ctl with activeTopicTools := tools } } :=
  ⟨by rw [h.ctl], h.sinks, h.log⟩

theorem unloads {P : Fleet → Prop} (h : TouchesTools ids s s')
    (hP : ∀ fleet : Fleet, (∀ sink, fleet.sink sink = s.env.fleet.sink sink) → P fleet) :
    Unloads ids P s s' := by
  obtain ⟨events, hlog, hevents⟩ := h.log
  refine ⟨events, hlog, fun event he id hid => ?_⟩
  exact ⟨(hevents event he).unloads id hid, hP _ (hevents event he).sinks⟩

theorem calls (h : TouchesTools ids s s') : Calls Service.IsContainer s s' := by
  obtain ⟨events, hlog, hevents⟩ := h.log
  exact ⟨events, hlog, fun event he => (hevents event he).service⟩

end TouchesTools

/-! ### Clearing -/

variable {cfg : Setting} {pattern : Pattern} {s s' : NodeState World}
variable {tools done : List ActiveTopicTool}

/-- The state once the tools in `done` have been unloaded. -/
structure Unloaded (pattern : Pattern) (s : NodeState World) (done : List ActiveTopicTool)
    (s' : NodeState World) : Prop where
  touches : TouchesTools s.ctl.trackedIds s s'
  ctl : s'.ctl = s.ctl
  container : s'.env.fleet.container =
    s.env.fleet.container.unloadAll (done.map ActiveTopicTool.uniqueId)
  count : s'.env.count .unloadNode = s.env.count .unloadNode + done.length
  answered : ∀ i < done.length,
    pattern.outcome .unloadNode (s.env.count .unloadNode + i) = .answered

theorem Unloaded.refl : Unloaded pattern s [] s :=
  ⟨.refl, rfl, rfl, rfl, by simp⟩

/-- The toolbox once clearing `box` has failed, from the `start`-th unload request on: the
tools in `done` are unloaded, the request for `tool` was the one that failed, and no record
is gone. -/
structure UnloadFailed (pattern : Pattern) (start : Nat) (box : Toolbox)
    (done : List ActiveTopicTool) (tool : ActiveTopicTool) (box' : Toolbox) : Prop where
  tracked : box'.tracked = box.tracked
  issued : box'.container.issued = box.container.issued
  live : box'.container.liveIds ⊆ box.container.liveIds
  answered : ∀ i < done.length, pattern.outcome .unloadNode (start + i) = .answered
  failed : pattern.outcome .unloadNode (start + done.length) = .timeout true ∨
    box'.container = box.container.unloadAll (done.map ActiveTopicTool.uniqueId) ∧
      (pattern.outcome .unloadNode (start + done.length) = .answered →
        tool.uniqueId ∉ box'.container.liveIds)

/-- One round of the unloading loop. -/
theorem Unloaded.wp_next {tool : ActiveTopicTool} (h : Unloaded pattern s done s')
    (htool : tool.uniqueId ∈ s.ctl.trackedIds) :
    wp (deactivateAndUnloadTool (cfg.environment pattern) tool)
      (fun _ s'' => Unloaded pattern s (done ++ [tool]) s'')
      (fun _ s'' => TouchesTools s.ctl.trackedIds s s'' ∧
        UnloadFailed pattern (s.env.count .unloadNode) s.toolbox done tool s''.toolbox) s' := by
  have hnext : s'.next pattern .unloadNode =
      pattern.outcome .unloadNode (s.env.count .unloadNode + done.length) := by
    rw [← h.count]
    rfl
  have htouches : ∀ outcome container, TouchesTools s.ctl.trackedIds s
      (s'.record (.unloadNode tool.uniqueId) outcome { s'.env.fleet with container }) := by
    refine fun outcome container => h.touches.trans (.record (.inr rfl) fun id hid => ?_)
    rw [← Rpc.unloadNode.inj hid]
    exact htool
  have hlive : s'.env.fleet.container.liveIds ⊆ s.env.fleet.container.liveIds := fun id hid => by
    rw [h.container] at hid
    exact (Container.mem_liveIds_unloadAll.mp hid).1
  have hissued : s'.env.fleet.container.issued = s.env.fleet.container.issued := by
    rw [h.container, Container.issued_unloadAll]
  have htracked : s'.ctl.activeTopicTools = s.ctl.activeTopicTools := by rw [h.ctl]
  refine wp_deactivateAndUnloadTool (fun hok _ => ?_) (fun _ outcome houtcome hdead => ?_)
    fun hlate _ => ?_
  · refine ⟨htouches _ _, h.ctl, ?_, ?_, fun i hi => ?_⟩
    · rw [List.map_append, List.map_singleton, Container.unloadAll_append, ← h.container]
      rfl
    · simp [Rpc.service, h.count, Nat.add_assoc]
    · rw [List.length_append, List.length_singleton, Nat.lt_succ_iff_lt_or_eq] at hi
      rcases hi with hi | rfl
      · exact h.answered i hi
      · exact hnext.symm.trans hok
  · refine ⟨htouches _ s'.env.fleet.container, htracked, hissued, hlive, h.answered,
      .inr ⟨h.container, fun hok => hdead ?_⟩⟩
    rw [← houtcome, hnext, hok]
  · exact ⟨htouches _ _, htracked, hissued,
      fun id hid => hlive (Container.mem_liveIds_unload.mp hid).1, h.answered,
      .inl (hnext.symm.trans hlate)⟩

/-- `clear_active_topic_tools` unloads every recorded tool and forgets them all, or fails at
one of them and forgets none. -/
theorem clearActiveTopicTools_spec :
    wp (clearActiveTopicTools (cfg.environment pattern))
      (fun _ s' => TouchesTools s.ctl.trackedIds s s' ∧ s'.toolbox = s.toolbox.clear)
      (fun _ s' => TouchesTools s.ctl.trackedIds s s' ∧
        ∃ done tool rest, s.ctl.trackedTools = done ++ tool :: rest ∧
          UnloadFailed pattern (s.env.count .unloadNode) s.toolbox done tool s'.toolbox) s := by
  rw [clearActiveTopicTools, wp_bind, wp_members, wp_bind]
  refine wp_forM (fun todo s' => ∃ done, s.ctl.trackedTools = done ++ todo ∧
    Unloaded pattern s done s') ?_ ?_ _ _ ⟨[], rfl, .refl⟩
  · rintro tool todo s' ⟨done, htools, hdone⟩
    have htool : tool.uniqueId ∈ s.ctl.trackedIds :=
      List.mem_map_of_mem (htools ▸ List.mem_append_right _ List.mem_cons_self)
    refine wp_mono (hdone.wp_next htool) (fun _ s'' h => ?_) fun _ s'' h => ?_
    · exact ⟨done ++ [tool], by rw [htools, List.append_assoc]; rfl, h⟩
    · exact ⟨h.1, done, tool, todo, htools, h.2⟩
  · rintro s' ⟨done, htools, hdone⟩
    rw [List.append_nil] at htools
    refine ⟨hdone.touches.write, ?_⟩
    refine congrArg (Toolbox.mk · ∅) (hdone.container.trans ?_)
    rw [← htools]
    rfl

/-! ### Loading -/

/-- The toolbox once loading `tools` into `box` has failed: those in `done` are loaded and
recorded. A load performed although its answer came too late is not recorded. -/
structure LoadFailed (cfg : Setting) (pattern : Pattern) (box : Toolbox)
    (done : List ResolvedTopicTool) (tool : ResolvedTopicTool) (box' : Toolbox) : Prop where
  tracked : box'.tracked = (box.loadAll cfg done).tracked
  container : box'.container = (box.loadAll cfg done).container ∨
    ¬pattern.NeverLate .loadNode ∧
      box'.container = (box.loadAll cfg (done ++ [tool])).container
  unanswered : ∃ n, pattern.outcome .loadNode n ≠ .answered

/-- One round of the loading loop. -/
theorem loadAndRecordTool_spec (ids : List Nat) {tool : ResolvedTopicTool} :
    wp (loadAndRecordTool cfg.params (cfg.environment pattern) tool)
      (fun _ s' => TouchesTools ids s s' ∧ s'.toolbox = s.toolbox.load cfg tool)
      (fun _ s' => TouchesTools ids s s' ∧ LoadFailed cfg pattern s.toolbox [] tool s'.toolbox)
      s := by
  have htouches : ∀ outcome container, TouchesTools ids s
      (s.record (.loadNode (tool.loadRequest cfg.params)) outcome
        { s.env.fleet with container }) := fun outcome container =>
    .record (.inl rfl) nofun
  rw [loadAndRecordTool, wp_bind]
  refine wp_loadAndActivateTopicTool (fun _ => ?_) (fun _ outcome houtcome hne => ?_)
    fun hlate _ => ?_
  · exact ⟨(htouches _ _).write, rfl⟩
  · exact ⟨htouches _ s.env.fleet.container, rfl, .inl rfl, _, houtcome ▸ hne⟩
  · refine ⟨htouches _ _, rfl, .inr ⟨fun hnever => hnever _ hlate, rfl⟩,
      s.env.count .loadNode, fun hanswered => ?_⟩
    exact nomatch hlate.symm.trans hanswered

/-- The loading loop. -/
theorem loadTools_spec (ids : List Nat) {tools : List ResolvedTopicTool} :
    wp (forM tools (loadAndRecordTool cfg.params (cfg.environment pattern)))
      (fun _ s' => TouchesTools ids s s' ∧ s'.toolbox = s.toolbox.loadAll cfg tools)
      (fun _ s' => TouchesTools ids s s' ∧ ∃ done tool rest, tools = done ++ tool :: rest ∧
        LoadFailed cfg pattern s.toolbox done tool s'.toolbox) s := by
  refine wp_forM (fun todo s' => ∃ done, tools = done ++ todo ∧ TouchesTools ids s s' ∧
    s'.toolbox = s.toolbox.loadAll cfg done) ?_ ?_ _ _ ⟨[], rfl, .refl, rfl⟩
  · rintro tool todo s' ⟨done, htools, htouches, hbox⟩
    refine wp_mono (loadAndRecordTool_spec ids) (fun _ s'' h => ?_) fun _ s'' h => ?_
    · refine ⟨done ++ [tool], by rw [htools, List.append_assoc]; rfl, htouches.trans h.1, ?_⟩
      rw [h.2, hbox, Toolbox.loadAll_append]
    · obtain ⟨htouches', htracked, hcontainer, hunanswered⟩ := h
      rw [hbox] at htracked hcontainer
      refine ⟨htouches.trans htouches', done, tool, todo, htools, htracked, ?_, hunanswered⟩
      rwa [Toolbox.loadAll_append]
  · rintro s' ⟨done, htools, htouches, hbox⟩
    rw [List.append_nil] at htools
    exact ⟨htouches, htools ▸ hbox⟩

/-- The toolbox once replacing its tools by `tools` has failed, while unloading the old ones
or while loading the new ones. -/
def ReconcileFailed (cfg : Setting) (pattern : Pattern) (start : Nat) (box : Toolbox)
    (tools : List ResolvedTopicTool) (box' : Toolbox) : Prop :=
  (∃ done tool rest, Registry.values box.tracked = done ++ tool :: rest ∧
      UnloadFailed pattern start box done tool box') ∨
    ∃ done tool rest, tools = done ++ tool :: rest ∧
      LoadFailed cfg pattern box.clear done tool box'

/-- `reconcile_topic_tools` replaces the recorded tools by those of the plan, or fails. -/
theorem reconcileTopicTools_spec {plan : TopicToolsPlan} :
    wp (reconcileTopicTools cfg.params (cfg.environment pattern) plan)
      (fun _ s' => TouchesTools s.ctl.trackedIds s s' ∧
        s'.toolbox = s.toolbox.clear.loadAll cfg plan.tools)
      (fun _ s' => TouchesTools s.ctl.trackedIds s s' ∧
        ReconcileFailed cfg pattern (s.env.count .unloadNode) s.toolbox plan.tools s'.toolbox)
      s := by
  rw [reconcileTopicTools, wp_bind]
  refine wp_mono clearActiveTopicTools_spec (fun _ s' hs' => ?_) fun _ s' hs' => ?_
  · rw [← hs'.2]
    refine wp_mono (loadTools_spec s.ctl.trackedIds) (fun _ s'' h => ?_) fun _ s'' h => ?_
    · exact ⟨hs'.1.trans h.1, h.2⟩
    · refine ⟨hs'.1.trans h.1, .inr ?_⟩
      rw [← hs'.2]
      exact h.2
  · exact ⟨hs'.1, .inl hs'.2⟩

/-! ### What failures keep -/

section Failures

variable {start : Nat} {box box' : Toolbox} {tool : ActiveTopicTool}
variable {rest : List ActiveTopicTool} {plan : List ResolvedTopicTool}

/-- A failed clearing forgets nothing and revives nothing. -/
theorem UnloadFailed.complete (h : UnloadFailed pattern start box done tool box')
    (hbox : box.Complete) : box'.Complete := fun id hid => by
  rw [Toolbox.trackedIds, h.tracked]
  exact hbox (h.live hid)

/-- A clearing cannot fail at a request that is answered: where every recorded tool is live
under an id of its own, the tool is still alive when its turn comes. -/
theorem UnloadFailed.not_answered (h : UnloadFailed pattern start box done tool box')
    (htools : Registry.values box.tracked = done ++ tool :: rest)
    (hlive : box.trackedIds ⊆ box.container.liveIds) (hnodup : box.trackedIds.Nodup) :
    pattern.outcome .unloadNode (start + done.length) ≠ .answered := by
  intro hanswered
  have hids : box.trackedIds = done.map ActiveTopicTool.uniqueId ++
      tool.uniqueId :: rest.map ActiveTopicTool.uniqueId := by
    rw [Toolbox.trackedIds, htools, List.map_append, List.map_cons]
  rcases h.failed with hlate | ⟨hcontainer, hdead⟩
  · exact nomatch hlate.symm.trans hanswered
  · refine hdead hanswered ?_
    rw [hcontainer, Container.mem_liveIds_unloadAll]
    refine ⟨hlive (by simp [hids]), fun hmem => ?_⟩
    rw [hids] at hnodup
    exact List.disjoint_of_nodup_append hnodup hmem List.mem_cons_self

/-- A clearing that fails at its first request, which then had no effect, changes nothing. -/
theorem UnloadFailed.sound (h : UnloadFailed pattern start box [] tool box')
    (hnever : pattern.NeverLate .unloadNode) (hbox : box.Sound) : box'.Sound := by
  have hids : box'.trackedIds = box.trackedIds := by
    rw [Toolbox.trackedIds, h.tracked, Toolbox.trackedIds]
  obtain ⟨hcontainer, -⟩ := h.failed.resolve_left (hnever _)
  refine ⟨?_, ?_, by rw [hids]; exact hbox.nodup⟩
  · rw [hids, hcontainer]
    exact hbox.live
  · rw [hids, hcontainer]
    exact hbox.issued

/-- Loading keeps a toolbox sound also where it fails. -/
theorem LoadFailed.sound {done : List ResolvedTopicTool} {tool : ResolvedTopicTool}
    (h : LoadFailed cfg pattern box done tool box') (hbox : box.Sound) : box'.Sound := by
  have hdone : (box.loadAll cfg done).Sound := hbox.loadAll
  have hids : box'.trackedIds = (box.loadAll cfg done).trackedIds := by
    rw [Toolbox.trackedIds, h.tracked, Toolbox.trackedIds]
  rcases h.container with hcontainer | ⟨-, hcontainer⟩
  · exact ⟨by rw [hids, hcontainer]; exact hdone.live, by rw [hids, hcontainer]; exact hdone.issued,
      by rw [hids]; exact hdone.nodup⟩
  · rw [Toolbox.loadAll_append] at hcontainer
    refine ⟨fun id hid => ?_, fun id hid => ?_, by rw [hids]; exact hdone.nodup⟩
    · rw [hids] at hid
      rw [hcontainer, Toolbox.load, Container.liveIds_load]
      exact List.mem_append_left _ (hdone.live hid)
    · rw [hids] at hid
      rw [hcontainer, Toolbox.load, Container.load]
      exact List.mem_append_left _ (hdone.issued hid)

/-- Loading distinct tools keeps a toolbox complete also where it fails, if a load that
times out has no effect. -/
theorem LoadFailed.complete {done tools : List ResolvedTopicTool} {tool : ResolvedTopicTool}
    {rest : List ResolvedTopicTool} (h : LoadFailed cfg pattern box.clear done tool box')
    (htools : tools = done ++ tool :: rest) (hnever : pattern.NeverLate .loadNode)
    (hdistinct : (tools.map (·.inputTopic)).Nodup) (hbox : box.Complete) : box'.Complete := by
  have hdone : (box.clear.loadAll cfg done).Complete := by
    refine hbox.clear.loadAll ?_ fun _ _ => Std.TreeMap.not_mem_emptyc
    rw [htools, List.map_append] at hdistinct
    exact List.Nodup.of_append_left hdistinct
  obtain hcontainer := h.container.resolve_right fun hlate => hlate.1 hnever
  intro id hid
  rw [hcontainer] at hid
  rw [Toolbox.trackedIds, h.tracked]
  exact hdone hid

end Failures

end Ros2Dispatcher
