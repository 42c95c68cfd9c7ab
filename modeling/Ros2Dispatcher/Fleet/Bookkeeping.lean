import Ros2Dispatcher.Fleet.Applying
import Ros2Dispatcher.Fleet.Operations
import Ros2Dispatcher.Fleet.Stopping

/-!
# The bookkeeping of loaded tools

Two guarantees about `active_topic_tools_` over whole runs:

* no loaded component survives outside the map (`liveIds_subset_trackedIds`), as long as no
  selection file that is applied enables a tool twice for one topic: the map is keyed by
  input topics, so the second such tool takes the record of the first;
* the map keeps no id of a component that is gone, and a stop goes through as soon as
  everything answers (`stop_succeeds`), as long as clearing the tools never fails after its
  first request: the ids unloaded before the failure stay recorded.

Both come from one rule about operations (`Establishes.of_toolbox`) and from what a failed
clearing or loading does to a toolbox.
-/

namespace Ros2Dispatcher

open Procedure

variable {cfg : Setting} {pattern : Pattern} {op : Operation} {ctl : Controller} {fleet : Fleet}

/-- An operation that can get as far as clearing the tools. -/
def Operation.Clears (ctl : Controller) (op : Operation) : Prop :=
  op.applies ctl = true ∨ ∃ reset, op = .stopStreaming reset

/-- A property of toolboxes is established by an operation if the toolboxes have it that
clearing and reloading end in. -/
theorem Establishes.of_toolbox {B : Toolbox → Prop} (hstart : B (ctl.toolbox fleet))
    (hclear : B (ctl.toolbox fleet).clear)
    (hunload : ∀ done tool rest box', op.Clears ctl → ctl.trackedTools = done ++ tool :: rest →
      UnloadFailed pattern 0 (ctl.toolbox fleet) done tool box' → B box')
    (hload : ∀ selection (tools : List ResolvedTopicTool), op.Carries cfg pattern ctl selection →
      tools.map (·.inputTopic) = enabledTopics selection →
      B ((ctl.toolbox fleet).clear.loadAll cfg tools) ∧
        ∀ done tool rest box', tools = done ++ tool :: rest →
          LoadFailed cfg pattern (ctl.toolbox fleet).clear done tool box' → B box') :
    Establishes cfg pattern op ctl fleet
      fun pipeline world => B (pipeline.toolbox world.fleet) where
  rest _ _ := hstart
  apply selection s happlies hcarries hpipeline hfleet hlog := by
    have hbox : s.toolbox = ctl.toolbox fleet := by
      rw [NodeState.toolbox, hpipeline, hfleet]
      rfl
    have hcount : s.env.count .unloadNode = 0 :=
      NodeState.count_of_discovery hlog (by simp [Service.IsDiscovery])
    refine wp_mono applySelection_spec (fun _ s' hs' => ?_) fun _ s' hs' => ?_
    · obtain ⟨-, -, validated, plan, hplanned, happlied⟩ := hs'
      change B s'.toolbox
      rw [happlied.toolbox, hbox]
      exact (hload selection plan.tools hcarries (planSelection_tools hplanned)).1
    · obtain ⟨-, -, hfailed⟩ := hs'
      change B s'.toolbox
      rcases hfailed.toolbox_cases with hsame | ⟨plan, hplan, hreconcile | hloaded⟩
      · rw [hsame, hbox]
        exact hstart
      · -- reconciling failed, either while clearing the old tools or while loading the new ones
        rw [hcount, hbox] at hreconcile
        rcases hreconcile with ⟨done, tool, rest, htools, h⟩ | ⟨done, tool, rest, htools, h⟩
        · exact hunload done tool rest _ (.inl happlies) htools h
        · exact (hload selection plan.tools hcarries hplan).2 done tool rest _ htools h
      · -- a sink failed after all tools were loaded
        rw [hloaded, hbox]
        exact (hload selection plan.tools hcarries hplan).1
  stop hstop := by
    refine wp_mono stopPipeline_spec (fun _ s' hs' => ?_) fun _ s' hs' => ?_
    · obtain ⟨-, -, htoolbox, -⟩ := hs'
      change B s'.toolbox
      rw [htoolbox]
      exact hclear
    · obtain ⟨-, -, hfailed⟩ := hs'
      change B s'.toolbox
      cases hfailed with
      | sink sink toolbox =>
        rw [toolbox]
        exact hstart
      | clear done tool rest tools toolbox =>
        exact hunload done tool rest _ (.inr hstop) tools toolbox

/-! ### No component outside the map -/

/-- The file the round applies, if it applies one, enables at most one tool for a topic. -/
def Round.EnablesOnce (cfg : Setting) (sys : System) (round : Round) : Prop :=
  ∀ path loaded, round.operation.appliedFile sys.ctl = some path →
    loadFileSelection cfg.yaml path (round.pattern.files path) = .ok loaded →
    (enabledTopics loaded).Nodup

/-- The topics with a tool in a selection an operation can apply are distinct. -/
private theorem Round.EnablesOnce.nodup {sys : System} {round : Round}
    (h : round.EnablesOnce cfg sys) {selection : List TopicSelection}
    (hcarries : round.operation.Carries cfg round.pattern sys.ctl selection) :
    (enabledTopics selection).Nodup := by
  rcases hcarries with hplain | ⟨path, loaded, answer, hfile, hload, hinfer⟩
  · rw [hplain.enabledTopics]
    exact List.nodup_nil
  · rw [enabledTopics_inferWith hinfer]
    exact h path loaded hfile hload

/-- A round that enables no tool twice keeps the toolbox complete. -/
private theorem establishes_complete {sys : System} {round : Round}
    (hbox : (sys.ctl.toolbox sys.fleet).Complete) (hnever : round.pattern.NeverLate .loadNode)
    (honce : round.EnablesOnce cfg sys) :
    Establishes cfg round.pattern round.operation sys.ctl sys.fleet
      fun pipeline world => (pipeline.toolbox world.fleet).Complete := by
  refine .of_toolbox hbox hbox.clear (fun _ _ _ _ _ _ h => h.complete hbox)
    fun selection tools hcarries htools => ?_
  have hdistinct : (tools.map (·.inputTopic)).Nodup := by
    rw [htools]
    exact honce.nodup hcarries
  refine ⟨hbox.clear.loadAll hdistinct fun _ _ => Std.TreeMap.not_mem_emptyc, ?_⟩
  exact fun done tool rest box' htools h => h.complete htools hnever hdistinct hbox

/-- **Every live component is tracked**, in every run in which no applied file enables two
tools for one topic. -/
theorem liveIds_subset_trackedIds {mode filePath : String} {autoApply : Bool} {sys : System}
    (hempty : fleet.container.live = [])
    (hrun : cfg.Runs (fun sys round => round.pattern.NeverLate .loadNode ∧
      round.EnablesOnce cfg sys) (.boot mode filePath autoApply fleet) sys) :
    sys.fleet.container.liveIds ⊆ sys.ctl.trackedIds := by
  have hstart : ((Controller.initial mode filePath autoApply).toolbox fleet).Complete := by
    rw [Toolbox.Complete, Pipeline.toolbox, Container.liveIds, hempty]
    exact List.nil_subset _
  exact (Setting.runs_invariant (I := fun pipeline fleet => (pipeline.toolbox fleet).Complete)
    (fun sys round _ hbox hC => establishes_complete hbox hC.1 hC.2) hrun
    Controller.initial_settled hstart).2

/-- A file with two entries for two topics loads two components, both tracked. -/
theorem liveIds_subset_trackedIds_two_topics :
    ∃ sys, Setting.default.step (.boot "gui" "" true .fresh) (.throttling ["/a", "/b"]) =
        some sys ∧
      sys.fleet.container.liveIds = [1, 2] ∧
      sys.fleet.container.liveIds ⊆ sys.ctl.trackedIds := by
  obtain ⟨sys, hstep, hlive⟩ := Option.map_eq_some_iff.mp (show
    (Setting.default.step (.boot "gui" "" true .fresh) (.throttling ["/a", "/b"])).map
      (fun sys => sys.fleet.container.liveIds) = some [1, 2] by decide +kernel)
  have honce : (Round.throttling ["/a", "/b"]).EnablesOnce Setting.default
      (.boot "gui" "" true .fresh) := by
    intro path loaded hfile hload
    have hpath : "/selection.yaml" = path := Option.some.inj hfile
    have htopics : (loadFileSelection .words "/selection.yaml"
        (.ok (.sequence (["/a", "/b"].map throttledEntry)))).map enabledTopics =
          .ok ["/a", "/b"] := by decide +kernel
    rw [← hpath] at hload
    rw [show loadFileSelection .words "/selection.yaml"
      (.ok (.sequence (["/a", "/b"].map throttledEntry))) = .ok loaded from hload] at htopics
    rw [Except.ok.inj htopics]
    decide
  have hrun : Setting.default.Runs (fun sys round => round.pattern.NeverLate .loadNode ∧
      round.EnablesOnce Setting.default sys) (.boot "gui" "" true .fresh) sys :=
    .tail .refl ⟨fun _ h => Outcome.noConfusion h, honce⟩ hstep
  exact ⟨sys, hstep, hlive, liveIds_subset_trackedIds rfl hrun⟩

/-- A file with two entries for one topic loads two components and tracks one. -/
theorem duplicate_entry_loses_component :
    ∃ sys, Setting.default.Runs
        (fun _ round => ∀ service n performed,
          round.pattern.outcome service n ≠ .timeout performed)
        (.boot "gui" "" true .fresh) sys ∧
      sys.fleet.container.liveIds = [1, 2] ∧ sys.ctl.trackedIds = [2] ∧
      ¬sys.fleet.container.liveIds ⊆ sys.ctl.trackedIds := by
  obtain ⟨sys, hstep, hids⟩ := Option.map_eq_some_iff.mp (show
    (Setting.default.step (.boot "gui" "" true .fresh) (.throttling ["/a", "/a"])).map
      (fun sys => (sys.fleet.container.liveIds, sys.ctl.trackedIds)) = some ([1, 2], [2])
    by decide +kernel)
  rw [Prod.mk.injEq] at hids
  refine ⟨sys, .tail .refl (fun _ _ _ h => Outcome.noConfusion h) hstep, hids.1, hids.2, ?_⟩
  rw [hids.1, hids.2]
  decide

/-! ### No wedge after a failed clearing -/

/-- An unload request that times out has no effect, and where the operation can clear the
tools tracked at its start, clearing fails at its first request or not at all. -/
def Round.UnloadsAllOrNone (sys : System) (round : Round) : Prop :=
  round.pattern.NeverLate .unloadNode ∧
    (round.operation.Clears sys.ctl → round.pattern.outcome .unloadNode 0 = .answered →
      ∀ i < sys.ctl.trackedTools.length, round.pattern.outcome .unloadNode i = .answered)

/-- A round that unloads all tools or none keeps the toolbox sound. -/
private theorem establishes_sound {sys : System} {round : Round}
    (hbox : (sys.ctl.toolbox sys.fleet).Sound) (hunloads : round.UnloadsAllOrNone sys) :
    Establishes cfg round.pattern round.operation sys.ctl sys.fleet
      fun pipeline world => (pipeline.toolbox world.fleet).Sound := by
  have hcleared := Toolbox.Sound.clear (sys.ctl.toolbox sys.fleet)
  refine .of_toolbox hbox hcleared (fun done tool rest box' hclears htools h => ?_)
    fun selection tools _ _ => ⟨hcleared.loadAll, fun _ _ _ _ _ h => h.sound hcleared⟩
  cases done with
  | nil => exact h.sound hunloads.1 hbox
  | cons first done =>
    -- the first request was answered, so the one that failed was too
    have hfirst := h.answered 0 (Nat.zero_lt_succ _)
    rw [Nat.zero_add] at hfirst
    refine absurd (hunloads.2 hclears hfirst _ ?_) (h.not_answered htools hbox.live hbox.nodup)
    rw [htools, List.length_append, Nat.zero_add]
    exact Nat.lt_add_of_pos_right (Nat.zero_lt_succ _)

/-- **A stop goes through** in every state of a run that never unloads some tools and not
others: no id in the map is dead, so the next clearing succeeds as soon as everything
answers. -/
theorem stop_succeeds {mode filePath : String} {autoApply : Bool} {sys : System}
    (hrun : cfg.Runs (fun sys round => round.UnloadsAllOrNone sys)
      (.boot mode filePath autoApply fleet) sys) :
    sys.ctl.trackedIds ⊆ sys.fleet.container.liveIds ∧
      ∀ (reset : Bool) (pattern : Pattern), pattern.AllAnswered →
        ∃ sys', cfg.step sys ⟨.stopStreaming reset, pattern⟩ = some sys' ∧
          cfg.answer sys ⟨.stopStreaming reset, pattern⟩ =
            some (.response ⟨true, "Streaming stopped"⟩) ∧
          sys'.ctl.activeTopicTools = ∅ ∧
          ∀ id ∈ sys.ctl.trackedIds, id ∉ sys'.fleet.container.liveIds := by
  have hstart : ((Controller.initial mode filePath autoApply).toolbox fleet).Sound :=
    ⟨List.nil_subset _, List.nil_subset _, List.nodup_nil⟩
  obtain ⟨hsettled, hbox⟩ := Setting.runs_invariant
    (I := fun pipeline fleet => (pipeline.toolbox fleet).Sound)
    (fun sys round _ hbox hC => establishes_sound hbox hC) hrun Controller.initial_settled hstart
  refine ⟨hbox.live, fun reset pattern hall => ?_⟩
  obtain ⟨response, s', hstep, hanswer, hdone | ⟨-, hfailed⟩⟩ :=
    cfg.stop_spec pattern reset sys
  · obtain ⟨rfl, hdone, -, -⟩ := hdone
    have hbox' : (s'.ctl.toolbox s'.env.fleet) = (sys.ctl.toolbox sys.fleet).clear := hdone.toolbox
    refine ⟨_, hstep, hanswer, congrArg Toolbox.tracked hbox', fun id hid hlive => ?_⟩
    have hcontainer : s'.env.fleet.container =
        sys.fleet.container.unloadAll sys.ctl.trackedIds := congrArg Toolbox.container hbox'
    rw [hcontainer] at hlive
    exact (Container.mem_liveIds_unloadAll.mp hlive).2 hid
  · cases hfailed hsettled.ready with
    | sink sink _ _ _ why => exact absurd (hall.serves sink) why
    | clear done tool rest tools toolbox =>
      exact absurd (hall _ _) (toolbox.not_answered tools hbox.live hbox.nodup)

/-- Stop while the container refuses the unload requests that `refuses` says. -/
def Round.stopRefusing (refuses : Nat → Bool) : Round where
  operation := .stopStreaming false
  pattern := { outcome := fun service n =>
    if service = .unloadNode ∧ refuses n then .rejected else .answered }

/-- After a stop whose first unload request fails, the next one goes through. -/
theorem stop_succeeds_after_refusal :
    ∃ sys sys', Setting.default.Runs (fun sys round => round.UnloadsAllOrNone sys)
        (.boot "gui" "" true .fresh) sys ∧
      sys.ctl.trackedIds = [1, 2] ∧
      Setting.default.step sys ⟨.stopStreaming false, {}⟩ = some sys' ∧
      sys'.ctl.activeTopicTools = ∅ := by
  obtain ⟨loaded, hload, sys, hrefused, hids⟩ : ∃ loaded,
      Setting.default.step (.boot "gui" "" true .fresh) (.throttling ["/a", "/b"]) =
        some loaded ∧ ∃ sys,
      Setting.default.step loaded (.stopRefusing fun _ => true) = some sys ∧
        sys.ctl.trackedIds = [1, 2] := by
    have h : ((Setting.default.step (.boot "gui" "" true .fresh)
        (.throttling ["/a", "/b"])).bind fun loaded =>
          (Setting.default.step loaded (.stopRefusing fun _ => true)).map
            fun sys => sys.ctl.trackedIds) = some [1, 2] := by decide +kernel
    obtain ⟨loaded, hload, hmap⟩ := Option.bind_eq_some_iff.mp h
    exact ⟨loaded, hload, Option.map_eq_some_iff.mp hmap⟩
  have hrun : Setting.default.Runs (fun sys round => round.UnloadsAllOrNone sys)
      (.boot "gui" "" true .fresh) sys := by
    refine .tail (.tail .refl ⟨fun _ h => Outcome.noConfusion h, fun _ _ _ _ => rfl⟩ hload)
      ⟨fun _ h => Outcome.noConfusion h, fun _ h => Outcome.noConfusion h⟩ hrefused
  obtain ⟨sys', hstep, -, hempty, -⟩ := (stop_succeeds hrun).2 false {} fun _ _ => rfl
  exact ⟨sys, sys', hrun, hids, hstep, hempty⟩

/-- After a stop whose second unload request fails, no stop goes through any more: the first
component is gone, but still tracked. -/
theorem half_cleared_map_wedges_stop :
    ∃ sys, Setting.default.Runs (fun _ round => round.pattern.NeverLate .unloadNode)
        (.boot "gui" "" true .fresh) sys ∧
      sys.ctl.trackedIds = [1, 2] ∧ sys.fleet.container.liveIds = [2] ∧
      Setting.default.answer sys ⟨.stopStreaming false, {}⟩ =
        some (.response ⟨false, "Failed to unload topic_tools component"⟩) := by
  have h : ((Setting.default.step (.boot "gui" "" true .fresh)
      (.throttling ["/a", "/b"])).bind fun loaded =>
        (Setting.default.step loaded (.stopRefusing fun n => n = 1)).map
          fun sys => (sys.ctl.trackedIds, sys.fleet.container.liveIds,
            Setting.default.answer sys ⟨.stopStreaming false, {}⟩)) =
      some ([1, 2], [2],
        some (.response ⟨false, "Failed to unload topic_tools component"⟩)) := by decide +kernel
  obtain ⟨loaded, hload, hmap⟩ := Option.bind_eq_some_iff.mp h
  obtain ⟨sys, hrefused, hsys⟩ := Option.map_eq_some_iff.mp hmap
  simp only [Prod.mk.injEq] at hsys
  refine ⟨sys, .tail (.tail .refl (fun _ h => Outcome.noConfusion h) hload) (fun n h => ?_)
    hrefused, hsys⟩
  by_cases hn : n = 1 <;> simp [Round.stopRefusing, hn] at h

end Ros2Dispatcher
