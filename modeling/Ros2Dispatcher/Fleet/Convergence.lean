import Ros2Dispatcher.Fleet.Applying

/-!
# Applying a selection converges

Where every request is answered, `apply_selection` ends in a state that depends on the
selection and on the introspection answer only, and not on what was streaming or loaded
before (`applySelection_converges`).

`Deployment` is what a state deploys, without component ids and times: an id stands for the
component alive under it, so a recorded tool is shown with the request that component was
loaded with. `Deployment.of` is the deployment of a plan. The induction over the loading loop
carries `Toolbox.Deploys`: the toolbox records exactly the live components, and they are those
of the tools loaded so far.
-/

namespace Ros2Dispatcher

open Procedure

/-! ### Deployments -/

/-- A recorded tool, with the component alive under its id in place of the id. -/
structure DeployedTool where
  config : ResolvedTopicTool
  fullNodeName : String
  component : Option LoadNodeRequest
deriving DecidableEq, Repr

/-- What is deployed, up to component ids and times: the sinks there are clients for, the
components in the order they were loaded, the recorded tools by input topic, and the
recorded selection. -/
structure Deployment where
  sinks : Sink → Option SinkNode
  components : List LoadNodeRequest
  tools : String → Option DeployedTool
  topics : List TopicSelection
  sinkTopics : List TopicInfo

/-- The request of the component alive under an id. -/
def Container.component? (container : Container) (id : Nat) : Option LoadNodeRequest :=
  (container.live.find? fun component => component.uniqueId = id).map Component.request

/-- The tool recorded under an input topic. -/
def Toolbox.deployed? (box : Toolbox) (topic : String) : Option DeployedTool :=
  box.tracked[topic]?.map fun tool =>
    ⟨tool.config, tool.fullNodeName, box.container.component? tool.uniqueId⟩

/-- A tool of a plan once it is loaded and recorded. -/
def ResolvedTopicTool.deployed (tool : ResolvedTopicTool) (params : Parameters) : DeployedTool :=
  ⟨tool, fullyQualifiedName params.nodeNamespace tool.nodeName, some (tool.loadRequest params)⟩

/-- The deployment in a state of the controller. -/
def NodeState.deployment (s : NodeState World) (params : Parameters) : Deployment where
  sinks sink := if params.hasClients sink then some (s.env.fleet.sink sink) else none
  components := s.toolbox.container.live.map Component.request
  tools := s.toolbox.deployed?
  topics := s.ctl.appliedSelection.topics
  sinkTopics := s.ctl.appliedSelection.sinkTopics

/-- The deployment of a plan: the sinks run with its topics, in order, and its tools are
loaded and recorded. -/
def Deployment.of (params : Parameters) (validated : List TopicSelection)
    (plan : TopicToolsPlan) : Deployment where
  sinks sink := if params.hasClients sink then some (.running plan.sinkTopics) else none
  components := plan.tools.map fun tool => tool.loadRequest params
  tools topic := (plan.tools.find? fun tool => tool.inputTopic = topic).map fun tool =>
    tool.deployed params
  topics := validated
  sinkTopics := plan.sinkTopics

/-- The toolbox records exactly the live components, each under an id of its own. -/
structure Toolbox.Exact (box : Toolbox) : Prop where
  perm : box.trackedIds.Perm box.container.liveIds
  nodup : box.container.liveIds.Nodup

/-- The states `apply_selection` is started in: no sink is finalized, and the recorded tools
are exactly the live components. -/
structure NodeState.Ready (s : NodeState World) : Prop where
  sinks : ∀ sink, (s.env.fleet.sink sink).state ≠ .finalized
  toolbox : s.toolbox.Exact

/-! ### Loading into an empty toolbox -/

/-- The toolbox records exactly the live components, and they are those of `tools`. -/
structure Toolbox.Deploys (cfg : Setting) (box : Toolbox) (tools : List ResolvedTopicTool) :
    Prop where
  exact : box.Exact
  issued : box.container.liveIds ⊆ box.container.issued
  components : box.container.live.map Component.request =
    tools.map fun tool => tool.loadRequest cfg.params
  recorded : ∀ topic, box.deployed? topic =
    (tools.find? fun tool => tool.inputTopic = topic).map fun tool => tool.deployed cfg.params

section Toolbox

variable {cfg : Setting} {box : Toolbox} {tool : ResolvedTopicTool}
variable {tools done : List ResolvedTopicTool}

theorem Toolbox.Exact.complete (h : box.Exact) : box.Complete :=
  h.perm.symm.subset

/-- Clearing an exact toolbox leaves nothing deployed. -/
theorem Toolbox.Exact.deploys_clear (h : box.Exact) : box.clear.Deploys cfg [] := by
  have hids : box.clear.container.liveIds = [] := h.complete.liveIds_clear
  have hlive : box.clear.container.live = [] := List.map_eq_nil_iff.mp hids
  refine ⟨⟨?_, ?_⟩, ?_, ?_, fun topic => ?_⟩
  · rw [hids]
    exact .refl _
  · rw [hids]
    exact List.nodup_nil
  · rw [hids]
    exact List.nil_subset _
  · rw [hlive]
    rfl
  · simp [Toolbox.deployed?, Toolbox.clear]

/-- The component just loaded is the one alive under its id, and the others keep theirs. -/
theorem Container.component?_load {ids : IdSource} {container : Container}
    {component : LoadNodeRequest} {id : Nat} (hissued : container.liveIds ⊆ container.issued) :
    (container.load ids component).component? id =
      if id = ids.pick container.issued then some component else container.component? id := by
  unfold Container.component? Container.load
  rw [List.find?_append]
  by_cases hid : id = ids.pick container.issued
  · have hnone : container.live.find? (fun component => component.uniqueId = id) = none := by
      refine List.find?_eq_none.mpr fun old hold heq => ?_
      refine ids.pick_fresh container.issued (hissued ?_)
      rw [← hid, ← of_decide_eq_true heq]
      exact List.mem_map_of_mem hold
    rw [hnone, if_pos hid]
    simp [hid]
  · rw [if_neg hid]
    simp [Ne.symm hid]

/-- Loading a tool deploys it under its input topic and changes no other topic. -/
theorem Toolbox.deployed?_load {topic : String} (hlive : box.container.liveIds ⊆
    box.container.issued) (htracked : box.trackedIds ⊆ box.container.issued) :
    (box.load cfg tool).deployed? topic =
      if topic = tool.inputTopic then some (tool.deployed cfg.params)
      else box.deployed? topic := by
  rw [Toolbox.deployed?, Toolbox.load, Std.TreeMap.getElem?_insert]
  by_cases htopic : topic = tool.inputTopic
  · rw [if_pos (by simpa using htopic.symm), if_pos htopic, Option.map_some,
      Container.component?_load hlive]
    simp [ResolvedTopicTool.loaded, ResolvedTopicTool.deployed]
  · rw [if_neg (by simpa using Ne.symm htopic), if_neg htopic, Toolbox.deployed?]
    cases hget : box.tracked[topic]? with
    | none => rfl
    | some active =>
      -- the id of a recorded tool has been given out, so it is not the new one
      have hid : active.uniqueId ≠ cfg.ids.pick box.container.issued := fun heq =>
        cfg.ids.pick_fresh box.container.issued (heq ▸ htracked
          (List.mem_map_of_mem (Registry.mem_values.mpr ⟨topic, hget⟩)))
      rw [Option.map_some, Option.map_some, Container.component?_load hlive, if_neg hid]

/-- Loading a tool under an input topic not in use adds it to what is deployed. -/
theorem Toolbox.Deploys.load (h : box.Deploys cfg done)
    (hnew : tool.inputTopic ∉ done.map (·.inputTopic)) :
    (box.load cfg tool).Deploys cfg (done ++ [tool]) := by
  have hfresh := cfg.ids.pick_fresh box.container.issued
  have hnone : done.find? (fun other => other.inputTopic = tool.inputTopic) = none := by
    refine List.find?_eq_none.mpr fun other hother heq => hnew ?_
    rw [← of_decide_eq_true heq]
    exact List.mem_map_of_mem hother
  have huntracked : tool.inputTopic ∉ box.tracked := by
    have hrecorded := h.recorded tool.inputTopic
    rw [hnone, Toolbox.deployed?, Option.map_none, Option.map_eq_none_iff] at hrecorded
    rwa [Std.TreeMap.mem_iff_isSome_getElem?, Option.not_isSome_iff_eq_none]
  have hperm := (Registry.values_insert_perm_of_not_mem (a := tool.loaded cfg.params
    (cfg.ids.pick box.container.issued)) huntracked).map ActiveTopicTool.uniqueId
  refine ⟨⟨?_, ?_⟩, ?_, ?_, fun topic => ?_⟩
  · rw [Toolbox.load, Container.liveIds_load]
    refine (hperm.trans (h.exact.perm.cons _)).trans ?_
    exact (List.perm_append_singleton _ _).symm
  · rw [Toolbox.load, Container.liveIds_load]
    exact List.nodup_append_comm.mp (List.nodup_cons.mpr
      ⟨fun hmem => hfresh (h.issued hmem), h.exact.nodup⟩)
  · rw [Toolbox.load, Container.liveIds_load]
    exact List.append_subset.mpr ⟨List.subset_append_of_subset_left _ h.issued,
      List.subset_append_right _ _⟩
  · rw [Toolbox.load, Container.load, List.map_append, List.map_append, h.components]
    rfl
  · have htracked : box.trackedIds ⊆ box.container.issued :=
      List.Subset.trans h.exact.perm.subset h.issued
    rw [Toolbox.deployed?_load h.issued htracked, List.find?_append, h.recorded topic]
    by_cases htopic : topic = tool.inputTopic
    · rw [if_pos htopic, htopic, hnone]
      simp
    · rw [if_neg htopic]
      simp [Ne.symm htopic]

/-- Loading a list of tools deploys them, if their input topics are distinct. -/
theorem Toolbox.Deploys.loadAll (h : box.Deploys cfg done)
    (hdistinct : ((done ++ tools).map (·.inputTopic)).Nodup) :
    (box.loadAll cfg tools).Deploys cfg (done ++ tools) := by
  induction tools generalizing box done with
  | nil => simpa [Toolbox.loadAll] using h
  | cons tool tools ih =>
    have hnew : tool.inputTopic ∉ done.map (·.inputTopic) := by
      rw [List.map_append, List.map_cons] at hdistinct
      exact fun hmem => List.disjoint_of_nodup_append hdistinct hmem List.mem_cons_self
    rw [List.append_cons] at hdistinct ⊢
    exact ih (h.load hnew) hdistinct

end Toolbox

/-! ### Applying a selection -/

variable {cfg : Setting} {pattern : Pattern} {s s' : NodeState World}
variable {topics validated : List TopicSelection} {plan : TopicToolsPlan}
variable {answer : List TopicInfo}

/-- A sink whose requests are answered was restarted with the new list. -/
theorem Restarted.eq_running {sink : Sink} {subs : List TopicInfo}
    (h : Restarted cfg pattern sink subs s s') (hall : pattern.AllAnswered) :
    s'.env.fleet.sink sink = .running subs := by
  rcases h with ⟨hnode, -⟩ | ⟨-, hunavailable, -⟩
  · exact hnode
  · exact Outcome.noConfusion ((hall _ _).symm.trans hunavailable)

/-- A sink with clients that is asked for its state answers. -/
theorem Pattern.AllAnswered.reaches (hall : pattern.AllAnswered)
    (hclients : cfg.params.hasClients .mosquitto = true) : s.Reaches cfg pattern .mosquitto := by
  refine ⟨by simpa [Parameters.hasClients, Parameters.sinkNodeName] using hclients, ?_⟩
  rw [NodeState.next, World.next, hall]
  rfl

/-- A successful `apply_selection` with every request answered deploys the plan. -/
private theorem Applied.deploys (h : Applied cfg pattern validated plan s s')
    (hready : s.Ready) (hall : pattern.AllAnswered)
    (hdistinct : (plan.tools.map (·.inputTopic)).Nodup) :
    s'.deployment cfg.params = .of cfg.params validated plan ∧ s'.Ready := by
  have hbox : s'.toolbox.Deploys cfg plan.tools := by
    rw [h.toolbox]
    exact hready.toolbox.deploys_clear.loadAll hdistinct
  have hkafka : s'.env.fleet.kafka = .running plan.sinkTopics := h.kafka.eq_running hall
  have hmosquitto : cfg.params.hasClients .mosquitto = true →
      s'.env.fleet.mosquitto = .running plan.sinkTopics := fun hclients =>
    (h.mosquitto (hall.reaches hclients)).eq_running hall
  refine ⟨?_, fun sink => ?_, hbox.exact⟩
  · simp only [NodeState.deployment, Deployment.of, Deployment.mk.injEq]
    refine ⟨funext fun sink => ?_, hbox.components, funext hbox.recorded, ?_, ?_⟩
    · cases sink with
      | kafka => exact congrArg some hkafka
      | mosquitto =>
        refine ite_congr rfl (fun hclients => ?_) fun _ => rfl
        exact congrArg some (hmosquitto hclients)
    · rw [h.applied]
    · rw [h.applied]
  · cases sink with
    | kafka =>
      rw [show s'.env.fleet.sink .kafka = _ from hkafka]
      exact nofun
    | mosquitto =>
      by_cases hclients : cfg.params.hasClients .mosquitto = true
      · rw [show s'.env.fleet.sink .mosquitto = _ from hmosquitto hclients]
        exact nofun
      · have hskipped : ¬s.Reaches cfg pattern .mosquitto := fun hreach =>
          hclients (Parameters.hasClients_of_name (by simp [hreach.1]))
        rw [show s'.env.fleet.sink .mosquitto = _ from h.skipped hskipped]
        exact hready.sinks .mosquitto

/-- From a ready state, with every request answered and a selection that can be planned,
`apply_selection` does not fail. -/
private theorem ApplyFailed.not_answered (h : ApplyFailed cfg pattern topics s s')
    (hready : s.Ready) (hall : pattern.AllAnswered) (hne : topics ≠ [])
    (hplanned : s.planned cfg pattern topics = .ok (validated, plan)) : False := by
  cases h with
  | prepare ctl fleet why =>
    obtain ⟨message, herror⟩ := why (fun _ => hall _ _) hne
    exact Except.noConfusion rfl rfl (heq_of_eq (hplanned.symm.trans herror))
  | quiesce toolbox kafka mosquitto why => exact why (hall.serves .kafka)
  | reconcile validated plan planned toolbox =>
    rcases toolbox with ⟨done, tool, rest, htools, hunload⟩ | ⟨done, tool, rest, -, hload⟩
    · have hperm := hready.toolbox.perm
      exact hunload.not_answered htools hperm.subset
        (hperm.nodup_iff.mpr hready.toolbox.nodup) (hall _ _)
    · obtain ⟨n, hn⟩ := hload.unanswered
      exact hn (hall _ _)
  | restart validated plan planned toolbox kafka mosquitto why =>
    exact hready.sinks .kafka (why (hall.serves .kafka))
  | mosquitto validated plan planned toolbox kafka why =>
    exact hready.sinks .mosquitto (why (hall.serves .mosquitto))

/-- With every request answered, `apply_selection` returns from a ready state, with the plan
deployed. -/
theorem applySelection_deploys (hready : s.Ready) (hall : pattern.AllAnswered)
    (hne : topics ≠ []) (hplanned : s.planned cfg pattern topics = .ok (validated, plan))
    (hdistinct : (enabledTopics topics).Nodup) :
    ∃ s', applySelection cfg.params (cfg.environment pattern) topics s = .ok ⟨⟩ s' ∧
      s'.deployment cfg.params = .of cfg.params validated plan ∧ s'.Ready := by
  have hspec : wp (applySelection cfg.params (cfg.environment pattern) topics)
      (fun _ s' => s'.deployment cfg.params = .of cfg.params validated plan ∧ s'.Ready)
      (fun _ _ => False) s := by
    refine wp_mono applySelection_spec (fun _ s' hs' => ?_) fun _ s' hs' => ?_
    · obtain ⟨-, -, validated', plan', hplanned', happlied⟩ := hs'
      rw [hplanned, Except.ok.injEq, Prod.mk.injEq] at hplanned'
      obtain ⟨rfl, rfl⟩ := hplanned'
      refine happlied.deploys hready hall ?_
      rw [planSelection_tools hplanned]
      exact hdistinct
    · exact hs'.2.2.not_answered hready hall hne hplanned
  obtain ⟨_, s', hok, hs'⟩ := exists_ok_of_wp hspec
  exact ⟨s', hok, hs'⟩

/-- **Convergence.** With every request answered, `apply_selection` takes every ready state
to the deployment of its plan, which depends on the selection and the introspection answer
only; applying the selection again, with the same answer, changes nothing in it. -/
theorem applySelection_converges (hready : s.Ready) (hall : pattern.AllAnswered)
    (hne : topics ≠ []) (hdistinct : (enabledTopics topics).Nodup)
    (hanswer : pattern.topics (s.env.count .getTopics) = answer)
    (hplan : planSelection cfg.params answer topics = .ok (validated, plan)) :
    ∃ s', applySelection cfg.params (cfg.environment pattern) topics s = .ok ⟨⟩ s' ∧
      s'.deployment cfg.params = .of cfg.params validated plan ∧ s'.Ready ∧
      ∀ again pattern', again.ctl = s'.ctl → again.env.fleet = s'.env.fleet →
        pattern'.AllAnswered → pattern'.topics (again.env.count .getTopics) = answer →
        ∃ s'', applySelection cfg.params (cfg.environment pattern') topics again = .ok ⟨⟩ s'' ∧
          s''.deployment cfg.params = s'.deployment cfg.params ∧ s''.Ready := by
  have hplanned : s.planned cfg pattern topics = .ok (validated, plan) := by
    rw [NodeState.planned, hanswer, hplan]
  obtain ⟨s', hok, hdeployed, hready'⟩ :=
    applySelection_deploys hready hall hne hplanned hdistinct
  refine ⟨s', hok, hdeployed, hready', fun again pattern' hctl hfleet hall' hanswer' => ?_⟩
  have hagain : again.Ready := by
    refine ⟨fun sink => ?_, ?_⟩
    · rw [hfleet]
      exact hready'.sinks sink
    · have htoolbox : again.toolbox = s'.toolbox :=
        NodeState.toolbox_congr (by rw [hctl]) (by rw [hfleet])
      rw [htoolbox]
      exact hready'.toolbox
  have hplanned' : again.planned cfg pattern' topics = .ok (validated, plan) := by
    rw [NodeState.planned, hanswer', hplan]
  obtain ⟨s'', hok', hdeployed', hready''⟩ :=
    applySelection_deploys hagain hall' hne hplanned' hdistinct
  exact ⟨s'', hok', hdeployed'.trans hdeployed.symm, hready''⟩

/-- A selection of one topic with a throttled copy. -/
def throttledSelection (topic : TopicInfo) : List TopicSelection :=
  [{ topic, topicTools := some { enabled := true, pluginName := "topic_tools::ThrottleNode" } }]

/-- After a file with two tools, applying another selection leaves exactly its tool. -/
theorem applySelection_converges_after_file :
    ∃ sys s', Setting.default.step (.boot "gui" "" true .fresh) (.throttling ["/a", "/b"]) =
        some sys ∧
      sys.ctl.trackedIds = [1, 2] ∧
      applySelection Setting.default.params (Setting.default.environment {})
        (throttledSelection ⟨"/c", "T"⟩) sys.start = .ok ⟨⟩ s' ∧
      (s'.deployment Setting.default.params).components.map (·.nodeName) = ["ThrottleNode__c"] := by
  obtain ⟨sys, hstep, hsys⟩ := Option.map_eq_some_iff.mp (show
    (Setting.default.step (.boot "gui" "" true .fresh) (.throttling ["/a", "/b"])).map
      (fun sys => (sys.ctl.trackedIds, sys.fleet.container.liveIds,
        sys.fleet.kafka.state.primary, sys.fleet.mosquitto.state.primary)) =
      some ([1, 2], [1, 2], .active, .active) by decide +kernel)
  simp only [Prod.mk.injEq] at hsys
  obtain ⟨htracked, hlive, hkafka, hmosquitto⟩ := hsys
  have hready : sys.start.Ready := by
    refine ⟨fun sink hstate => ?_, ?_, ?_⟩
    · cases sink with
      | kafka => exact nomatch hkafka.symm.trans (congrArg SinkState.primary hstate)
      | mosquitto => exact nomatch hmosquitto.symm.trans (congrArg SinkState.primary hstate)
    · rw [show sys.start.toolbox.trackedIds = _ from htracked,
        show sys.start.toolbox.container.liveIds = _ from hlive]
    · rw [show sys.start.toolbox.container.liveIds = _ from hlive]
      decide
  obtain ⟨plan, hplan, hnames⟩ : ∃ plan,
      planSelection Setting.default.params [] (throttledSelection ⟨"/c", "T"⟩) =
        .ok (throttledSelection ⟨"/c", "T"⟩, plan) ∧
      plan.tools.map (·.nodeName) = ["ThrottleNode__c"] :=
    ⟨⟨[resolveTopicTool ⟨"/c", "T"⟩ { enabled := true, pluginName := "topic_tools::ThrottleNode" }],
      [⟨"/ThrottleNode__c/c", "T"⟩]⟩, by decide +kernel, by decide +kernel⟩
  have hall : ({} : Pattern).AllAnswered := fun _ _ => rfl
  have hdistinct : (enabledTopics (throttledSelection ⟨"/c", "T"⟩)).Nodup := by decide
  obtain ⟨s', hok, hdeployed, -, -⟩ :=
    applySelection_converges hready hall (List.cons_ne_nil _ _) hdistinct rfl hplan
  refine ⟨sys, s', hstep, htracked, hok, ?_⟩
  rw [hdeployed, ← hnames, Deployment.of, List.map_map]
  rfl

end Ros2Dispatcher
