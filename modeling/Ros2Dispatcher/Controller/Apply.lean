import Ros2Dispatcher.Controller.Selection

/-!
# Applying a selection

The requests to the sinks (`get_sink_state`, `change_sink_state`,
`set_sink_subscriptions_yaml`, `deactivate_sink`), the bookkeeping of the loaded tools
(`reconcile_topic_tools`, `clear_active_topic_tools`) and `apply_selection` itself.

The source names the kafka variants separately (`get_kafka_sink_state` and so on), each the
sink procedure at `kafka_sink`. The block that brings a sink out of `ACTIVE` and configures
it appears twice there, inlined for kafka and in `apply_selection_to_sink`, with the same
calls and messages up to the label: it is `quiesceSink` here.
-/

namespace Ros2Dispatcher

variable {ω : Type} (params : Parameters) (env : Environment ω)

/-! ### Requests to one sink -/

/-- `get_sink_state`; no answer is `none`. -/
def getSinkState (sink : Sink) : Controlled ω (Option LifecycleState) :=
  if params.hasClients sink then do
    match ← request (env.getState sink) with
    | .unavailable => pure none
    | .timeout => pure none
    | .reply state => pure (some state)
  else pure none

/-- `change_sink_state`. -/
def changeSinkState (sink : Sink) (transition : Transition) : Controlled ω PUnit :=
  if params.hasClients sink then do
    match ← request (env.changeState sink transition) with
    | .unavailable => fail (sink.label ++ " change_state service not available")
    | .timeout => fail ("Timeout during " ++ sink.label ++ " " ++ transition.action)
    | .reply success =>
      if success then pure ⟨⟩
      else fail (sink.label ++ " rejected transition " ++ transition.action)
  else fail (sink.label ++ " change_state client not initialized")

/-- `should_skip_unavailable_sink`. -/
def shouldSkipUnavailableSink (sink : Sink) : Controlled ω PUnit :=
  if params.allowMissingSinks then pure ⟨⟩
  else fail ("Unable to reach " ++ sink.label ++ " services")

/-- `set_sink_subscriptions_yaml`. An unavailable service takes the skip, which reports
success where missing sinks are allowed. -/
def setSinkSubscriptionsYaml (sink : Sink) (subs : List TopicInfo) : Controlled ω PUnit :=
  if params.hasClients sink then do
    match ← request (env.setSubscriptionsYaml sink subs) with
    | .unavailable => shouldSkipUnavailableSink params sink
    | .timeout => fail ("Timeout setting " ++ sink.label ++ " subscriptions_yaml")
    | .reply results =>
      match firstFailure results with
      | some result =>
        fail ("Failed to set " ++ sink.label ++ " subscriptions_yaml: " ++ result.reason)
      | none => pure ⟨⟩
  else shouldSkipUnavailableSink params sink

/-- `deactivate_sink`. -/
def deactivateSink (sink : Sink) : Controlled ω PUnit :=
  if (params.sinkNodeName sink).isEmpty then pure ⟨⟩
  else do
    match ← getSinkState params env sink with
    | none => shouldSkipUnavailableSink params sink
    | some state =>
      if state = .active then changeSinkState params env sink .deactivate else pure ⟨⟩

/-- Deactivate an active sink and read its state again. -/
def leaveActive (sink : Sink) : Controlled ω LifecycleState := do
  changeSinkState params env sink .deactivate
  match ← getSinkState params env sink with
  | some state => pure state
  | none => fail ("Failed to confirm " ++ sink.label ++ " state after deactivate")

/-- The block of `apply_selection` and of `apply_selection_to_sink` after the state query:
deactivate an active sink, then configure an unconfigured one. -/
def quiesceSink (sink : Sink) (state : LifecycleState) : Controlled ω PUnit := do
  let state ← (if state = .active then leaveActive params env sink else pure state)
  (if state = .unconfigured then changeSinkState params env sink .configure else pure ⟨⟩)

/-- `apply_selection_to_sink`. -/
def applySelectionToSink (sink : Sink) (subs : List TopicInfo) : Controlled ω PUnit :=
  if (params.sinkNodeName sink).isEmpty then pure ⟨⟩
  else do
    match ← getSinkState params env sink with
    | none => shouldSkipUnavailableSink params sink
    | some state => do
      quiesceSink params env sink state
      setSinkSubscriptionsYaml params env sink subs
      changeSinkState params env sink .activate

/-! ### The loaded tools -/

/-- `deactivate_and_unload_tool`. -/
def deactivateAndUnloadTool (tool : ActiveTopicTool) : Controlled ω PUnit := do
  match ← request (env.unloadNode tool.uniqueId) with
  | .unavailable => fail "unload_node service not available for component container"
  | .timeout => fail "Timeout unloading topic_tools component"
  | .reply success =>
    if success then pure ⟨⟩ else fail "Failed to unload topic_tools component"

/-- `clear_active_topic_tools`: the map is emptied only after every tool is unloaded. -/
def clearActiveTopicTools : Controlled ω PUnit := do
  let ctl ← members
  -- a failure leaves the loop, and the map still has the tools that are unloaded
  forM ctl.trackedTools (deactivateAndUnloadTool env)
  update fun ctl => { ctl with activeTopicTools := ∅ }

/-- `load_and_activate_topic_tool`. -/
def loadAndActivateTopicTool (tool : ResolvedTopicTool) : Controlled ω ActiveTopicTool := do
  match ← request (env.loadNode
      { packageName := tool.packageName
        pluginName := tool.pluginName
        nodeName := tool.nodeName
        nodeNamespace := params.nodeNamespace
        parameters := tool.parameters }) with
  | .unavailable => fail "load_node service not available for component container"
  | .timeout => fail "Timeout loading topic_tools component"
  | .reply response =>
    if response.success then
      pure { uniqueId := response.uniqueId, fullNodeName := response.fullNodeName, config := tool }
    else fail ("Failed to load topic_tools component " ++ tool.nodeName)

/-- One round of the loading loop: the tool is recorded under its input topic. -/
def loadAndRecordTool (tool : ResolvedTopicTool) : Controlled ω PUnit := do
  let active ← loadAndActivateTopicTool params env tool
  update fun ctl =>
    { ctl with activeTopicTools := ctl.activeTopicTools.insert tool.inputTopic active }

/-- `reconcile_topic_tools`. -/
def reconcileTopicTools (plan : TopicToolsPlan) : Controlled ω PUnit := do
  clearActiveTopicTools env
  forM plan.tools (loadAndRecordTool params env)

/-! ### `apply_selection` -/

/-- The selection `apply_selection` plans: the given one, or with `validate_topics_` the one
with its missing types filled in. -/
def validateSelection (topics : List TopicSelection) : Controlled ω (List TopicSelection) :=
  if params.validateTopics then inferMissingTypes env topics else pure topics

/-- The first part of `apply_selection`, before any sink or tool is touched: the checks, the
state of kafka_sink, the selection to apply and its plan. -/
def prepareSelection (topics : List TopicSelection) :
    Controlled ω (LifecycleState × List TopicSelection × TopicToolsPlan) :=
  if topics.isEmpty then fail "No topics to apply"
  else do
    match ← getSinkState params env .kafka with
    | none => fail "Unable to get kafka_sink state"
    | some state =>
      -- the plan is that of the completed selection, so inferred types reach the tools
      let validated ← validateSelection params env topics
      let plan ← ofExcept (buildTopicToolsPlan validated)
      pure (state, validated, plan)

/-- The end of `apply_selection`: record what was applied and, if configured, turn the
introspection manager off; a failure to do so is only logged. -/
def recordApplied (validated : List TopicSelection) (plan : TopicToolsPlan) :
    Controlled ω PUnit := do
  let stamp ← now env
  update fun ctl => { ctl with appliedSelection := ⟨validated, plan.sinkTopics, stamp⟩ }
  if params.disableIntrospectionAfterApply then
    let _ ← tryCall (setIntrospectionEnabled env false)
    pure ⟨⟩
  else pure ⟨⟩

/-- `apply_selection`. -/
def applySelection (topics : List TopicSelection) : Controlled ω PUnit := do
  let (state, validated, plan) ← prepareSelection params env topics
  -- nothing was changed so far; from here on a failure leaves what was done before it
  quiesceSink params env .kafka state
  reconcileTopicTools params env plan
  setSinkSubscriptionsYaml params env .kafka plan.sinkTopics
  changeSinkState params env .kafka .activate
  applySelectionToSink params env .mosquitto plan.sinkTopics
  recordApplied params env validated plan

end Ros2Dispatcher
