import Ros2Dispatcher.Controller.Apply

/-!
# Service handlers, parameter callback and startup timer

Each entry point of the node holds `mutex_` from its first line to its last, so a run of the
controller is a sequence of whole operations: `Operation` lists them and `Operation.run`
is the handler of each.

`reload_selection` and `switch_mode` write the load, infer, plan, cache, limit and apply
steps out separately in the source, with the same effects and messages except for the
prefix of a failed type inference. Those steps are shared here (`refreshFileSelection`,
`refreshAllSelection`, `commitSelection`); what each caller checks before and after them is
its own.
-/

namespace Ros2Dispatcher

/-- The `success` and `message` fields every response has; `on_param_change` uses the same
pair for `successful` and `reason`. -/
structure Response where
  success : Bool
  message : String
deriving DecidableEq, Repr

/-- The response of `get_status`. -/
structure Status where
  selectionMode : String
  streamingActive : Bool
  kafkaSinkState : String
  mosquittoSinkState : String
  appliedTopics : List TopicInfo
  guiSelectionCount : Nat
  fileSelectionCount : Nat
  allSelectionCount : Nat
  lastError : String
  lastErrorStamp : Time
  reconciling : Bool
deriving DecidableEq, Repr

/-- One parameter of a batch given to `on_param_change`; the declared types are fixed, and
names the callback does not look at have no effect on it. -/
inductive ParameterUpdate
  | selectionMode (value : String)
  | selectionFilePath (value : String)
  | autoApplyOnModeChange (value : Bool)
  | other (name : String)
deriving DecidableEq, Repr

/-- What the loop of `on_param_change` has gathered. -/
structure StagedParameters where
  newMode : Option SelectionMode
  newFilePath : String
  requestApply : Bool
  newAutoApply : Option Bool
deriving DecidableEq, Repr

/-- The loop of `on_param_change`; `none` is the early return for an invalid mode. -/
def stageParameters : List ParameterUpdate → StagedParameters → Option StagedParameters
  | [], staged => some staged
  | .selectionMode value :: rest, staged =>
    match parseMode value with
    | some mode => stageParameters rest { staged with newMode := some mode }
    | none => none
  | .selectionFilePath value :: rest, staged =>
    stageParameters rest { staged with newFilePath := value }
  | .autoApplyOnModeChange value :: rest, staged =>
    stageParameters rest { staged with requestApply := value, newAutoApply := some value }
  | .other _ :: rest, staged => stageParameters rest staged

/-- `to_topic_info`. -/
def toTopicInfo (topics : List TopicSelection) : List TopicInfo :=
  topics.map TopicSelection.topic

section Procedures

variable {ω : Type} (params : Parameters) (env : Environment ω)

/-- Record `message` in `last_error_` and answer with it. -/
def explain (message : String) : Controlled ω Response := do
  let stamp ← now env
  update fun ctl => { ctl with lastError := message, lastErrorStamp := stamp }
  pure ⟨false, message⟩

/-- `apply_selection` between `phase_ = BUSY` and the return to `IDLE` or `ERROR`. -/
def applyInPhase (selection : List TopicSelection) : Controlled ω PUnit := do
  update fun ctl => { ctl with phase := .busy }
  match ← tryCall (applySelection params env selection) with
  | .error message =>
    update fun ctl => { ctl with phase := .error }
    fail message
  | .ok _ => update fun ctl => { ctl with phase := .idle }

/-- `load_file_selection` on what `path` holds at the time of the call. -/
def readSelectionFile (path : String) : Controlled ω (List TopicSelection) := fun s =>
  ofFailure (loadFileSelection env.yaml path (env.loadFile path s.env)) s

/-- Load, complete and plan a selection file and cache the result. -/
def refreshFileSelection (inferPrefix path : String) :
    Controlled ω (List TopicSelection × List TopicInfo) := do
  let loaded ← readSelectionFile env path
  match ← tryCall (inferMissingTypes env loaded) with
  | .error message => fail (inferPrefix ++ message)
  | .ok selection =>
    let plan ← ofExcept (buildTopicToolsPlan selection)
    let stamp ← now env
    update fun ctl => { ctl with lastFileSelection := ⟨selection, plan.sinkTopics, stamp⟩ }
    pure (selection, plan.sinkTopics)

/-- Discover and plan all topics and cache the result. -/
def refreshAllSelection : Controlled ω (List TopicSelection × List TopicInfo) := do
  let selection ← discoverAllTopics params env
  let plan ← ofExcept (buildTopicToolsPlan selection)
  let stamp ← now env
  update fun ctl => { ctl with lastAllSelection := ⟨selection, plan.sinkTopics, stamp⟩ }
  pure (selection, plan.sinkTopics)

/-- The steps after a selection is at hand: plan it if it came without sink topics, check
its size, and apply it if asked to. -/
def commitSelection (selection : List TopicSelection) (sinkTopics : List TopicInfo)
    (applyNow : Bool) : Controlled ω PUnit := do
  -- only the check matters here: `apply_selection` plans the selection again
  (if sinkTopics.isEmpty && !selection.isEmpty then
    (fun _ => ⟨⟩) <$> ofExcept (buildTopicToolsPlan selection)
  else pure ⟨⟩)
  ofExcept (ensureTopicLimits params selection)
  (if applyNow then applyInPhase params env selection else pure ⟨⟩)

/-- `switch_mode`. -/
def switchMode (newMode : SelectionMode) (filePath : String) (applyNow : Bool) :
    Controlled ω PUnit := do
  let ctl ← members
  if ctl.phase = .busy then fail "Controller busy"
  else
    update fun ctl =>
      { ctl with
        selectionMode := newMode
        selectionFilePath := if filePath.isEmpty then ctl.selectionFilePath else filePath }
    let ctl ← members
    if applyNow then
      match newMode with
      | .gui =>
        -- without a cached selection the node waits for the next `apply_selection`
        if ctl.lastGuiSelection.topics.isEmpty then pure ⟨⟩
        else
          commitSelection params env ctl.lastGuiSelection.topics
            ctl.lastGuiSelection.sinkTopics true
      | .file =>
        if ctl.selectionFilePath.isEmpty then fail "selection_file_path is empty"
        else
          let (selection, sinkTopics) ← refreshFileSelection env "" ctl.selectionFilePath
          commitSelection params env selection sinkTopics true
      | .all =>
        let (selection, sinkTopics) ← refreshAllSelection params env
        commitSelection params env selection sinkTopics true
    else pure ⟨⟩

/-! ### The handlers -/

/-- `handle_apply_selection`. -/
def handleApplySelection (topics : List TopicInfo) : Controlled ω Response := do
  let ctl ← members
  if ctl.phase = .busy then pure ⟨false, "Controller busy"⟩
  else if ctl.selectionMode ≠ .gui then pure ⟨false, "Not in gui mode"⟩
  else
    match ← tryCall (inferMissingTypes env (topics.map fun topic => { topic })) with
    | .error message => explain env ("Failed to infer topic types: " ++ message)
    | .ok selection =>
      match ensureTopicLimits params selection with
      | .error message => explain env message
      | .ok _ =>
        match ← tryCall (applyInPhase params env selection) with
        | .error message => explain env message
        | .ok _ =>
          -- only a selection that has been applied is cached
          let stamp ← now env
          update fun ctl => { ctl with
            lastGuiSelection := ⟨selection, ctl.appliedSelection.sinkTopics, stamp⟩ }
          pure ⟨true, "Selection applied"⟩

/-- The answer of `handle_reload_selection` once the mode's selection is settled by `m`. -/
def answerReload (applyNow : Bool) (m : Controlled ω PUnit) : Controlled ω Response := do
  match ← tryCall m with
  | .error message => explain env message
  | .ok _ =>
    pure ⟨true, if applyNow then "Selection reloaded and applied" else "Selection reloaded"⟩

/-- `handle_reload_selection`. -/
def handleReloadSelection (filePath : String) (applyNow : Bool) : Controlled ω Response := do
  let ctl ← members
  if ctl.phase = .busy then pure ⟨false, "Controller busy"⟩
  else match ctl.selectionMode with
    | .file => answerReload env applyNow do
      let path := if filePath.isEmpty then ctl.selectionFilePath else filePath
      let (selection, sinkTopics) ← refreshFileSelection env "Failed to infer types: " path
      commitSelection params env selection sinkTopics applyNow
    | .all => answerReload env applyNow do
      let (selection, sinkTopics) ← refreshAllSelection params env
      commitSelection params env selection sinkTopics applyNow
    | .gui =>
      if ctl.lastGuiSelection.topics.isEmpty then
        pure ⟨false, "No cached GUI selection to reload"⟩
      else answerReload env applyNow (commitSelection params env ctl.lastGuiSelection.topics
        ctl.lastGuiSelection.sinkTopics applyNow)

/-- The calls of `handle_stop_streaming`. -/
def stopPipeline : Controlled ω PUnit := do
  deactivateSink params env .kafka
  deactivateSink params env .mosquitto
  clearActiveTopicTools env

/-- `handle_stop_streaming`. -/
def handleStopStreaming (resetCached : Bool) : Controlled ω Response := do
  let ctl ← members
  if ctl.phase = .busy then pure ⟨false, "Controller busy"⟩
  else
    match ← tryCall (stopPipeline params env) with
    | .error message =>
      update fun ctl => { ctl with phase := .error }
      explain env message
    | .ok _ =>
      (if resetCached then
        update fun ctl => { ctl with
          lastGuiSelection := {}, lastFileSelection := {}, lastAllSelection := {} }
      else pure ⟨⟩)
      update fun ctl => { ctl with appliedSelection := {}, phase := .idle }
      pure ⟨true, "Streaming stopped"⟩

/-- The text `get_status` reports for a queried state. -/
def reportedState (state : Option LifecycleState) : String :=
  (state.map stateString).getD "unknown"

/-- The topics `get_status` reports as applied. -/
def Pipeline.appliedTopics (pipeline : Pipeline) : List TopicInfo :=
  if pipeline.appliedSelection.sinkTopics.isEmpty then
    toTopicInfo pipeline.appliedSelection.topics
  else pipeline.appliedSelection.sinkTopics

/-- `handle_get_status`; its `success` and `message` are constant. -/
def handleGetStatus : Controlled ω Status := do
  let kafkaState ← getSinkState params env .kafka
  let mosquittoState ← (if params.mosquittoSinkNodeName.isEmpty then pure none
    else getSinkState params env .mosquitto)
  let ctl ← members
  pure
    { selectionMode := modeToString ctl.selectionMode
      streamingActive :=
        (!params.kafkaSinkNodeName.isEmpty && kafkaState = some .active)
          || (!params.mosquittoSinkNodeName.isEmpty && mosquittoState = some .active)
      kafkaSinkState := reportedState kafkaState
      mosquittoSinkState := if params.mosquittoSinkNodeName.isEmpty then "disabled"
        else reportedState mosquittoState
      appliedTopics := ctl.appliedTopics
      -- the counts of the response have 32 bits
      guiSelectionCount := ctl.lastGuiSelection.topics.length % UInt32.size
      fileSelectionCount := ctl.lastFileSelection.topics.length % UInt32.size
      allSelectionCount := ctl.lastAllSelection.topics.length % UInt32.size
      lastError := ctl.lastError
      lastErrorStamp := ctl.lastErrorStamp
      reconciling := ctl.phase = .busy }

/-- `handle_set_selection_mode`. -/
def handleSetSelectionMode (mode filePath : String) (applyNow : Bool) :
    Controlled ω Response :=
  match parseMode mode with
  | none => pure ⟨false, "Invalid selection_mode. Use gui|file|all."⟩
  | some newMode => do
    match ← tryCall (switchMode params env newMode filePath applyNow) with
    | .error message => pure ⟨false, message⟩
    | .ok _ =>
      -- `switch_mode` has stored the path already
      update fun ctl => { ctl with
        selectionFilePath := if filePath.isEmpty then ctl.selectionFilePath else filePath }
      pure ⟨true, "Mode switched to " ++ modeToString newMode⟩

/-- `on_param_change`. -/
def onParamChange (batch : List ParameterUpdate) : Controlled ω Response := do
  let ctl ← members
  match stageParameters batch
      ⟨none, ctl.selectionFilePath, ctl.autoApplyOnModeChange, none⟩ with
  | none => pure ⟨false, "Invalid selection_mode value"⟩
  | some staged =>
    match staged.newMode with
    -- a file path or an auto-apply flag without a mode is accepted, and not stored
    | none => pure ⟨true, ""⟩
    | some newMode =>
      match ← tryCall (switchMode params env newMode staged.newFilePath staged.requestApply) with
      | .error message => pure ⟨false, message⟩
      | .ok _ =>
        update fun ctl => { ctl with
          selectionFilePath := staged.newFilePath
          autoApplyOnModeChange := staged.newAutoApply.getD ctl.autoApplyOnModeChange }
        pure ⟨true, ""⟩

/-- What the callback of `startup_apply_timer_` does before it cancels the timer. -/
def startupApply : Controlled ω PUnit := do
  let ctl ← members
  if ctl.phase = .busy then pure ⟨⟩
  else if ctl.selectionMode ≠ .file then pure ⟨⟩
  else if ctl.selectionFilePath.isEmpty then pure ⟨⟩
  else
    match ← tryCall (switchMode params env ctl.selectionMode ctl.selectionFilePath true) with
    | .error message => (fun _ => ⟨⟩) <$> explain env message
    | .ok _ => pure ⟨⟩

/-- The callback of `startup_apply_timer_`; it cancels the timer on every path. -/
def onStartupTimer : Controlled ω PUnit := do
  let ctl ← members
  if ctl.startupApplyTimer then
    startupApply params env
    update fun ctl => { ctl with startupApplyTimer := false }
  else pure ⟨⟩

end Procedures

/-! ### Operations -/

/-- What can happen to the node: a service call, a parameter batch, the timer. -/
inductive Operation
  | applySelection (topics : List TopicInfo)
  | reloadSelection (filePath : String) (applyNow : Bool)
  | stopStreaming (resetCached : Bool)
  | getStatus
  | setSelectionMode (mode filePath : String) (applyNow : Bool)
  | paramChange (batch : List ParameterUpdate)
  | startupTimer
deriving DecidableEq, Repr

/-- What an operation answers. -/
inductive Answer
  | response (response : Response)
  | status (status : Status)
  | nothing
deriving DecidableEq, Repr

/-- The handler of an operation. -/
def Operation.run {ω : Type} (params : Parameters) (env : Environment ω) :
    Operation → Controlled ω Answer
  | .applySelection topics => .response <$> handleApplySelection params env topics
  | .reloadSelection filePath applyNow =>
    .response <$> handleReloadSelection params env filePath applyNow
  | .stopStreaming resetCached => .response <$> handleStopStreaming params env resetCached
  | .getStatus => .status <$> handleGetStatus params env
  | .setSelectionMode mode filePath applyNow =>
    .response <$> handleSetSelectionMode params env mode filePath applyNow
  | .paramChange batch => .response <$> onParamChange params env batch
  | .startupTimer => (fun _ => .nothing) <$> onStartupTimer params env

end Ros2Dispatcher
