import Ros2Dispatcher.Controller.Environment

/-!
# From a selection to a plan

The steps between a selection and the calls that apply it: filling in missing types from
the introspection manager (`infer_missing_types`), all-mode discovery
(`discover_all_topics`), the safety limit (`ensure_topic_limits`) and the tool plan
(`build_topic_tools_plan`).
-/

namespace Ros2Dispatcher

/-! ### The tool plan -/

/-- `parameters` with `input_topic` and `output_topic` added where the user gave none. -/
def withTopicParameters (parameters : List Parameter) (inputTopic outputTopic : String) :
    List Parameter :=
  let hasInput := parameters.any fun p => p.name = "input_topic"
  let hasOutput := parameters.any fun p => p.name = "output_topic"
  parameters
    ++ (if hasInput then [] else [⟨"input_topic", .string inputTopic⟩])
    ++ (if hasOutput then [] else [⟨"output_topic", .string outputTopic⟩])

/-- The tool an enabled block asks for. -/
def resolveTopicTool (topic : TopicInfo) (cfg : TopicToolsConfig) : ResolvedTopicTool :=
  let nodeName := if cfg.nodeName.isEmpty then defaultToolNodeName cfg.pluginName topic.name
    else cfg.nodeName
  let outputTopic := if cfg.outputTopic.isEmpty then defaultOutputTopic topic.name nodeName
    else cfg.outputTopic
  { inputTopic := topic.name
    outputTopic
    packageName := cfg.packageName
    pluginName := cfg.pluginName
    nodeName
    parameters := withTopicParameters cfg.parameters topic.name outputTopic
    outputType := if cfg.outputType.isEmpty then topic.type else cfg.outputType }

/-- One round of the loop of `build_topic_tools_plan`: the tool of an entry, if it has an
enabled one, and the topic the sinks listen on for it. -/
def planEntry (entry : TopicSelection) : Except String (Option ResolvedTopicTool × TopicInfo) :=
  if entry.topic.name.isEmpty then .error "Selection entry missing topic_name"
  else match entry.topicTools with
    | none => .ok (none, entry.topic)
    | some cfg =>
      if !cfg.enabled then .ok (none, entry.topic)
      else if cfg.pluginName.isEmpty then
        .error "topic_tools.plugin is required when topic_tools is enabled"
      else
        let tool := resolveTopicTool entry.topic cfg
        -- the sinks take what the tool puts out
        let sinkType := if tool.outputType.isEmpty then entry.topic.type else tool.outputType
        .ok (some tool, ⟨tool.outputTopic, sinkType⟩)

/-- The ways an entry can be planned, with what leads there. -/
inductive Planned (entry : TopicSelection) :
    Except String (Option ResolvedTopicTool × TopicInfo) → Prop
  | unnamed (hname : entry.topic.name = "") :
    Planned entry (.error "Selection entry missing topic_name")
  | plain (hname : entry.topic.name ≠ "")
    (hdisabled : ∀ cfg, entry.topicTools = some cfg → cfg.enabled = false) :
    Planned entry (.ok (none, entry.topic))
  | noPlugin (cfg : TopicToolsConfig) (htools : entry.topicTools = some cfg)
    (henabled : cfg.enabled = true) (hplugin : cfg.pluginName = "") :
    Planned entry (.error "topic_tools.plugin is required when topic_tools is enabled")
  | tool (cfg : TopicToolsConfig) (hname : entry.topic.name ≠ "")
    (htools : entry.topicTools = some cfg) (henabled : cfg.enabled = true)
    (hplugin : cfg.pluginName ≠ "") :
    Planned entry (.ok (some (resolveTopicTool entry.topic cfg),
      ⟨(resolveTopicTool entry.topic cfg).outputTopic,
        if (resolveTopicTool entry.topic cfg).outputType.isEmpty then entry.topic.type
        else (resolveTopicTool entry.topic cfg).outputType⟩))

theorem planEntry_planned (entry : TopicSelection) : Planned entry (planEntry entry) := by
  unfold planEntry
  by_cases hname : entry.topic.name.isEmpty = true
  · rw [if_pos hname]
    exact .unnamed (String.isEmpty_iff.mp hname)
  have hnamed : entry.topic.name ≠ "" := fun h => hname (String.isEmpty_iff.mpr h)
  rw [if_neg hname]
  cases htools : entry.topicTools with
  | none => exact .plain hnamed fun cfg h => by rw [htools] at h; cases h
  | some cfg =>
    dsimp only
    by_cases henabled : cfg.enabled = true
    · rw [henabled, Bool.not_true, if_neg Bool.false_ne_true]
      by_cases hplugin : cfg.pluginName.isEmpty = true
      · rw [if_pos hplugin]
        exact .noPlugin cfg htools henabled (String.isEmpty_iff.mp hplugin)
      · rw [if_neg hplugin]
        exact .tool cfg hnamed htools henabled fun h => hplugin (String.isEmpty_iff.mpr h)
    · have hdisabled : cfg.enabled = false := Bool.not_eq_true _ ▸ henabled
      rw [hdisabled, Bool.not_false, if_pos rfl]
      refine .plain hnamed fun cfg' h => ?_
      rw [htools] at h
      rw [← Option.some.inj h, hdisabled]

/-- `build_topic_tools_plan`: the first entry that cannot be planned stops the loop. -/
def buildTopicToolsPlan : List TopicSelection → Except String TopicToolsPlan
  | [] => .ok {}
  | entry :: rest => do
    let (tool, sinkTopic) ← planEntry entry
    let plan ← buildTopicToolsPlan rest
    pure { tools := tool.toList ++ plan.tools, sinkTopics := sinkTopic :: plan.sinkTopics }

/-- The first entry of a plan and the plan of the rest. -/
theorem buildTopicToolsPlan_cons {entry : TopicSelection} {rest : List TopicSelection}
    {plan : TopicToolsPlan} (h : buildTopicToolsPlan (entry :: rest) = .ok plan) :
    ∃ tool sinkTopic restPlan, planEntry entry = .ok (tool, sinkTopic) ∧
      buildTopicToolsPlan rest = .ok restPlan ∧
      plan = ⟨tool.toList ++ restPlan.tools, sinkTopic :: restPlan.sinkTopics⟩ := by
  rw [buildTopicToolsPlan] at h
  cases hentry : planEntry entry with
  | error message => simp [hentry, bind, Except.bind] at h
  | ok planned =>
    cases hrest : buildTopicToolsPlan rest with
    | error message => simp [hentry, hrest, bind, Except.bind] at h
    | ok restPlan =>
      simp only [hentry, hrest, bind, Except.bind, pure, Except.pure, Except.ok.injEq] at h
      exact ⟨planned.1, planned.2, restPlan, rfl, rfl, h.symm⟩

/-! ### Missing types -/

/-- The map `infer_missing_types` fills from the answer; a later entry for a name wins. -/
def topicTypes (topics : List TopicInfo) : Std.TreeMap String String :=
  topics.foldl (fun types info => types.insert info.name info.type) ∅

/-- The type the answer gives a topic; an empty one counts as none. -/
def inferredType (topics : List TopicInfo) (name : String) : Option String :=
  (topicTypes topics)[name]?.filter fun type => !type.isEmpty

/-- An entry with its missing type filled in, where the answer has one. -/
def completeEntry (topics : List TopicInfo) (sub : TopicSelection) : TopicSelection :=
  if sub.topic.type.isEmpty then
    match inferredType topics sub.topic.name with
    | some type => { sub with topic := { sub.topic with type } }
    | none => sub
  else sub

/-- The names of the entries whose type is missing and not in the answer. -/
def missingTopics (topics : List TopicInfo) (subs : List TopicSelection) : List String :=
  (subs.filter fun sub =>
    sub.topic.type.isEmpty && (inferredType topics sub.topic.name).isNone).map (·.topic.name)

/-- The part of `infer_missing_types` after the answer has arrived. -/
def completeTypes (topics : List TopicInfo) (subs : List TopicSelection) :
    Except String (List TopicSelection) :=
  let missing := missingTopics topics subs
  if missing.isEmpty then .ok (subs.map (completeEntry topics))
  else .error ("Cannot infer types for " ++ toString missing.length ++ " topic(s): "
    ++ ", ".intercalate missing ++ ". Available topics from introspection: "
    -- which topics they are is only logged
    ++ toString (topicTypes topics).size)

theorem completeEntry_typed {topics : List TopicInfo} {sub : TopicSelection}
    (h : sub.topic.type ≠ "") : completeEntry topics sub = sub :=
  if_neg fun hempty => h (String.isEmpty_iff.mp hempty)

theorem completeEntry_inferred {topics : List TopicInfo} {sub : TopicSelection} {type : String}
    (h : sub.topic.type = "") (hinferred : inferredType topics sub.topic.name = some type) :
    completeEntry topics sub = { sub with topic := ⟨sub.topic.name, type⟩ } := by
  rw [completeEntry, if_pos (String.isEmpty_iff.mpr h), hinferred]

theorem missingTopics_ne_nil_iff {topics : List TopicInfo} {subs : List TopicSelection} :
    missingTopics topics subs ≠ [] ↔
      ∃ sub ∈ subs, sub.topic.type = "" ∧ inferredType topics sub.topic.name = none := by
  simp [missingTopics]

/-- Nothing may be missing, and the entries are those given, with types filled in. -/
theorem completeTypes_ok_iff {topics : List TopicInfo} {subs completed : List TopicSelection} :
    completeTypes topics subs = .ok completed ↔
      missingTopics topics subs = [] ∧ subs.map (completeEntry topics) = completed := by
  unfold completeTypes
  dsimp only
  by_cases hmissing : missingTopics topics subs = []
  · rw [hmissing, if_pos (by rfl), Except.ok.injEq]
    exact (and_iff_right rfl).symm
  · rw [if_neg (by simpa using hmissing)]
    exact iff_of_false (fun h => by cases h) fun h => hmissing h.1

/-- The loop that decides whether `infer_missing_types` asks at all. -/
def needsLookup (subs : List TopicSelection) : Bool :=
  subs.any fun sub => sub.topic.type.isEmpty

/-- `ensure_topic_limits`. -/
def ensureTopicLimits (params : Parameters) (subs : List TopicSelection) : Except String Unit :=
  if params.allModeMaxTopics < subs.length then
    .error ("Selection exceeds safety limit (" ++ toString subs.length ++ " > "
      ++ toString params.allModeMaxTopics ++ ")")
  else .ok ()

/-- The filters of the loop of `discover_all_topics`. -/
def Parameters.admits (params : Parameters) (info : TopicInfo) : Bool :=
  !(params.allModeHideRosout && info.name = "/rosout")
    && (params.allModeAllowlist.isEmpty || params.allModeAllowlist.contains info.name)
    && !params.allModeDenylist.contains info.name
    -- the first letter of a full name is its slash
    && !(info.name.toList.head? = some '_')

section Procedures

variable {ω : Type} (params : Parameters) (env : Environment ω)

/-- `infer_missing_types`. -/
def inferMissingTypes (subs : List TopicSelection) : Controlled ω (List TopicSelection) :=
  if needsLookup subs then do
    if ← request env.introspectionAvailable then
      match ← request env.requestTopics with
      | some topics => ofExcept (completeTypes topics subs)
      | none => fail "Timeout querying introspection_manager for types"
    else fail "Introspection service not available for type inference"
  else pure subs

/-- The first unsuccessful result of a `set_parameters` answer, if there is one. -/
def firstFailure (results : List SetParametersResult) : Option SetParametersResult :=
  results.find? fun result => !result.successful

/-- `set_introspection_enabled`. -/
def setIntrospectionEnabled (enabled : Bool) : Controlled ω PUnit := do
  match ← request (env.setIntrospectionEnabled enabled) with
  | .unavailable => fail "introspection_manager set_parameters unavailable"
  | .timeout => fail "Timeout toggling introspection_enabled"
  | .reply results =>
    match firstFailure results with
    | some result => fail ("Failed to toggle introspection_enabled: " ++ result.reason)
    | none => pure ⟨⟩

/-- `discover_all_topics`; a failure to enable introspection is only logged. -/
def discoverAllTopics : Controlled ω (List TopicSelection) := do
  if ← request env.introspectionAvailable then
    -- the topics are asked for in any case
    let _ ← tryCall (setIntrospectionEnabled env true)
    match ← request env.requestTopics with
    | some topics =>
      let out := (topics.filter params.admits).map fun info => { topic := info }
      ofExcept (ensureTopicLimits params out)
      pure out
    | none => fail "Timeout querying introspection_manager"
  else fail "Introspection service not available"

end Procedures

end Ros2Dispatcher
