import Ros2Dispatcher.Controller.Selection

/-!
# Where a tool talks and where the sink listens

For an entry with an enabled tool the plan names the output topic in two places: the sinks get
it as the topic to subscribe to, and the component gets it as its parameter `output_topic`. The
second is left to the user where the block's own parameters contain one, and then the two are
the same only if the user gave the topic that the block settles anyway. Likewise for
`input_topic`. So the tools of a plan are wired to the sinks exactly if no block overrides
these parameters with another value (`wired_iff`).
-/

namespace Ros2Dispatcher

/-! ### Wired plans -/

/-- The parameters have `name`, with this value and no other. -/
def Carries (parameters : List Parameter) (name : String) (value : ParameterValue) : Prop :=
  (∃ p ∈ parameters, p.name = name) ∧ ∀ p ∈ parameters, p.name = name → p.value = value

/-- The entry has no enabled tool. -/
def TopicSelection.IsPlain (entry : TopicSelection) : Prop :=
  ∀ cfg, entry.topicTools = some cfg → cfg.enabled = false

/-- The tool is the one the block of an entry asks for, and it is told to read from the topic
of the entry and to write to the topic of the sink. -/
structure ResolvedTopicTool.Connects (tool : ResolvedTopicTool) (entry : TopicSelection)
    (cfg : TopicToolsConfig) (sinkTopic : TopicInfo) : Prop where
  inputTopic : tool.inputTopic = entry.topic.name
  packageName : tool.packageName = cfg.packageName
  pluginName : tool.pluginName = cfg.pluginName
  sink : sinkTopic.name = tool.outputTopic
  writes : Carries tool.parameters "output_topic" (.string tool.outputTopic)
  reads : Carries tool.parameters "input_topic" (.string entry.topic.name)

/-- The plan has a sink topic for every entry, in order: the topic of a plain entry itself, and
for an entry with an enabled tool the topic that its tool, the next one of the plan, connects
it to. -/
inductive Wired : List TopicSelection → TopicToolsPlan → Prop
  | nil : Wired [] {}
  | plain {entry rest plan} (hplain : entry.IsPlain) (hrest : Wired rest plan) :
    Wired (entry :: rest) ⟨plan.tools, entry.topic :: plan.sinkTopics⟩
  | tool {entry cfg tool sinkTopic rest plan} (htools : entry.topicTools = some cfg)
    (henabled : cfg.enabled = true) (hconnects : tool.Connects entry cfg sinkTopic)
    (hrest : Wired rest plan) :
    Wired (entry :: rest) ⟨tool :: plan.tools, sinkTopic :: plan.sinkTopics⟩

/-! ### The parameters of a component -/

/-- The output topic an enabled block settles for the topic `topicName`. -/
def TopicToolsConfig.settledOutput (cfg : TopicToolsConfig) (topicName : String) : String :=
  if cfg.outputTopic = "" then
    defaultOutputTopic topicName
      (if cfg.nodeName = "" then defaultToolNodeName cfg.pluginName topicName else cfg.nodeName)
  else cfg.outputTopic

/-- The block's own parameters do not lead the tool elsewhere. -/
def TopicToolsConfig.Consistent (cfg : TopicToolsConfig) (topicName : String) : Prop :=
  ∀ p ∈ cfg.parameters,
    (p.name = "output_topic" → p.value = .string (cfg.settledOutput topicName)) ∧
      (p.name = "input_topic" → p.value = .string topicName)

theorem resolveTopicTool_outputTopic_eq {topic : TopicInfo} {cfg : TopicToolsConfig} :
    (resolveTopicTool topic cfg).outputTopic = cfg.settledOutput topic.name := by
  simp only [resolveTopicTool, TopicToolsConfig.settledOutput, String.isEmpty_iff]

/-- What the component gets: the block's own parameters, and each of the two topics where the
block has no parameter for it. -/
theorem mem_withTopicParameters {parameters : List Parameter} {inputTopic outputTopic : String}
    {p : Parameter} :
    p ∈ withTopicParameters parameters inputTopic outputTopic ↔ p ∈ parameters ∨
      (p = ⟨"input_topic", .string inputTopic⟩ ∧ ∀ q ∈ parameters, q.name ≠ "input_topic") ∨
      (p = ⟨"output_topic", .string outputTopic⟩ ∧ ∀ q ∈ parameters, q.name ≠ "output_topic") := by
  have hadded : ∀ {name : String} {added : Parameter},
      (p ∈ if parameters.any fun q => q.name = name then [] else [added]) ↔
        p = added ∧ ∀ q ∈ parameters, q.name ≠ name := by
    intro name added
    split
    next hgiven =>
      obtain ⟨q, hq, hname⟩ := List.any_eq_true.mp hgiven
      exact iff_of_false (by simp) fun h => h.2 q hq (of_decide_eq_true hname)
    next hmissing =>
      rw [List.mem_singleton]
      refine (and_iff_left fun q hq hname => hmissing ?_).symm
      exact List.any_eq_true.mpr ⟨q, hq, decide_eq_true hname⟩
  rw [withTopicParameters, List.mem_append, List.mem_append, hadded, hadded, or_assoc]

/-- A parameter that is added where it is missing is there. -/
theorem exists_of_added {parameters extended : List Parameter} {name : String}
    {value : ParameterValue} (hgiven : ∀ p ∈ parameters, p ∈ extended)
    (hadded : (∀ p ∈ parameters, p.name ≠ name) → ⟨name, value⟩ ∈ extended) :
    ∃ p ∈ extended, p.name = name := by
  by_cases hmissing : ∀ p ∈ parameters, p.name ≠ name
  · exact ⟨_, hadded hmissing, rfl⟩
  · obtain ⟨p, hp, hname⟩ : ∃ p ∈ parameters, p.name = name := by simpa using hmissing
    exact ⟨p, hgiven p hp, hname⟩

/-- It has its value if the given parameters of this name do. -/
theorem carries_iff {parameters extended : List Parameter} {name : String}
    {value : ParameterValue} (hgiven : ∀ p ∈ parameters, p ∈ extended)
    (hadded : (∀ p ∈ parameters, p.name ≠ name) → ⟨name, value⟩ ∈ extended)
    (honly : ∀ p ∈ extended, p.name = name → p ∈ parameters ∨ p.value = value) :
    Carries extended name value ↔ ∀ p ∈ parameters, p.name = name → p.value = value := by
  constructor
  · intro h p hp
    exact h.2 p (hgiven p hp)
  · intro h
    exact ⟨exists_of_added hgiven hadded, fun p hp hname =>
      (honly p hp hname).elim (fun hp' => h p hp' hname) id⟩

/-- The tool of a block connects its topics if the block's own parameters say so. -/
theorem resolveTopicTool_connects_iff {entry : TopicSelection} {cfg : TopicToolsConfig}
    {type : String} :
    (resolveTopicTool entry.topic cfg).Connects entry cfg
        ⟨(resolveTopicTool entry.topic cfg).outputTopic, type⟩ ↔
      cfg.Consistent entry.topic.name := by
  have hparameters : (resolveTopicTool entry.topic cfg).parameters =
      withTopicParameters cfg.parameters entry.topic.name (cfg.settledOutput entry.topic.name) := by
    rw [← resolveTopicTool_outputTopic_eq]
    rfl
  have hwrites : Carries (resolveTopicTool entry.topic cfg).parameters "output_topic"
      (.string (cfg.settledOutput entry.topic.name)) ↔ ∀ p ∈ cfg.parameters,
        p.name = "output_topic" → p.value = .string (cfg.settledOutput entry.topic.name) := by
    simp only [hparameters]
    refine carries_iff (fun p hp => mem_withTopicParameters.mpr (.inl hp))
      (fun h => mem_withTopicParameters.mpr (.inr (.inr ⟨rfl, h⟩))) fun p hp hname => ?_
    rcases mem_withTopicParameters.mp hp with hp | ⟨rfl, -⟩ | ⟨rfl, -⟩
    · exact .inl hp
    · simp at hname
    · exact .inr rfl
  have hreads : Carries (resolveTopicTool entry.topic cfg).parameters "input_topic"
      (.string entry.topic.name) ↔ ∀ p ∈ cfg.parameters,
        p.name = "input_topic" → p.value = .string entry.topic.name := by
    simp only [hparameters]
    refine carries_iff (fun p hp => mem_withTopicParameters.mpr (.inl hp))
      (fun h => mem_withTopicParameters.mpr (.inr (.inl ⟨rfl, h⟩))) fun p hp hname => ?_
    rcases mem_withTopicParameters.mp hp with hp | ⟨rfl, -⟩ | ⟨rfl, -⟩
    · exact .inl hp
    · exact .inr rfl
    · simp at hname
  constructor
  · intro h p hp
    have hoverride := h.writes
    rw [resolveTopicTool_outputTopic_eq] at hoverride
    exact ⟨hwrites.mp hoverride p hp, hreads.mp h.reads p hp⟩
  · intro h
    refine ⟨rfl, rfl, rfl, rfl, ?_, hreads.mpr fun p hp => (h p hp).2⟩
    rw [resolveTopicTool_outputTopic_eq]
    exact hwrites.mpr fun p hp => (h p hp).1

/-! ### Plans -/

/-- The plan of the rest is the rest of the plan. -/
theorem wired_plain_iff {entry : TopicSelection} {rest : List TopicSelection}
    {plan : TopicToolsPlan} (hplain : entry.IsPlain) :
    Wired (entry :: rest) ⟨plan.tools, entry.topic :: plan.sinkTopics⟩ ↔ Wired rest plan := by
  refine ⟨fun h => ?_, .plain hplain⟩
  generalize hwhole : (⟨plan.tools, entry.topic :: plan.sinkTopics⟩ : TopicToolsPlan) = whole at h
  cases h with
  | plain _ hrest =>
    obtain ⟨htools, hsinks⟩ := TopicToolsPlan.mk.inj hwhole
    rwa [show plan = _ from congrArg₂ TopicToolsPlan.mk htools (List.cons.inj hsinks).2]
  | tool htools henabled _ _ => exact absurd henabled (by simp [hplain _ htools])

theorem wired_tool_iff {entry : TopicSelection} {cfg : TopicToolsConfig}
    {tool : ResolvedTopicTool} {sinkTopic : TopicInfo} {rest : List TopicSelection}
    {plan : TopicToolsPlan} (htools : entry.topicTools = some cfg) (henabled : cfg.enabled = true) :
    Wired (entry :: rest) ⟨tool :: plan.tools, sinkTopic :: plan.sinkTopics⟩ ↔
      tool.Connects entry cfg sinkTopic ∧ Wired rest plan := by
  refine ⟨fun h => ?_, fun h => .tool htools henabled h.1 h.2⟩
  generalize hwhole :
    (⟨tool :: plan.tools, sinkTopic :: plan.sinkTopics⟩ : TopicToolsPlan) = whole at h
  cases h with
  | plain hplain _ => exact absurd henabled (by simp [hplain cfg htools])
  | tool htools' _ hconnects hrest =>
    obtain ⟨hparts, hparts'⟩ := TopicToolsPlan.mk.inj hwhole
    obtain ⟨rfl, hplanTools⟩ := List.cons.inj hparts
    obtain ⟨rfl, hplanSinks⟩ := List.cons.inj hparts'
    obtain rfl := Option.some.inj (htools.symm.trans htools')
    rw [show plan = _ from congrArg₂ TopicToolsPlan.mk hplanTools hplanSinks]
    exact ⟨hconnects, hrest⟩

/-- **The sink listens where the tool talks.** A plan is wired if no enabled block overrides
one of the two topics with another value, and in no other case. -/
theorem wired_iff {selection : List TopicSelection} {plan : TopicToolsPlan}
    (h : buildTopicToolsPlan selection = .ok plan) :
    Wired selection plan ↔ ∀ entry ∈ selection, ∀ cfg, entry.topicTools = some cfg →
      cfg.enabled = true → cfg.Consistent entry.topic.name := by
  induction selection generalizing plan with
  | nil =>
    cases h
    exact iff_of_true .nil (by simp)
  | cons entry rest ih =>
    obtain ⟨tool, sinkTopic, restPlan, hentry, hrest, rfl⟩ := buildTopicToolsPlan_cons h
    rw [List.forall_mem_cons, ← ih hrest]
    have hplanned := planEntry_planned entry
    rw [hentry] at hplanned
    cases hplanned with
    | plain hname hdisabled =>
      rw [Option.toList_none, List.nil_append, wired_plain_iff hdisabled, iff_and_self]
      intro _ cfg htools henabled
      exact absurd henabled (by simp [hdisabled cfg htools])
    | tool cfg hname htools henabled hplugin =>
      rw [Option.toList_some, List.singleton_append, wired_tool_iff htools henabled,
        resolveTopicTool_connects_iff]
      refine and_congr_left fun _ => ⟨fun hconsistent cfg' htools' _ => ?_, fun hall => ?_⟩
      · rwa [← Option.some.inj (htools.symm.trans htools')]
      · exact hall cfg htools henabled

/-- A throttle with a parameter of its own. -/
def throttleWith (parameter : Parameter) : TopicToolsConfig where
  enabled := true
  pluginName := "topic_tools::ThrottleNode"
  outputTopic := "/throttled/scan"
  parameters := [parameter]

/-- An entry with such a throttle. -/
def throttledWith (parameter : Parameter) : TopicSelection where
  topic := ⟨"/scan", "T"⟩
  topicTools := some (throttleWith parameter)

/-- With a parameter for something else, the plan is wired. -/
theorem wired_iff_period : ∃ plan,
    buildTopicToolsPlan [{ topic := ⟨"/plain", "T"⟩ }, throttledWith ⟨"period", .string "1"⟩] =
      .ok plan ∧
      Wired [{ topic := ⟨"/plain", "T"⟩ }, throttledWith ⟨"period", .string "1"⟩] plan := by
  refine ⟨_, rfl, (wired_iff rfl).mpr fun entry hentry cfg htools _ p hp => ?_⟩
  rcases List.mem_pair.mp hentry with rfl | rfl
  · cases htools
  · cases htools
    rw [List.mem_singleton.mp hp]
    simp

/-- With another output topic among its parameters, the tool writes where no sink listens. -/
theorem overridden_output_unheard : ∃ plan,
    buildTopicToolsPlan [throttledWith ⟨"output_topic", .string "/elsewhere"⟩] = .ok plan ∧
      ¬Wired [throttledWith ⟨"output_topic", .string "/elsewhere"⟩] plan := by
  refine ⟨_, rfl, fun h => ?_⟩
  have hconnects : (resolveTopicTool ⟨"/scan", "T"⟩
      (throttleWith ⟨"output_topic", .string "/elsewhere"⟩)).Connects
        (throttledWith ⟨"output_topic", .string "/elsewhere"⟩)
        (throttleWith ⟨"output_topic", .string "/elsewhere"⟩) ⟨"/throttled/scan", "T"⟩ ∧
      Wired [] {} := (wired_tool_iff rfl rfl).mp h
  have hvalue := hconnects.1.writes.2 ⟨"output_topic", .string "/elsewhere"⟩
    (by decide +kernel) rfl
  exact absurd hvalue (by decide +kernel)

end Ros2Dispatcher
