import Ros2Dispatcher.Controller.Loading
import Ros2Dispatcher.Controller.ToolPlans
import Mathlib.Data.List.Nodup

/-!
# The parameters a tool is loaded with

A parameter of a selection file is rewritten twice on its way to the component: the loader
renames `throttle_rate` to `msgs_per_sec` or `period` where there is a `throttle_type`, and the
planner adds `input_topic` and `output_topic` where they are missing. The planner looks whether
a name is taken, the loader does not. So the component gets every parameter once, under its own
name but for the renamed one, exactly if the file has no parameter of the new name besides the
one to rename (`parameters_unambiguous_iff`).
-/

namespace Ros2Dispatcher

open Fallible Yaml

/-! ### Renaming the rate -/

/-- The names of parameters, in order. -/
def parameterNames (parameters : List Parameter) : List String :=
  parameters.map fun p => p.name

/-- The name that `throttle_rate` is to get, if there is a `throttle_type`. -/
def rateName (given : List Parameter) : Option String :=
  (given.find? fun p => p.name = "throttle_type").map fun throttleType =>
    if throttleType.value = .string "messages" then "msgs_per_sec" else "period"

/-- The name under which a parameter is to reach the component. -/
def finalName (given : List Parameter) (name : String) : String :=
  if name = "throttle_rate" then (rateName given).getD name else name

/-- There is a rate to rename, and a parameter that has its new name already. -/
def RateConflict (given : List Parameter) : Prop :=
  ∃ newName, rateName given = some newName ∧ "throttle_rate" ∈ parameterNames given ∧
    newName ∈ parameterNames given

theorem rateName_ne {given : List Parameter} {newName : String}
    (h : rateName given = some newName) : newName ≠ "throttle_rate" := by
  obtain ⟨throttleType, -, rfl⟩ := Option.map_eq_some_iff.mp h
  split <;> decide

/-- With distinct names, renaming the first is renaming the only one. -/
theorem renameFirst_eq_map {old new : String} {parameters : List Parameter}
    (hdistinct : (parameterNames parameters).Nodup) :
    renameFirst old new parameters =
      parameters.map fun p => ⟨if p.name = old then new else p.name, p.value⟩ := by
  induction parameters with
  | nil => rfl
  | cons p ps ih =>
    obtain ⟨hp, hps⟩ := List.nodup_cons.mp hdistinct
    rw [renameFirst, List.map_cons]
    split
    next hold =>
      have hothers : (ps.map fun q => (⟨if q.name = old then new else q.name, q.value⟩ :
          Parameter)) = ps := by
        refine (List.map_congr_left fun q hq => ?_).trans (List.map_id ps)
        rw [if_neg fun hq' => hp (List.mem_map.mpr ⟨q, hq, hq'.trans hold.symm⟩)]
        rfl
      rw [hothers]
    next hother => rw [ih hps]

/-- What the loader makes of parameters with distinct names. -/
theorem mapThrottleRate_eq_map {given : List Parameter}
    (hdistinct : (parameterNames given).Nodup) :
    mapThrottleRate given = given.map fun p => ⟨finalName given p.name, p.value⟩ := by
  unfold mapThrottleRate
  cases hfind : given.find? fun p => p.name = "throttle_type" with
  | none =>
    refine ((List.map_congr_left fun p _ => ?_).trans (List.map_id given)).symm
    rw [finalName, rateName, hfind, Option.map_none, Option.getD_none, ite_self]
    rfl
  | some throttleType =>
    dsimp only
    rw [renameFirst_eq_map hdistinct]
    refine List.map_congr_left fun p _ => ?_
    rw [finalName, rateName, hfind]
    rfl

/-- Renaming keeps distinct names apart unless the new name is taken. -/
theorem finalNames_nodup_iff {given : List Parameter} (hdistinct : (parameterNames given).Nodup) :
    ((parameterNames given).map (finalName given)).Nodup ↔ ¬RateConflict given := by
  rw [List.nodup_map_iff_inj_on hdistinct]
  cases hrate : rateName given with
  | none =>
    refine iff_of_true (fun name _ name' _ h => ?_) fun ⟨_, hsome, _⟩ => ?_
    · simpa [finalName, hrate] using h
    · rw [hrate] at hsome
      cases hsome
  | some newName =>
    have hne := rateName_ne hrate
    have hfinal : ∀ name, finalName given name =
        if name = "throttle_rate" then newName else name := fun name => by
      rw [finalName, hrate, Option.getD_some]
    constructor
    · rintro hinj ⟨newName', hsome, hold, hnew⟩
      obtain rfl := Option.some.inj (hrate.symm.trans hsome)
      exact hne (hinj _ hnew _ hold (by rw [hfinal, hfinal, if_neg hne, if_pos rfl]))
    · intro hfree name hname name' hname' h
      have hnot : ∀ taken ∈ parameterNames given, "throttle_rate" ∈ parameterNames given →
          taken ≠ newName := fun taken htaken hold heq =>
        hfree ⟨newName, hrate, hold, heq ▸ htaken⟩
      rw [hfinal, hfinal] at h
      split at h
      next hold =>
        split at h
        · simp_all
        · exact absurd h.symm (hnot name' hname' (hold ▸ hname))
      next hother =>
        split at h
        next hold' => exact absurd h (hnot name hname (hold' ▸ hname'))
        next => exact h

/-! ### What reaches the component -/

/-- The component gets every given parameter under its final name, the two topics, and nothing
else; and it gets no name twice. -/
structure Unambiguous (given parameters : List Parameter) : Prop where
  distinct : (parameterNames parameters).Nodup
  kept : ∀ p ∈ given, ⟨finalName given p.name, p.value⟩ ∈ parameters
  only : ∀ q ∈ parameters, (∃ p ∈ given, q = ⟨finalName given p.name, p.value⟩) ∨
    q.name = "input_topic" ∨ q.name = "output_topic"
  topics : "input_topic" ∈ parameterNames parameters ∧ "output_topic" ∈ parameterNames parameters

theorem any_name_iff {parameters : List Parameter} {name : String} :
    (parameters.any fun p => p.name = name) = true ↔ name ∈ parameterNames parameters := by
  simp [parameterNames]

theorem nodup_append_missing {names : List String} {name : String} :
    (names ++ if name ∈ names then [] else [name]).Nodup ↔ names.Nodup := by
  split
  next => rw [List.append_nil]
  next hmissing => rw [← List.concat_eq_append, List.nodup_concat, and_iff_right hmissing]

/-- The planner adds no name that is taken. -/
theorem withTopicParameters_nodup_iff {parameters : List Parameter}
    {inputTopic outputTopic : String} :
    (parameterNames (withTopicParameters parameters inputTopic outputTopic)).Nodup ↔
      (parameterNames parameters).Nodup := by
  have hadded : ∀ name value, parameterNames
      (if parameters.any fun p => p.name = name then [] else [⟨name, value⟩]) =
        if name ∈ parameterNames parameters then [] else [name] := fun name value => by
    rw [apply_ite parameterNames]
    exact if_congr any_name_iff rfl rfl
  have hother : "output_topic" ∈ parameterNames parameters ↔ "output_topic" ∈
      (parameterNames parameters ++
        if "input_topic" ∈ parameterNames parameters then [] else ["input_topic"]) := by
    rw [List.mem_append, or_iff_left]
    split <;> simp
  rw [withTopicParameters, parameterNames, List.map_append, List.map_append]
  change (parameterNames _ ++ parameterNames _ ++ parameterNames _).Nodup ↔ _
  rw [hadded, hadded, if_congr hother rfl rfl, nodup_append_missing, nodup_append_missing]

/-- The planner completes the two topics. -/
theorem withTopicParameters_topics {parameters : List Parameter}
    {inputTopic outputTopic : String} :
    "input_topic" ∈ parameterNames (withTopicParameters parameters inputTopic outputTopic) ∧
      "output_topic" ∈ parameterNames
        (withTopicParameters parameters inputTopic outputTopic) := by
  have hgiven : ∀ p ∈ parameters, p ∈ withTopicParameters parameters inputTopic outputTopic :=
    fun p hp => mem_withTopicParameters.mpr (.inl hp)
  exact ⟨List.mem_map.mpr (exists_of_added hgiven fun h =>
      mem_withTopicParameters.mpr (.inr (.inl ⟨rfl, h⟩))),
    List.mem_map.mpr (exists_of_added hgiven fun h =>
      mem_withTopicParameters.mpr (.inr (.inr ⟨rfl, h⟩)))⟩

/-- Of parameters with distinct names, all reach the component, and unambiguously so unless
the new name of the rate is taken. -/
theorem unambiguous_iff {given : List Parameter} {inputTopic outputTopic : String}
    (hdistinct : (parameterNames given).Nodup) :
    Unambiguous given (withTopicParameters (mapThrottleRate given) inputTopic outputTopic) ↔
      ¬RateConflict given := by
  have hloaded := mapThrottleRate_eq_map hdistinct
  have hnames : parameterNames (mapThrottleRate given) =
      (parameterNames given).map (finalName given) := by
    rw [hloaded, parameterNames, parameterNames, List.map_map, List.map_map]
    rfl
  rw [← finalNames_nodup_iff hdistinct, ← hnames]
  refine ⟨fun h => withTopicParameters_nodup_iff.mp h.distinct, fun h => ?_⟩
  refine ⟨withTopicParameters_nodup_iff.mpr h, fun p hp => ?_, fun q hq => ?_,
    withTopicParameters_topics⟩
  · refine mem_withTopicParameters.mpr (.inl ?_)
    rw [hloaded]
    exact List.mem_map_of_mem hp
  · rcases mem_withTopicParameters.mp hq with hq | ⟨rfl, -⟩ | ⟨rfl, -⟩
    · rw [hloaded] at hq
      obtain ⟨p, hp, rfl⟩ := List.mem_map.mp hq
      exact .inl ⟨p, hp, rfl⟩
    · exact .inr (.inl rfl)
    · exact .inr (.inr rfl)

/-! ### From the file to the component -/

section File

variable {cpp : YamlCpp}

/-- The entries of the `parameters` map of a block. -/
def parameterEntries (block : Yaml) : List (Yaml × Yaml) :=
  match block.lookup "parameters" with
  | some (map entries) => entries
  | _ => []

/-- The parameter that an entry of the map gives: its key, and its value as parsed. -/
def ReadsAs (cpp : YamlCpp) (entry : Yaml × Yaml) (p : Parameter) : Prop :=
  entry.1.stringValue? cpp = some p.name ∧ parseParameterValue cpp p.name entry.2 = .ok p

/-- The keys of the `parameters` map are distinct. -/
def DistinctKeys (cpp : YamlCpp) (block : Yaml) : Prop :=
  ((parameterEntries block).map fun entry => entry.1.stringValue? cpp).Nodup

theorem loadParameter_ok {entry : Yaml × Yaml} {p : Parameter}
    (h : loadParameter cpp entry = .ok p) : ReadsAs cpp entry p := by
  obtain ⟨name, hname, hparse⟩ := bind_eq_ok_iff.mp h
  have hspec : Ends (parseParameterValue cpp name entry.2) _ _ := ends_parseParameterValue
  rw [hparse] at hspec
  obtain ⟨rfl, -⟩ := hspec
  refine ⟨?_, hparse⟩
  cases hkey : entry.1.stringValue? cpp with
  | none => simp [asString, hkey, orThrow] at hname
  | some text =>
    rw [asString, hkey] at hname
    exact congrArg some (Except.ok.inj hname)

/-- The loaded parameters are those of the map, with the rate renamed. -/
theorem loadParameters_ok {block : Yaml} {parameters : List Parameter}
    (hblock : ¬block.IsScalar) (h : loadParameters cpp block = .ok parameters) :
    ∃ given, List.Forall₂ (ReadsAs cpp) (parameterEntries block) given ∧
      parameters = mapThrottleRate given := by
  rw [loadParameters, field_eq hblock] at h
  unfold parameterEntries
  cases hlookup : block.lookup "parameters" with
  | none =>
    rw [hlookup] at h
    cases h
    exact ⟨[], .nil, rfl⟩
  | some value =>
    rw [hlookup] at h
    cases value with
    | null => cases h
    | scalar text => cases h
    | sequence items => cases h
    | map entries =>
      obtain ⟨_, hfield, h⟩ := bind_eq_ok_iff.mp h
      rw [← Except.ok.inj hfield] at h
      obtain ⟨given, hgiven, hparameters⟩ := bind_eq_ok_iff.mp h
      have hread := ends_mapM (f := loadParameter cpp)
        (Q := fun entry p => loadParameter cpp entry = .ok p) (E := fun _ _ => True)
        (fun entry => by cases loadParameter cpp entry <;> trivial) entries
      rw [hgiven] at hread
      exact ⟨given, hread.imp fun _ _ => loadParameter_ok, (Except.ok.inj hparameters).symm⟩

/-- The tools of the plan belong to the enabled blocks of the file, in order. -/
theorem plan_tools_of_file {items : List Yaml} {loaded : List TopicSelection}
    {plan : TopicToolsPlan} (hdescribes : List.Forall₂ (Describes cpp) items loaded)
    (hplan : buildTopicToolsPlan loaded = .ok plan) :
    List.Forall₂ (fun block tool => ∃ topicName outputTopic parameters,
        loadParameters cpp block = .ok parameters ∧
          tool.parameters = withTopicParameters parameters topicName outputTopic)
      (items.filterMap (toolBlock cpp)) plan.tools := by
  induction hdescribes generalizing plan with
  | nil =>
    cases hplan
    exact .nil
  | @cons node entry items loaded hentry _ ih =>
    obtain ⟨tool, sinkTopic, restPlan, hplanEntry, hrest, rfl⟩ := buildTopicToolsPlan_cons hplan
    have hplanned := planEntry_planned entry
    rw [hplanEntry] at hplanned
    cases hblock : node.toolBlock cpp with
    | none =>
      rw [List.filterMap_cons_none hblock]
      cases hplanned with
      | plain _ _ =>
        have htail := ih hrest
        exact htail
      | tool cfg _ htools _ _ =>
        rw [hentry.plain hblock] at htools
        cases htools
    | some block =>
      rw [List.filterMap_cons_some hblock]
      obtain ⟨cfg, htools, henabled, -, hparameters⟩ := hentry.tool block hblock
      cases hplanned with
      | plain _ hdisabled => exact absurd henabled (by simp [hdisabled cfg htools])
      | tool cfg' _ htools' _ _ =>
        obtain rfl := Option.some.inj (htools.symm.trans htools')
        exact .cons ⟨_, _, _, hparameters, rfl⟩ (ih hrest)

/-- The component of a block gets the parameters of the block unambiguously. -/
def KeepsParameters (cpp : YamlCpp) (block : Yaml) (tool : ResolvedTopicTool) : Prop :=
  ∃ given, List.Forall₂ (ReadsAs cpp) (parameterEntries block) given ∧
    Unambiguous given tool.parameters

/-- The block has a rate to rename, and a parameter that has its new name already. -/
def HasRateConflict (cpp : YamlCpp) (block : Yaml) : Prop :=
  ∃ given, List.Forall₂ (ReadsAs cpp) (parameterEntries block) given ∧ RateConflict given

theorem readsAs_unique : Relator.RightUnique (ReadsAs cpp) := by
  rintro entry p p' ⟨hname, hparse⟩ ⟨hname', hparse'⟩
  rw [← Option.some.inj (hname.symm.trans hname'), hparse] at hparse'
  exact Except.ok.inj hparse'

/-- The names are the keys. -/
theorem keys_eq_names {entries : List (Yaml × Yaml)} {given : List Parameter}
    (hread : List.Forall₂ (ReadsAs cpp) entries given) :
    (entries.map fun entry => entry.1.stringValue? cpp) = (parameterNames given).map some := by
  induction hread with
  | nil => rfl
  | cons hentry _ ih =>
    rw [List.map_cons, hentry.1, ih]
    rfl

theorem parameterNames_nodup {block : Yaml} {given : List Parameter}
    (hread : List.Forall₂ (ReadsAs cpp) (parameterEntries block) given)
    (hkeys : DistinctKeys cpp block) : (parameterNames given).Nodup := by
  rw [DistinctKeys, keys_eq_names hread] at hkeys
  exact hkeys.of_map _

theorem not_isScalar_of_toolBlock {node block : Yaml} (h : node.toolBlock cpp = some block) :
    ¬block.IsScalar := by
  unfold toolBlock at h
  split at h
  · rw [← Option.some.inj (Option.ite_none_right_eq_some.mp h).2]
    exact id
  · cases h

/-- The component of one block. -/
theorem keepsParameters_iff {block : Yaml} {tool : ResolvedTopicTool}
    {topicName outputTopic : String} {parameters : List Parameter}
    (hkeys : DistinctKeys cpp block) (hblock : ¬block.IsScalar)
    (hparameters : loadParameters cpp block = .ok parameters)
    (htool : tool.parameters = withTopicParameters parameters topicName outputTopic) :
    KeepsParameters cpp block tool ↔ ¬HasRateConflict cpp block := by
  obtain ⟨given, hread, rfl⟩ := loadParameters_ok hblock hparameters
  have hunambiguous :
      Unambiguous given (withTopicParameters (mapThrottleRate given) topicName outputTopic) ↔
        ¬RateConflict given := unambiguous_iff (parameterNames_nodup hread hkeys)
  have hunique : ∀ given', List.Forall₂ (ReadsAs cpp) (parameterEntries block) given' →
      given' = given := fun given' hread' => readsAs_unique.forall₂ hread' hread
  constructor
  · rintro ⟨given', hread', hkept⟩ ⟨given'', hread'', hconflict⟩
    rw [hunique given' hread', htool] at hkept
    exact hunambiguous.mp hkept (hunique given'' hread'' ▸ hconflict)
  · intro hfree
    refine ⟨given, hread, ?_⟩
    rw [htool]
    exact hunambiguous.mpr fun hconflict => hfree ⟨given, hread, hconflict⟩

/-- **Tool parameters.** The components get the parameters of their blocks unambiguously if no
enabled block has a parameter with the new name of its rate, and in no other case. -/
theorem parameters_unambiguous_iff {path : String} {items : List Yaml}
    {loaded : List TopicSelection} {plan : TopicToolsPlan}
    (hload : loadFileSelection cpp path (.ok (.sequence items)) = .ok loaded)
    (hplan : buildTopicToolsPlan loaded = .ok plan)
    (hkeys : ∀ block ∈ items.filterMap (toolBlock cpp), DistinctKeys cpp block) :
    List.Forall₂ (KeepsParameters cpp) (items.filterMap (toolBlock cpp)) plan.tools ↔
      ∀ block ∈ items.filterMap (toolBlock cpp), ¬HasRateConflict cpp block := by
  have hspec : Ends (loadFileSelection cpp path (.ok (.sequence items))) _ _ :=
    ends_loadFileSelection
  rw [hload] at hspec
  obtain ⟨-, items', hitems, hdescribes⟩ := hspec
  obtain rfl := Yaml.sequence.inj hitems
  have htools := plan_tools_of_file hdescribes hplan
  have hmaps : ∀ block ∈ items.filterMap (toolBlock cpp), ¬block.IsScalar := fun block hblock => by
    obtain ⟨node, -, hnode⟩ := List.mem_filterMap.mp hblock
    exact not_isScalar_of_toolBlock hnode
  generalize items.filterMap (toolBlock cpp) = blocks at hkeys hmaps htools ⊢
  generalize plan.tools = tools at htools ⊢
  induction htools with
  | nil => exact iff_of_true .nil (by simp)
  | @cons block tool blocks tools hblock _ ih =>
    obtain ⟨topicName, outputTopic, parameters, hparameters, htool⟩ := hblock
    rw [List.forall_mem_cons] at hkeys hmaps ⊢
    exact List.forall₂_cons.trans (and_congr
      (keepsParameters_iff hkeys.1 hmaps.1 hparameters htool) (ih hkeys.2 hmaps.2))

end File

/-! ### Two files -/

/-- A throttle with these parameters. -/
def throttleBlock (parameters : List (String × String)) : Yaml :=
  .map [(.scalar "plugin", .scalar "topic_tools::ThrottleNode"),
    (.scalar "parameters", .map (parameters.map fun p => (.scalar p.1, .scalar p.2)))]

/-- The file with one topic and its throttle. -/
def throttleFile (parameters : List (String × String)) : List Yaml :=
  [.map [(.scalar "topic_name", .scalar "/scan"),
    (.scalar "topic_tools", throttleBlock parameters)]]

/-- What is loaded from it. -/
def throttleLoaded (parameters : List (String × String)) : List TopicSelection :=
  [{ topic := ⟨"/scan", ""⟩
     topicTools := some
      { enabled := true
        pluginName := "topic_tools::ThrottleNode"
        parameters := parameters.map fun p => ⟨p.1, .string p.2⟩ } }]

/-- A rate in messages, and no other parameter of that name. -/
theorem parameters_unambiguous_messages : ∃ plan, buildTopicToolsPlan
    (throttleLoaded [("throttle_type", "messages"), ("msgs_per_sec", "5")]) = .ok plan ∧
      List.Forall₂ (KeepsParameters .strings)
        [throttleBlock [("throttle_type", "messages"), ("throttle_rate", "5")]] plan.tools := by
  have hload : loadFileSelection .strings "selection.yaml" (.ok (.sequence
      (throttleFile [("throttle_type", "messages"), ("throttle_rate", "5")]))) =
        .ok (throttleLoaded [("throttle_type", "messages"), ("msgs_per_sec", "5")]) := rfl
  refine ⟨_, rfl, (parameters_unambiguous_iff hload rfl ?_).mpr ?_⟩
  · rintro block hblock
    obtain rfl := List.mem_singleton.mp hblock
    unfold DistinctKeys
    decide +kernel
  · rintro block hblock ⟨given, hread, newName, hrate, -, hnew⟩
    obtain rfl := List.mem_singleton.mp hblock
    have hkeys : [some "throttle_type", some "throttle_rate"] =
        (parameterNames given).map some := keys_eq_names hread
    have hkey : some newName ∈ [some "throttle_type", some "throttle_rate"] := by
      rw [hkeys]
      exact List.mem_map_of_mem hnew
    obtain ⟨throttleType, -, rfl⟩ := Option.map_eq_some_iff.mp hrate
    split at hkey
    · exact absurd hkey (by decide)
    · exact absurd hkey (by decide)

/-- With a parameter `msgs_per_sec` besides, the component gets that name twice. -/
theorem renamed_rate_duplicated :
    loadFileSelection .strings "selection.yaml" (.ok (.sequence (throttleFile
      [("throttle_type", "messages"), ("throttle_rate", "5"), ("msgs_per_sec", "9")]))) =
        .ok (throttleLoaded
          [("throttle_type", "messages"), ("msgs_per_sec", "5"), ("msgs_per_sec", "9")]) ∧
      DistinctKeys .strings (throttleBlock
        [("throttle_type", "messages"), ("throttle_rate", "5"), ("msgs_per_sec", "9")]) ∧
      ∃ plan, buildTopicToolsPlan (throttleLoaded
          [("throttle_type", "messages"), ("msgs_per_sec", "5"), ("msgs_per_sec", "9")]) =
            .ok plan ∧
        ¬List.Forall₂ (KeepsParameters .strings) [throttleBlock
          [("throttle_type", "messages"), ("throttle_rate", "5"), ("msgs_per_sec", "9")]]
          plan.tools := by
  refine ⟨rfl, ?_, _, rfl, fun h => ?_⟩
  · unfold DistinctKeys
    decide +kernel
  · obtain ⟨⟨given, -, hunambiguous⟩, -⟩ := List.forall₂_cons.mp h
    exact absurd hunambiguous.distinct (by decide +kernel)

end Ros2Dispatcher
