import Ros2Dispatcher.Fleet.Holdings

/-!
# What the sinks are given

An entry of `subscriptions_yaml` is of use to a sink only if it has a name and a type. Both
come from elsewhere: a request or a file may leave the type open, discovery takes what the
introspection manager reports, and the plan replaces name and type by those of a tool's
output. Where the introspection manager reports only complete entries, the controller holds
only selections with all their types (`Typed`), and `build_topic_tools_plan` refuses missing
names and gives every tool an output topic; so no sink is ever given an incomplete entry
(`sent_entries_usable`).
-/

namespace Ros2Dispatcher

/-- A sink can subscribe to the topic: name and type are there. -/
def TopicInfo.Usable (info : TopicInfo) : Prop :=
  info.name ≠ "" ∧ info.type ≠ ""

/-- Every entry has its type. -/
def Typed (selection : List TopicSelection) : Prop :=
  ∀ entry ∈ selection, entry.topic.type ≠ ""

/-- The introspection manager reports only complete entries. -/
def Pattern.Reports (pattern : Pattern) : Prop :=
  ∀ n, ∀ info ∈ pattern.topics n, info.Usable

/-! ### Types -/

theorem isEmpty_false_iff {text : String} : text.isEmpty = false ↔ text ≠ "" := by
  rw [← Bool.not_eq_true, String.isEmpty_iff]

/-- A type taken from the answer is not empty. -/
theorem inferredType_ne_empty {answer : List TopicInfo} {name type : String}
    (h : inferredType answer name = some type) : type ≠ "" := by
  have hfilter := Option.filter_eq_some_iff.mp h
  simpa using hfilter.2

/-- Where no type stays missing, every entry has one. -/
theorem completeTypes_typed {answer : List TopicInfo} {subs completed : List TopicSelection}
    (h : completeTypes answer subs = .ok completed) : Typed completed := by
  obtain ⟨hmissing, rfl⟩ := completeTypes_ok_iff.mp h
  intro entry hentry
  obtain ⟨sub, hsub, rfl⟩ := List.mem_map.mp hentry
  by_cases htype : sub.topic.type = ""
  · cases hinferred : inferredType answer sub.topic.name with
    | some type =>
      rw [completeEntry_inferred htype hinferred]
      exact inferredType_ne_empty hinferred
    -- the entry would be among the missing ones
    | none =>
      exact absurd hmissing (missingTopics_ne_nil_iff.mpr ⟨sub, hsub, htype, hinferred⟩)
  · rwa [completeEntry_typed htype]

/-- Type inference returns only entries with a type, whether it had to ask or not. -/
theorem inferWith_typed {answer : List TopicInfo} {subs completed : List TopicSelection}
    (h : inferWith answer subs = .ok completed) : Typed completed := by
  unfold inferWith at h
  split at h
  next => exact completeTypes_typed h
  next hneeds =>
    obtain rfl := (Except.ok.inj h).symm
    intro entry hentry htype
    refine hneeds (List.any_eq_true.mpr ⟨entry, hentry, ?_⟩)
    rw [htype]
    rfl

/-- Discovery takes over the types that are reported. -/
theorem Pattern.Reports.discovered {pattern : Pattern} (h : pattern.Reports)
    (params : Parameters) (n : Nat) : Typed (params.discovered (pattern.topics n)) := by
  intro entry hentry
  obtain ⟨info, hinfo, rfl⟩ := List.mem_map.mp hentry
  exact (h n info (List.mem_filter.mp hinfo).1).2

/-! ### Names -/

theorem slash_append_ne_empty (text : String) : "/" ++ text ≠ "" := by
  intro h
  have hlength := congrArg String.length h
  rw [String.length_append] at hlength
  simp at hlength

/-- A generated output topic has a name. -/
theorem defaultOutputTopic_ne_empty (inputTopic nodeName : String) :
    defaultOutputTopic inputTopic nodeName ≠ "" := by
  have hform : ∀ pre normalized : String,
      (if normalized.isEmpty then "/" ++ pre else "/" ++ pre ++ "/" ++ normalized) ≠ "" := by
    intro pre normalized
    split
    · exact slash_append_ne_empty _
    · rw [String.append_assoc, String.append_assoc]
      exact slash_append_ne_empty _
  exact hform _ _

/-- A tool publishes under a name, explicit or generated. -/
theorem resolveTopicTool_outputTopic {topic : TopicInfo} {cfg : TopicToolsConfig} :
    (resolveTopicTool topic cfg).outputTopic ≠ "" := by
  unfold resolveTopicTool
  dsimp only
  split
  · exact defaultOutputTopic_ne_empty _ _
  next h => exact isEmpty_false_iff.mp (by simpa using h)

/-- A tool's output has a type, its own or that of its input. -/
theorem resolveTopicTool_outputType {topic : TopicInfo} {cfg : TopicToolsConfig}
    (h : topic.type ≠ "") : (resolveTopicTool topic cfg).outputType ≠ "" := by
  unfold resolveTopicTool
  dsimp only
  split
  · exact h
  next h => exact isEmpty_false_iff.mp (by simpa using h)

/-! ### The plan -/

/-- The topic planned for an entry with a type is complete, with or without a tool. -/
theorem planEntry_usable {entry : TopicSelection} {tool : Option ResolvedTopicTool}
    {sinkTopic : TopicInfo} (htype : entry.topic.type ≠ "")
    (h : planEntry entry = .ok (tool, sinkTopic)) : sinkTopic.Usable := by
  have hplanned := planEntry_planned entry
  rw [h] at hplanned
  cases hplanned with
  | plain hname _ => exact ⟨hname, htype⟩
  | tool cfg _ _ _ _ =>
    refine ⟨resolveTopicTool_outputTopic, ?_⟩
    dsimp only
    rw [if_neg (by simpa using resolveTopicTool_outputType htype)]
    exact resolveTopicTool_outputType htype

/-- The plan of a selection with all its types gives the sinks complete entries only. -/
theorem buildTopicToolsPlan_usable {selection : List TopicSelection} {plan : TopicToolsPlan}
    (htyped : Typed selection) (h : buildTopicToolsPlan selection = .ok plan) :
    ∀ info ∈ plan.sinkTopics, info.Usable := by
  induction selection generalizing plan with
  | nil =>
    cases h
    nofun
  | cons entry rest ih =>
    obtain ⟨tool, sinkTopic, restPlan, hentry, hrest, rfl⟩ := buildTopicToolsPlan_cons h
    have htypes := List.forall_mem_cons.mp htyped
    exact List.forall_mem_cons.mpr ⟨planEntry_usable htypes.1 hentry, ih htypes.2 hrest⟩

/-! ### Every run -/

section Runs

variable {cfg : Setting} {sys : System} {round : Round}

/-- Whatever the operation, it takes in selections with all their types and sends complete
entries. -/
theorem Pattern.Reports.admits {pattern : Pattern} (h : pattern.Reports) (op : Operation)
    (ctl : Controller) :
    Admits cfg pattern op ctl Typed fun subs => ∀ info ∈ subs, info.Usable where
  empty := nofun
  completed _ _ _ _ hcompleted := completeTypes_typed hcompleted
  sendable subs hsubs := by
    obtain ⟨selection, plan, htyped, hplan, rfl⟩ := hsubs
    exact buildTopicToolsPlan_usable htyped hplan
  requested _ _ _ _ hinfer _ := inferWith_typed hinfer
  discovered n _ := h.discovered cfg.params n
  loaded _ _ _ _ _ _ hinfers _ := inferWith_typed hinfers.2

/-- Everything held in a run has its types. -/
theorem runs_typed {mode filePath : String} {autoApply : Bool} {fleet : Fleet}
    (hrun : cfg.Runs (fun _ round => round.pattern.Reports) (.boot mode filePath autoApply fleet)
      sys) : sys.ctl.Holds Typed := by
  refine hrun.invariant (I := fun sys => sys.ctl.Holds Typed)
    (fun sys round sys' hsys hreports hstep => ?_) (Controller.initial_holds nofun)
  exact Setting.step_holds (hreports.admits _ _) hsys hstep

/-- **Usable entries.** In every run in which the introspection manager reports only complete
entries, every entry of every list sent to a sink has a name and a type. -/
theorem sent_entries_usable {mode filePath : String} {autoApply : Bool} {fleet : Fleet}
    (hrun : cfg.Runs (fun _ round => round.pattern.Reports) (.boot mode filePath autoApply fleet)
      sys) (hround : round.pattern.Reports) :
    ∀ event ∈ cfg.requests sys round, ∀ sink subs,
      event.rpc = .setSubscriptionsYaml sink subs → ∀ info ∈ subs, info.Usable :=
  Setting.requests_sent (hround.admits _ _) (runs_typed hrun)

/-- After a topic without a type was completed and applied, a file with a throttled topic
sends both sinks the tool's output. -/
theorem sent_entries_usable_throttled :
    ∃ sys, Setting.default.step (.boot "gui" "" true .fresh)
        { operation := .applySelection [⟨"/b", ""⟩]
          pattern := { topics := fun _ => [⟨"/b", "std_msgs/msg/String"⟩] } } = some sys ∧
      Rpc.setSubscriptionsYaml .kafka [⟨"/ThrottleNode__a/a", "std_msgs/msg/String"⟩] ∈
        (Setting.default.requests sys (.throttling ["/a"])).map Event.rpc ∧
      ∀ event ∈ Setting.default.requests sys (.throttling ["/a"]), ∀ sink subs,
        event.rpc = .setSubscriptionsYaml sink subs → ∀ info ∈ subs, info.Usable := by
  let round : Round :=
    { operation := .applySelection [⟨"/b", ""⟩]
      pattern := { topics := fun _ => [⟨"/b", "std_msgs/msg/String"⟩] } }
  obtain ⟨sys, hstep, hsent⟩ := Option.map_eq_some_iff.mp (show
    (Setting.default.step (.boot "gui" "" true .fresh) round).map
      (fun sys => decide (Rpc.setSubscriptionsYaml .kafka
        [⟨"/ThrottleNode__a/a", "std_msgs/msg/String"⟩] ∈
          (Setting.default.requests sys (.throttling ["/a"])).map Event.rpc)) = some true by
    decide +kernel)
  have hreports : round.pattern.Reports := by
    intro n info hinfo
    rw [List.mem_singleton.mp hinfo]
    exact ⟨by decide, by decide⟩
  have hrun : Setting.default.Runs (fun _ round => round.pattern.Reports)
      (.boot "gui" "" true .fresh) sys := .single hreports hstep
  exact ⟨sys, hstep, of_decide_eq_true hsent, sent_entries_usable hrun nofun⟩

end Runs

end Ros2Dispatcher
