import Ros2Dispatcher.Controller.Selection
import Mathlib.Data.List.Nodup
import Mathlib.Data.List.TakeWhile

/-!
# Generated names

A tool without a name of its own is named after its plugin and its topic, with every slash
flattened to an underscore, and its output topic is put below that name. The flattening forgets
where the slashes were: `/a/b` and `/a_b` give the same node name, and these are the only
collisions (`defaultToolNodeName_eq_iff`). The output topic keeps the topic as it is behind a
name without slashes, so no two of them are the same (`outputTopic_inj`); one is an
input topic as well only if that topic already lies below a generated name.
-/

namespace Ros2Dispatcher

/-! ### Flattened names -/

/-- The characters of a name with underscores for its slashes. -/
def flattened (name : String) : List Char :=
  name.toList.map fun c => if c = '/' then '_' else c

/-- The name has slashes and underscores only. -/
def OnlySeparators (name : String) : Prop :=
  ∀ c ∈ name.toList, c = '/' ∨ c = '_'

/-- A topic name that starts with a slash, and goes on after it. -/
def IsAbsolute (topicName : String) : Prop :=
  ∃ rest, rest ≠ "" ∧ topicName = "/" ++ rest

theorem isAbsolute_iff {topicName : String} :
    IsAbsolute topicName ↔
      topicName.toList.head? = some '/' ∧ topicName.toList.tail ≠ [] := by
  constructor
  · rintro ⟨rest, hrest, rfl⟩
    rw [String.toList_append]
    exact ⟨rfl, fun h => hrest (String.toList_eq_nil_iff.mp h)⟩
  · rintro ⟨hhead, htail⟩
    obtain ⟨rest, hrest⟩ := List.head?_eq_some_iff.mp hhead
    rw [hrest] at htail
    refine ⟨String.ofList rest, fun h => htail (by simpa using congrArg String.toList h), ?_⟩
    simp [← String.toList_inj, hrest]

instance (name : String) : Decidable (OnlySeparators name) :=
  inferInstanceAs (Decidable (∀ c ∈ name.toList, c = '/' ∨ c = '_'))

instance (topicName : String) : Decidable (IsAbsolute topicName) :=
  decidable_of_iff _ isAbsolute_iff.symm

theorem slash_notMem_flattened {name : String} : '/' ∉ flattened name := by
  intro h
  obtain ⟨c, -, hc⟩ := List.mem_map.mp h
  split at hc
  · exact absurd hc (by decide)
  next hother => exact hother hc

theorem flattened_append {name rest : String} :
    flattened (name ++ rest) = flattened name ++ flattened rest := by
  rw [flattened, String.toList_append, List.map_append]
  rfl

/-- What `sanitize_topic_segment` leaves of a name. -/
theorem sanitizeTopicSegment_eq {name : String} :
    sanitizeTopicSegment name =
      if (flattened name).dropWhile (· = '_') = [] then "topic"
      else String.ofList ((flattened name).dropWhile (· = '_')) := by
  rw [sanitizeTopicSegment]
  simp only [List.isEmpty_iff]
  rfl

theorem slash_notMem_sanitizeTopicSegment {name : String} :
    '/' ∉ (sanitizeTopicSegment name).toList := by
  rw [sanitizeTopicSegment_eq]
  split
  · decide
  · rw [String.toList_ofList]
    exact fun h => slash_notMem_flattened (List.dropWhile_subset _ h)

theorem sanitizeTopicSegment_ne_empty {name : String} : sanitizeTopicSegment name ≠ "" := by
  rw [sanitizeTopicSegment_eq]
  split
  · decide
  next hleft =>
    intro h
    exact hleft (by simpa using congrArg String.toList h)

/-- Only separators are stripped away. -/
theorem dropWhile_flattened_eq_nil_iff {name : String} :
    (flattened name).dropWhile (· = '_') = [] ↔ OnlySeparators name := by
  rw [List.dropWhile_eq_nil_iff, flattened, OnlySeparators]
  simp only [List.forall_mem_map, decide_eq_true_eq]
  refine forall₂_congr fun c _ => ?_
  by_cases hslash : c = '/' <;> simp [hslash]

/-! ### Node names -/

/-- The two topics get the same node name from the plugin: they are the same when flattened, or
the plugin's name is stripped away as a whole, and the rest is the same. -/
def SameNode (pluginName topicName topicName' : String) : Prop :=
  flattened topicName = flattened topicName' ∨
    OnlySeparators (afterLastColon pluginName) ∧
      sanitizeTopicSegment topicName = sanitizeTopicSegment topicName'

instance (pluginName topicName topicName' : String) :
    Decidable (SameNode pluginName topicName topicName') :=
  inferInstanceAs (Decidable (_ ∨ _ ∧ _))

/-- Node names collide where the flattening loses the difference, and only there. -/
theorem defaultToolNodeName_eq_iff {pluginName topicName topicName' : String} :
    defaultToolNodeName pluginName topicName = defaultToolNodeName pluginName topicName' ↔
      SameNode pluginName topicName topicName' := by
  have hflat : ∀ name, flattened (afterLastColon pluginName ++ "_" ++ name) =
      flattened (afterLastColon pluginName) ++ '_' :: flattened name := fun name => by
    rw [flattened_append, flattened_append, List.append_assoc]
    rfl
  by_cases hplugin : OnlySeparators (afterLastColon pluginName)
  · -- the whole prefix is stripped
    have hname : ∀ name, defaultToolNodeName pluginName name = sanitizeTopicSegment name := by
      intro name
      have hnil := dropWhile_flattened_eq_nil_iff.mpr hplugin
      rw [defaultToolNodeName, sanitizeTopicSegment_eq, sanitizeTopicSegment_eq, hflat,
        List.dropWhile_append, hnil, List.isEmpty_nil, if_pos rfl,
        List.dropWhile_cons_of_pos (by decide)]
    rw [hname, hname, SameNode, and_iff_right hplugin]
    refine (or_iff_right_of_imp fun h => ?_).symm
    rw [sanitizeTopicSegment_eq, sanitizeTopicSegment_eq, h]
  · have hkept : (flattened (afterLastColon pluginName)).dropWhile (· = '_') ≠ [] := fun h =>
      hplugin (dropWhile_flattened_eq_nil_iff.mp h)
    have hname : ∀ name, defaultToolNodeName pluginName name =
        String.ofList ((flattened (afterLastColon pluginName)).dropWhile (· = '_') ++
          '_' :: flattened name) := by
      intro name
      rw [defaultToolNodeName, sanitizeTopicSegment_eq, hflat, List.dropWhile_append,
        if_neg fun h => hkept (List.isEmpty_iff.mp h),
        if_neg (List.append_ne_nil_of_right_ne_nil _ (List.cons_ne_nil _ _))]
    rw [hname, hname, SameNode, or_iff_left fun h => hplugin h.1, String.ofList_inj,
      List.append_cancel_left_eq, List.cons.injEq, and_iff_right rfl]

/-! ### Output topics -/

/-- The output topic of an absolute topic name. -/
theorem defaultOutputTopic_absolute {topicName nodeName : String} (habsolute : IsAbsolute topicName)
    (hnode : nodeName ≠ "") :
    defaultOutputTopic topicName nodeName = "/" ++ nodeName ++ topicName := by
  obtain ⟨rest, hrest, rfl⟩ := habsolute
  have hchars : ("/" ++ rest).toList = '/' :: rest.toList := by rw [String.toList_append]; rfl
  rw [defaultOutputTopic]
  simp only [hchars, String.ofList_toList, String.isEmpty_iff, if_neg hnode, if_neg hrest,
    String.append_assoc]

/-- A name without slashes and what follows it from the next slash on. -/
theorem append_slash_inj {node node' rest rest' : List Char} (hnode : '/' ∉ node)
    (hnode' : '/' ∉ node') (h : node ++ '/' :: rest = node' ++ '/' :: rest') :
    node = node' ∧ rest = rest' := by
  induction node generalizing node' with
  | nil =>
    cases node' with
    | nil => exact ⟨rfl, (List.cons.inj h).2⟩
    | cons c node' => exact absurd (List.cons.inj h).1 (fun hc => hnode' (by simp [← hc]))
  | cons c node ih =>
    cases node' with
    | nil => exact absurd (List.cons.inj h).1 (fun hc => hnode (by simp [hc]))
    | cons c' node' =>
      obtain ⟨rfl, htail⟩ := List.cons.inj h
      have hrest := ih (fun hmem => hnode (List.mem_cons_of_mem c hmem))
        (fun hmem => hnode' (List.mem_cons_of_mem c hmem)) htail
      exact ⟨by rw [hrest.1], hrest.2⟩

/-- Two output topics are the same only for one and the same topic. -/
theorem outputTopic_inj {topicName topicName' nodeName nodeName' : String}
    (habsolute : IsAbsolute topicName) (habsolute' : IsAbsolute topicName')
    (hslash : '/' ∉ nodeName.toList) (hslash' : '/' ∉ nodeName'.toList)
    (h : "/" ++ nodeName ++ topicName = "/" ++ nodeName' ++ topicName') :
    topicName = topicName' := by
  obtain ⟨rest, -, rfl⟩ := habsolute
  obtain ⟨rest', -, rfl⟩ := habsolute'
  have hchars := congrArg String.toList h
  simp only [String.toList_append] at hchars
  have hrest : rest.toList = rest'.toList :=
    (append_slash_inj hslash hslash' (by simpa using hchars)).2
  rw [String.toList_inj.mp hrest]

/-! ### Generated plans -/

/-- Every entry has an enabled tool of the plugin, without names of its own, and the topics are
absolute and pairwise distinct. -/
structure Generated (pluginName : String) (selection : List TopicSelection) : Prop where
  distinct : (selection.map fun entry => entry.topic.name).Nodup
  absolute : ∀ entry ∈ selection, IsAbsolute entry.topic.name
  tool : ∀ entry ∈ selection, ∃ cfg, entry.topicTools = some cfg ∧ cfg.enabled = true ∧
    cfg.pluginName = pluginName ∧ cfg.nodeName = "" ∧ cfg.outputTopic = ""

/-- The node names are pairwise distinct, and so are the output topics, which are not input
topics either. -/
def NamesDistinct (selection : List TopicSelection) (plan : TopicToolsPlan) : Prop :=
  (plan.tools.map fun tool => tool.nodeName).Nodup ∧
    (plan.tools.map fun tool => tool.outputTopic).Nodup ∧
    ∀ tool ∈ plan.tools, ∀ entry ∈ selection, tool.outputTopic ≠ entry.topic.name

/-- The names of the tools in such a plan. -/
theorem plan_generated {pluginName : String} {selection : List TopicSelection}
    {plan : TopicToolsPlan} (hgenerated : Generated pluginName selection)
    (hplan : buildTopicToolsPlan selection = .ok plan) :
    (plan.tools.map fun tool => (tool.nodeName, tool.outputTopic)) =
      selection.map fun entry => (defaultToolNodeName pluginName entry.topic.name,
        "/" ++ defaultToolNodeName pluginName entry.topic.name ++ entry.topic.name) := by
  induction selection generalizing plan with
  | nil =>
    cases hplan
    rfl
  | cons entry rest ih =>
    obtain ⟨tool, sinkTopic, restPlan, hentry, hrest, rfl⟩ := buildTopicToolsPlan_cons hplan
    have hgenerated' : Generated pluginName rest :=
      ⟨(List.nodup_cons.mp hgenerated.distinct).2,
        fun entry' h => hgenerated.absolute entry' (List.mem_cons_of_mem entry h),
        fun entry' h => hgenerated.tool entry' (List.mem_cons_of_mem entry h)⟩
    obtain ⟨cfg, htools, henabled, hplugin, hnode, houtput⟩ :=
      hgenerated.tool entry List.mem_cons_self
    have hplanned := planEntry_planned entry
    rw [hentry] at hplanned
    cases hplanned with
    | plain _ hdisabled => exact absurd henabled (by simp [hdisabled cfg htools])
    | tool cfg' _ htools' _ _ =>
      obtain rfl := Option.some.inj (htools.symm.trans htools')
      rw [Option.toList_some, List.singleton_append, List.map_cons, List.map_cons,
        ih hgenerated' hrest]
      refine congrArg (· :: _) ?_
      have habsolute := hgenerated.absolute entry List.mem_cons_self
      simp only [resolveTopicTool, hnode, houtput, hplugin, String.isEmpty_iff, if_true]
      exact congrArg _ (defaultOutputTopic_absolute habsolute sanitizeTopicSegment_ne_empty)

/-- **Generated names.** The output topics never collide. The node names collide exactly where
two topic names do that are flattened, and an output topic is an input topic exactly if that
topic is another one below the node name generated for it. -/
theorem generated_names {pluginName : String} {selection : List TopicSelection}
    {plan : TopicToolsPlan} (hgenerated : Generated pluginName selection)
    (hplan : buildTopicToolsPlan selection = .ok plan) :
    ((plan.tools.map fun tool => tool.nodeName).Nodup ↔
      selection.Pairwise fun entry entry' =>
        ¬SameNode pluginName entry.topic.name entry'.topic.name) ∧
      (plan.tools.map fun tool => tool.outputTopic).Nodup ∧
      ((∀ tool ∈ plan.tools, ∀ entry ∈ selection, tool.outputTopic ≠ entry.topic.name) ↔
        ∀ entry ∈ selection, ∀ entry' ∈ selection, entry'.topic.name ≠
          "/" ++ defaultToolNodeName pluginName entry.topic.name ++ entry.topic.name) := by
  have hnames := plan_generated hgenerated hplan
  have hnodes : (plan.tools.map fun tool => tool.nodeName) =
      selection.map fun entry => defaultToolNodeName pluginName entry.topic.name := by
    simpa [Function.comp_def] using congrArg (List.map Prod.fst) hnames
  have houtputs : (plan.tools.map fun tool => tool.outputTopic) = selection.map fun entry =>
      "/" ++ defaultToolNodeName pluginName entry.topic.name ++ entry.topic.name := by
    simpa [Function.comp_def] using congrArg (List.map Prod.snd) hnames
  refine ⟨?_, ?_, ?_⟩
  · rw [hnodes, List.nodup_iff_pairwise_ne, List.pairwise_map]
    simp only [ne_eq, defaultToolNodeName_eq_iff]
  · have hdistinct := hgenerated.distinct
    rw [List.nodup_iff_pairwise_ne, List.pairwise_map] at hdistinct
    rw [houtputs, List.nodup_iff_pairwise_ne, List.pairwise_map]
    refine hdistinct.imp_of_mem fun {entry entry'} hentry hentry' hne heq => hne ?_
    exact outputTopic_inj (hgenerated.absolute entry hentry) (hgenerated.absolute entry' hentry')
      slash_notMem_sanitizeTopicSegment slash_notMem_sanitizeTopicSegment heq
  · calc (∀ tool ∈ plan.tools, ∀ entry ∈ selection, tool.outputTopic ≠ entry.topic.name)
        ↔ ∀ topic ∈ plan.tools.map fun tool => tool.outputTopic,
            ∀ entry ∈ selection, topic ≠ entry.topic.name :=
          (List.forall_mem_map (P := fun topic => ∀ entry ∈ selection,
            topic ≠ entry.topic.name)).symm
      _ ↔ _ := by
        rw [houtputs, List.forall_mem_map]
        simp only [ne_comm]

/-- Entries for these topics with a throttle. -/
def throttled (topics : List String) : List TopicSelection :=
  topics.map fun topic =>
    { topic := ⟨topic, "T"⟩
      topicTools := some { enabled := true, pluginName := "topic_tools::ThrottleNode" } }

theorem generated_throttled (topics : List String) (hdistinct : topics.Nodup)
    (habsolute : ∀ topic ∈ topics, IsAbsolute topic) :
    Generated "topic_tools::ThrottleNode" (throttled topics) where
  distinct := by
    rw [throttled, List.map_map]
    simpa [Function.comp_def] using hdistinct
  absolute := List.forall_mem_map.mpr habsolute
  tool := List.forall_mem_map.mpr fun _ _ => ⟨_, rfl, rfl, rfl, rfl, rfl⟩

/-- Topics that differ when flattened keep their names apart. -/
theorem generated_names_throttled : ∃ plan,
    buildTopicToolsPlan (throttled ["/a", "/b"]) = .ok plan ∧
      (plan.tools.map fun tool => tool.nodeName).Nodup ∧
      (plan.tools.map fun tool => tool.outputTopic).Nodup := by
  have hnames := generated_names
    (generated_throttled ["/a", "/b"] (by simp) (by decide +kernel)) rfl
  have hflattened : flattened "/a" ≠ flattened "/b" := by decide
  have hplugin : ¬OnlySeparators (afterLastColon "topic_tools::ThrottleNode") := fun h =>
    absurd (h 'T' (by decide +kernel)) (by decide)
  refine ⟨_, rfl, hnames.1.mpr (List.pairwise_pair.mpr ?_), hnames.2.1⟩
  rintro (hsame | ⟨hseparators, -⟩)
  · exact hflattened hsame
  · exact hplugin hseparators

/-- Two topics that are flattened alike share a node name, and a topic below a generated name
is an output topic. -/
theorem generated_names_collide :
    (∃ plan, buildTopicToolsPlan (throttled ["/a/b", "/a_b"]) = .ok plan ∧
      Generated "topic_tools::ThrottleNode" (throttled ["/a/b", "/a_b"]) ∧
      ¬NamesDistinct (throttled ["/a/b", "/a_b"]) plan) ∧
    ∃ plan, buildTopicToolsPlan (throttled ["/a", "/ThrottleNode__a/a"]) = .ok plan ∧
      Generated "topic_tools::ThrottleNode" (throttled ["/a", "/ThrottleNode__a/a"]) ∧
      ¬NamesDistinct (throttled ["/a", "/ThrottleNode__a/a"]) plan :=
  ⟨⟨_, rfl, generated_throttled _ (by decide) (by decide +kernel),
      fun h => absurd h.1 (by decide +kernel)⟩,
    _, rfl, generated_throttled _ (by decide) (by decide +kernel),
    fun h => absurd h.2.2 (by decide +kernel)⟩

end Ros2Dispatcher
