import Ros2Dispatcher.Fleet.Refusals
import Ros2Dispatcher.Fleet.Sinks

/-!
# What `validate_topics` checks

With `validate_topics`, `apply_selection` is to verify that the topics exist in the live graph
before it activates a sink (`Validates`). It runs the selection through `infer_missing_types`,
which returns at once if no type is missing and otherwise looks up the missing ones only: an
entry that names its type is never compared with the answer. So the check holds exactly for
the selections whose typed entries all are in the answer, and for those that are refused for
another reason (`validates_iff`).

That the other selections go through is shown in an environment where every request succeeds
(`Environment.obliging`).
-/

namespace Ros2Dispatcher

open Procedure

/-! ### What validation promises -/

/-- The topic is in the answer with its type, or its type was missing and is in `applied` as
the answer has it. -/
def TopicSelection.Confirmed (answer : List TopicInfo) (applied : List TopicSelection)
    (entry : TopicSelection) : Prop :=
  entry.topic ∈ answer ∨ entry.topic.type = "" ∧ ∃ type, ⟨entry.topic.name, type⟩ ∈ answer ∧
    { entry with topic := ⟨entry.topic.name, type⟩ } ∈ applied

/-- Whenever the introspection manager answers, it gives `answer`. -/
def Environment.Answers {ω : Type} (env : Environment ω) (answer : List TopicInfo) : Prop :=
  ∀ w topics, (env.requestTopics w).1 = some topics → topics = answer

/-- Under an introspection manager with this answer, a selection that is applied is confirmed
entry by entry, and one that names a topic outside the answer is refused before anything is
touched. -/
def Validates (params : Parameters) (topics : List TopicSelection) (answer : List TopicInfo) :
    Prop :=
  ∀ (ω : Type) (env : Environment ω) (clock : ω × List Rpc → Time)
    (s : NodeState (ω × List Rpc)), env.Answers answer →
    (∀ s', applySelection params (env.recording clock) topics s = .ok ⟨⟩ s' →
      ∀ entry ∈ topics, entry.Confirmed answer s'.ctl.appliedSelection.topics) ∧
    ((∃ entry ∈ topics, ∀ info ∈ answer, info.name ≠ entry.topic.name) →
      ∃ message s', applySelection params (env.recording clock) topics s =
        .error (.error message) s' ∧ OnlyAsked s s')

/-- Every entry that names its type is in the answer with it. -/
def TypedConfirmed (answer : List TopicInfo) (topics : List TopicSelection) : Prop :=
  ∀ entry ∈ topics, entry.topic.type ≠ "" → entry.topic ∈ answer

/-- The selection is empty, has a type that the answer does not give, or has an entry the
plan rejects. -/
def RefusedAnyway (answer : List TopicInfo) (topics : List TopicSelection) : Prop :=
  topics = [] ∨
    (∃ entry ∈ topics, entry.topic.type = "" ∧ inferredType answer entry.topic.name = none) ∨
    ∃ entry ∈ topics, entry.Malformed

/-! ### Types from the answer -/

section Inference

variable {answer : List TopicInfo} {topics : List TopicSelection} {name type : String}

/-- The map is filled from `acc` on: what it holds comes from the answer or was there. -/
private theorem foldl_insert_mem {acc : Std.TreeMap String String}
    (h : (answer.foldl (fun types info => types.insert info.name info.type) acc)[name]? =
      some type) : ⟨name, type⟩ ∈ answer ∨ acc[name]? = some type := by
  induction answer generalizing acc with
  | nil => exact .inr h
  | cons info rest ih =>
    rcases ih h with hrest | hacc
    · exact .inl (.tail _ hrest)
    · rw [Std.TreeMap.getElem?_insert] at hacc
      split at hacc
      next hname =>
        rw [Std.LawfulEqCmp.compare_eq_iff_eq] at hname
        rw [← hname, ← Option.some.inj hacc]
        exact .inl (.head _)
      next => exact .inr hacc

/-- An inferred type is one the answer gives the topic. -/
theorem inferredType_mem (h : inferredType answer name = some type) : ⟨name, type⟩ ∈ answer := by
  have hfilter := (Option.filter_eq_some_iff.mp h).1
  rcases foldl_insert_mem hfilter with hmem | hempty
  · exact hmem
  · rw [Std.TreeMap.getElem?_emptyc] at hempty
    cases hempty

end Inference

/-! ### What is applied -/

section Applied

variable {ω : Type} {params : Parameters} {env : Environment ω} {answer : List TopicInfo}
variable {topics : List TopicSelection} {s : NodeState ω}

/-- The selection with its missing types from the answer, none of which is left out. -/
def FilledFrom (answer : List TopicInfo) (topics completed : List TopicSelection) : Prop :=
  completed = topics.map (completeEntry answer) ∧ missingTopics answer topics = []

theorem filledFrom_self (h : ¬needsLookup topics = true) : FilledFrom answer topics topics := by
  have htyped : ∀ entry ∈ topics, entry.topic.type ≠ "" := fun entry hentry htype =>
    h (needsLookup_iff.mpr ⟨entry, hentry, htype⟩)
  refine ⟨?_, not_not.mp fun hmissing => ?_⟩
  · have hsame : topics.map (completeEntry answer) = topics.map id :=
      List.map_congr_left fun entry hentry => completeEntry_typed (htyped entry hentry)
    rw [hsame, List.map_id]
  · obtain ⟨entry, hentry, htype, _⟩ := missingTopics_ne_nil_iff.mp hmissing
    exact htyped entry hentry htype

/-- What type inference returns has every missing type from the answer. -/
theorem wp_inferMissingTypes_filled (hanswers : env.Answers answer) :
    wp (inferMissingTypes env topics) (fun completed _ => FilledFrom answer topics completed)
      (fun _ _ => True) s := by
  refine wp_ite.mpr ⟨fun _ => wp_bind.mpr (wp_request.mpr (wp_ite.mpr ⟨fun _ => ?_,
    fun _ => trivial⟩)), filledFrom_self⟩
  rw [wp_bind, wp_request]
  cases hrequest : (env.requestTopics (env.introspectionAvailable s.env).2).1 with
  | none => trivial
  | some received =>
    obtain rfl := hanswers _ received hrequest
    refine wp_ofExcept.mpr ⟨fun completed hok => ?_, fun _ _ => trivial⟩
    obtain ⟨hmissing, hcompleted⟩ := completeTypes_ok_iff.mp hok
    exact ⟨hcompleted.symm, hmissing⟩

theorem wp_prepareSelection_filled (hvalidate : params.validateTopics = true)
    (hanswers : env.Answers answer) :
    wp (prepareSelection params env topics)
      (fun prepared _ => FilledFrom answer topics prepared.2.1) (fun _ _ => True) s := by
  refine wp_ite.mpr ⟨fun _ => trivial, fun _ => wp_bind.mpr ?_⟩
  refine wp_mono wp_trivial (fun state s' _ => ?_) fun _ _ _ => trivial
  cases state with
  | none => trivial
  | some state =>
    rw [validateSelection, if_pos hvalidate]
    refine wp_bind.mpr (wp_mono (wp_inferMissingTypes_filled hanswers)
      (fun validated s'' hfilled => wp_bind.mpr ?_) fun _ _ _ => trivial)
    exact wp_ofExcept.mpr ⟨fun _ _ => hfilled, fun _ _ => trivial⟩

theorem wp_recordApplied_topics {validated : List TopicSelection} {plan : TopicToolsPlan} :
    wp (recordApplied params env validated plan)
      (fun _ s' => s'.ctl.appliedSelection.topics = validated) (fun _ _ => True) s := by
  have hdisable : Preserves (fun s : NodeState ω => s.ctl.appliedSelection.topics = validated)
      (setIntrospectionEnabled env false) := setIntrospectionEnabled_preserves fun _ h => h
  rw [recordApplied, wp_bind, wp_now, wp_bind, wp_update]
  refine wp_mono (Q := fun _ s' => s'.ctl.appliedSelection.topics = validated)
    (Keeps.ite (.bind (.attempt hdisable) fun _ => .pure) .pure _ rfl) (fun _ _ h => h)
    fun _ _ _ => trivial

/-- What `apply_selection` records has every missing type from the answer. -/
theorem wp_applySelection_filled (hvalidate : params.validateTopics = true)
    (hanswers : env.Answers answer) :
    wp (applySelection params env topics)
      (fun _ s' => FilledFrom answer topics s'.ctl.appliedSelection.topics)
      (fun _ _ => True) s := by
  -- no call between the plan and the record matters
  have hskip : ∀ {m : Controlled ω PUnit} {k : PUnit → Controlled ω PUnit}
      {Q : PUnit → NodeState ω → Prop} {s : NodeState ω},
      (∀ s', wp (k ⟨⟩) Q (fun _ _ => True) s') → wp (m >>= k) Q (fun _ _ => True) s :=
    fun hk => wp_bind.mpr (wp_mono wp_trivial (fun _ s' _ => hk s') fun _ _ _ => trivial)
  refine wp_bind.mpr (wp_mono (wp_prepareSelection_filled hvalidate hanswers)
    (fun prepared s' hfilled => ?_) fun _ _ h => h)
  refine hskip fun _ => hskip fun _ => hskip fun _ => hskip fun _ => hskip fun s'' => ?_
  refine wp_mono wp_recordApplied_topics (fun _ t htopics => ?_) fun _ _ h => h
  rwa [htopics]

/-- An applied selection is confirmed where its typed entries are. -/
theorem FilledFrom.confirmed {applied : List TopicSelection}
    (h : FilledFrom answer topics applied) (htyped : TypedConfirmed answer topics)
    {entry : TopicSelection} (hentry : entry ∈ topics) : entry.Confirmed answer applied := by
  by_cases htype : entry.topic.type = ""
  · cases hinferred : inferredType answer entry.topic.name with
    | none =>
      exact absurd h.2 (missingTopics_ne_nil_iff.mpr ⟨entry, hentry, htype, hinferred⟩)
    | some type =>
      refine .inr ⟨htype, type, inferredType_mem hinferred, ?_⟩
      rw [h.1, ← completeEntry_inferred htype hinferred]
      exact List.mem_map_of_mem hentry
  · exact .inl (htyped entry hentry htype)

end Applied

/-! ### An environment where every request succeeds -/

section Obliging

variable {params : Parameters} {answer : List TopicInfo} {topics : List TopicSelection}
variable {clock : PUnit × List Rpc → Time} {sink : Sink} {subs : List TopicInfo}

/-- Every service answers and agrees; the sinks report to be inactive. -/
def Environment.obliging (answer : List TopicInfo) : Environment PUnit where
  yaml := .words
  getState _ _ := (.reply .inactive, ⟨⟩)
  changeState _ _ _ := (.reply true, ⟨⟩)
  setSubscriptionsYaml _ _ _ := (.reply [⟨true, ""⟩], ⟨⟩)
  loadNode _ _ := (.reply { success := true }, ⟨⟩)
  unloadNode _ _ := (.reply true, ⟨⟩)
  introspectionAvailable _ := (true, ⟨⟩)
  requestTopics _ := (some answer, ⟨⟩)
  setIntrospectionEnabled _ _ := (.reply [⟨true, ""⟩], ⟨⟩)
  loadFile _ _ := .error "bad file"
  now _ := 0

/-- The same, with the requests written down. -/
abbrev Environment.obliged (answer : List TopicInfo) (clock : PUnit × List Rpc → Time) :
    Environment (PUnit × List Rpc) :=
  (obliging answer).recording clock

/-- `m` always returns. -/
abbrev Returns {ω α : Type} (m : Controlled ω α) : Prop :=
  Keeps (fun _ => False) (fun _ => True) m

namespace Environment.Obliged

theorem getSinkState (hclients : params.hasClients sink = true)
    {s : NodeState (PUnit × List Rpc)} :
    wp (getSinkState params (obliged answer clock) sink)
      (fun state _ => state = some .inactive) (fun _ _ => False) s := by
  rw [Ros2Dispatcher.getSinkState, if_pos hclients]
  exact rfl

theorem changeSinkState (hclients : params.hasClients sink = true) {transition : Transition} :
    Returns (changeSinkState params (obliged answer clock) sink transition) := by
  intro s _
  rw [Ros2Dispatcher.changeSinkState, if_pos hclients]
  trivial

theorem setSinkSubscriptionsYaml (hclients : params.hasClients sink = true) :
    Returns (setSinkSubscriptionsYaml params (obliged answer clock) sink subs) := by
  intro s _
  rw [Ros2Dispatcher.setSinkSubscriptionsYaml, if_pos hclients]
  trivial

theorem quiesceSink (hclients : params.hasClients sink = true) {state : LifecycleState} :
    Returns (quiesceSink params (obliged answer clock) sink state) := by
  have hleave : Returns (leaveActive params (obliged answer clock) sink) := by
    refine .bind (changeSinkState hclients) fun _ s _ => wp_bind.mpr ?_
    refine wp_mono (getSinkState hclients) (fun state' s' hstate => ?_) fun _ _ h => h.elim
    rw [hstate]
    trivial
  exact .bind (.ite hleave .pure) fun _ => .ite (changeSinkState hclients) .pure

theorem applySelectionToSink :
    Returns (applySelectionToSink params (obliged answer clock) sink subs) := by
  intro s _
  refine wp_ite.mpr ⟨fun _ => trivial, fun hname => wp_bind.mpr ?_⟩
  have hclients := Parameters.hasClients_of_name hname
  refine wp_mono (getSinkState hclients) (fun state s' hstate => ?_) fun _ _ h => h.elim
  rw [hstate]
  exact Keeps.bind (quiesceSink hclients) (fun _ =>
    .bind (setSinkSubscriptionsYaml hclients) fun _ => changeSinkState hclients) s' trivial

theorem reconcileTopicTools {plan : TopicToolsPlan} :
    Returns (reconcileTopicTools params (obliged answer clock) plan) := by
  have hclear : Returns (clearActiveTopicTools (obliged answer clock)) :=
    .bind (fun _ h => h) fun _ => .bind (.forM (fun _ _ h => h) _) fun _ _ h => h
  exact .bind hclear fun _ => .forM (fun _ _ h => h) _

theorem recordApplied {validated : List TopicSelection} {plan : TopicToolsPlan} :
    Returns (recordApplied params (obliged answer clock) validated plan) :=
  .bind (fun _ h => h) fun _ => .bind (fun _ h => h) fun _ => .ite (fun _ h => h) .pure

/-- There, a selection that is not refused is applied. -/
theorem applySelection {s : NodeState (PUnit × List Rpc)}
    (h : ¬Refusal params (obliged answer clock) topics s.env) :
    ∃ s', applySelection params (obliged answer clock) topics s = .ok ⟨⟩ s' := by
  have hprepared : wp (prepareSelection params (obliged answer clock) topics)
      (fun _ _ => True) (fun _ _ => False) s :=
    wp_mono prepareSelection_refuses (fun _ _ _ => trivial) fun _ _ hrefusal => h hrefusal
  have hrun : wp (Ros2Dispatcher.applySelection params (obliged answer clock) topics)
      (fun _ _ => True) (fun _ _ => False) s := by
    refine wp_bind.mpr (wp_mono hprepared (fun ⟨state, validated, plan⟩ s' _ => ?_)
      fun _ _ h' => h')
    have hclients : params.hasClients .kafka = true := rfl
    have hrest : Returns (do
        Ros2Dispatcher.quiesceSink params (obliged answer clock) .kafka state
        Ros2Dispatcher.reconcileTopicTools params (obliged answer clock) plan
        Ros2Dispatcher.setSinkSubscriptionsYaml params (obliged answer clock) .kafka
          plan.sinkTopics
        Ros2Dispatcher.changeSinkState params (obliged answer clock) .kafka .activate
        Ros2Dispatcher.applySelectionToSink params (obliged answer clock) .mosquitto
          plan.sinkTopics
        Ros2Dispatcher.recordApplied params (obliged answer clock) validated plan) :=
      .bind (quiesceSink hclients) fun _ => .bind reconcileTopicTools fun _ =>
        .bind (setSinkSubscriptionsYaml hclients) fun _ => .bind (changeSinkState hclients)
          fun _ => .bind applySelectionToSink fun _ => recordApplied
    exact wp_mono (hrest s' trivial) (fun _ _ h' => h') fun _ _ h' => h'.1
  obtain ⟨_, s', hresult, _⟩ := exists_ok_of_wp hrun
  exact ⟨s', hresult⟩

end Environment.Obliged

end Obliging

/-! ### Where validation holds -/

section Validation

variable {params : Parameters} {answer : List TopicInfo} {topics : List TopicSelection}

theorem uninferable_of_answers {ω : Type} {env : Environment ω} (h : env.Answers answer)
    {entry : TopicSelection} (hentry : entry ∈ topics) (htype : entry.topic.type = "")
    (hnone : inferredType answer entry.topic.name = none) (w : ω) :
    Uninferable env topics w := by
  refine ⟨entry, hentry, htype, ?_⟩
  unfold Environment.inferredType
  split
  · cases hrequest : (env.requestTopics (env.introspectionAvailable w).2).1 with
    | none => rfl
    | some received => rwa [h _ received hrequest]
  · rfl

/-- Under an introspection manager with this answer, such a selection is refused. -/
theorem RefusedAnyway.refusal {ω : Type} {env : Environment ω} (h : RefusedAnyway answer topics)
    (hvalidate : params.validateTopics = true) (hanswers : env.Answers answer) (w : ω) :
    Refusal params env topics w := by
  rcases h with hempty | ⟨entry, hentry, htype, hnone⟩ | ⟨entry, hentry, hmalformed⟩
  · exact .empty hempty
  · exact .uninferable hvalidate (uninferable_of_answers hanswers hentry htype hnone _)
  · exact .malformed entry hentry hmalformed

/-- Where every request succeeds, no other selection is refused. -/
theorem RefusedAnyway.of_refusal {clock : PUnit × List Rpc → Time} {w : PUnit × List Rpc}
    (h : Refusal params (.obliged answer clock) topics w) : RefusedAnyway answer topics := by
  cases h with
  | empty hempty => exact .inl hempty
  | unreadable hstate => exact absurd rfl (hstate .inactive)
  | uninferable _ huninferable => exact .inr (.inl huninferable)
  | malformed entry hentry hmalformed => exact .inr (.inr ⟨entry, hentry, hmalformed⟩)

/-- A topic outside the answer can be named only without its type, or be refused. -/
theorem refusedAnyway_of_absent (htyped : TypedConfirmed answer topics)
    (h : ∃ entry ∈ topics, ∀ info ∈ answer, info.name ≠ entry.topic.name) :
    RefusedAnyway answer topics := by
  obtain ⟨entry, hentry, habsent⟩ := h
  have htype : entry.topic.type = "" := by
    by_contra htype
    exact habsent _ (htyped entry hentry htype) rfl
  refine .inr (.inl ⟨entry, hentry, htype, ?_⟩)
  cases hinferred : inferredType answer entry.topic.name with
  | none => rfl
  | some type =>
    have hmem : ⟨entry.topic.name, type⟩ ∈ answer := inferredType_mem hinferred
    exact absurd rfl (habsent ⟨_, type⟩ hmem)

/-- **What `validate_topics` is worth.** The check keeps its promise for a selection and an
answer exactly if all typed entries are in the answer, or the selection is refused anyway. -/
theorem validates_iff (hvalidate : params.validateTopics = true) :
    Validates params topics answer ↔
      TypedConfirmed answer topics ∨ RefusedAnyway answer topics := by
  constructor
  · intro h
    by_contra hneither
    obtain ⟨htyped, hrefused⟩ := not_or.mp hneither
    -- nothing stops the selection where every request succeeds
    have hanswers : (Environment.obliging answer).Answers answer := fun _ _ hsome =>
      (Option.some.inj hsome).symm
    let s : NodeState (PUnit × List Rpc) := ⟨{}, ⟨⟩, []⟩
    have hrefusal : ¬Refusal params (.obliged answer fun _ => 0) topics s.env := fun hrefusal =>
      hrefused (.of_refusal hrefusal)
    obtain ⟨s', hresult⟩ := Environment.Obliged.applySelection hrefusal
    refine htyped fun entry hentry htype => ?_
    rcases (h PUnit _ _ s hanswers).1 s' hresult entry hentry with hmem | ⟨hmissing, _⟩
    · exact hmem
    · exact absurd hmissing htype
  · intro h ω env clock s hanswers
    have hrefuse : RefusedAnyway answer topics → ∃ message s',
        applySelection params (env.recording clock) topics s = .error (.error message) s' ∧
          OnlyAsked s s' := fun hrefused => applySelection_refused
      (hrefused.refusal hvalidate hanswers s.env.1)
    refine ⟨fun s' hresult entry hentry => ?_, fun habsent => ?_⟩
    · rcases h with htyped | hrefused
      · have hrecorded : (env.recording clock).Answers answer := fun w => hanswers w.1
        exact (of_wp_ok (wp_applySelection_filled hvalidate hrecorded) hresult).confirmed htyped
          hentry
      · obtain ⟨message, t, herror, _⟩ := hrefuse hrefused
        rw [hresult] at herror
        cases herror
    · exact hrefuse (h.elim (refusedAnyway_of_absent · habsent) id)

/-- A missing type found in the answer, and an entry with its type in the answer. -/
theorem validates_two_topics :
    Validates { validateTopics := true } [{ topic := ⟨"/a", ""⟩ }, { topic := ⟨"/b", "T"⟩ }]
      [⟨"/a", "T"⟩, ⟨"/b", "T"⟩] := by
  refine (validates_iff rfl).mpr (.inl fun entry hentry htype => ?_)
  rcases List.mem_cons.mp hentry with rfl | hrest
  · exact absurd rfl htype
  · obtain rfl := List.mem_singleton.mp hrest
    exact .tail _ (.head _)

/-- A topic that is not in the live graph is applied, and kafka_sink streams it. -/
theorem ghost_topic_applied :
    let params : Parameters := { validateTopics := true }
    let env := { Setting.default with params }.environment { topics := fun _ => [⟨"/a", "T"⟩] }
    let ghost : TopicInfo := ⟨"/ghost", "T"⟩
    let s : NodeState (World × List Rpc) := ⟨{}, ⟨.fresh, []⟩, []⟩
    (∃ s', applySelection params (env.recording fun _ => 0) [{ topic := ghost }] s =
        .ok ⟨⟩ s' ∧ s'.env.1.fleet.kafka.state = .active [ghost]) ∧
      ¬Validates params [{ topic := ghost }] [⟨"/a", "T"⟩] := by
  intro params env ghost s
  obtain ⟨s', hresult, hkafka⟩ := Option.map_eq_some_iff.mp (show
    (returned (applySelection params (env.recording fun _ => 0) [{ topic := ghost }]) s).map
      (fun s' => s'.env.1.fleet.kafka.state) = some (.active [ghost]) by decide +kernel)
  have hreturned := returned_eq_some.mp hresult
  refine ⟨⟨s', hreturned, hkafka⟩, fun h => ?_⟩
  have hanswers : env.Answers [⟨"/a", "T"⟩] := fun _ _ hsome => (Option.some.inj hsome).symm
  rcases (h World env (fun _ => 0) s hanswers).1 s' hreturned _ (.head _) with hmem | ⟨htype, _⟩
  · exact absurd hmem (by decide)
  · exact absurd htype (by decide)

end Validation

end Ros2Dispatcher
