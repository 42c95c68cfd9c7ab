import Ros2Dispatcher.Fleet.Calls

/-!
# Planning changes nothing in the fleet

Everything the controller does before it touches a sink or a tool (type inference,
discovery, the plan) makes requests to the introspection manager only and leaves the fleet
and the controller's own state alone. The rules say so with `Quiet`, and name the pure
function of the answers that the result is: `inferWith` and `planSelection`.
-/

namespace Ros2Dispatcher

open Procedure

/-- The services of the introspection manager. -/
def Service.IsDiscovery (service : Service) : Prop :=
  service = .introspection ∨ service = .getTopics ∨ service = .introspectionParameters

/-- `infer_missing_types` as a function of the answer to its query. -/
def inferWith (answer : List TopicInfo) (subs : List TopicSelection) :
    Except String (List TopicSelection) :=
  if needsLookup subs then completeTypes answer subs else .ok subs

/-- The selection `apply_selection` goes on with, as a function of the introspection
answer. -/
def validateWith (params : Parameters) (answer : List TopicInfo)
    (topics : List TopicSelection) : Except String (List TopicSelection) :=
  if params.validateTopics then inferWith answer topics else .ok topics

/-- The selection `apply_selection` records and the plan it carries out, as a function of
the introspection answer. -/
def planSelection (params : Parameters) (answer : List TopicInfo)
    (topics : List TopicSelection) : Except String (List TopicSelection × TopicToolsPlan) :=
  match validateWith params answer topics with
  | .ok validated => (buildTopicToolsPlan validated).map fun plan => (validated, plan)
  | .error message => .error message

/-- The topics of the entries whose tool is enabled. -/
def enabledTopics (selection : List TopicSelection) : List String :=
  (selection.filter fun entry => entry.topicTools.any (·.enabled)).map (·.topic.name)

/-! ### The tools of a plan -/

theorem completeEntry_topicTools (answer : List TopicInfo) (entry : TopicSelection) :
    (completeEntry answer entry).topicTools = entry.topicTools := by
  unfold completeEntry
  split
  · split <;> rfl
  · rfl

theorem completeEntry_name (answer : List TopicInfo) (entry : TopicSelection) :
    (completeEntry answer entry).topic.name = entry.topic.name := by
  unfold completeEntry
  split
  · split <;> rfl
  · rfl

/-- Type inference returns the entries it was given, with types filled in. -/
theorem inferWith_ok {answer : List TopicInfo} {loaded selection : List TopicSelection}
    (h : inferWith answer loaded = .ok selection) :
    selection = loaded ∨ selection = loaded.map (completeEntry answer) := by
  unfold inferWith at h
  split at h
  · exact .inr (completeTypes_ok_iff.mp h).2.symm
  · exact .inl (Except.ok.inj h).symm

/-- Type inference does not change which topics have an enabled tool. -/
theorem enabledTopics_inferWith {answer : List TopicInfo} {loaded selection : List TopicSelection}
    (h : inferWith answer loaded = .ok selection) :
    enabledTopics selection = enabledTopics loaded := by
  rcases inferWith_ok h with rfl | rfl
  · rfl
  · rw [enabledTopics, enabledTopics, List.filter_map, List.map_map]
    simp only [Function.comp_def, completeEntry_topicTools, completeEntry_name]

/-- An entry gets a tool exactly when it has an enabled one, for its own topic. -/
theorem planEntry_ok {entry : TopicSelection} {tool : Option ResolvedTopicTool}
    {sinkTopic : TopicInfo} (h : planEntry entry = .ok (tool, sinkTopic)) :
    tool.toList.map (·.inputTopic) = enabledTopics [entry] := by
  have hplanned := planEntry_planned entry
  rw [h] at hplanned
  cases hplanned with
  | plain _ hdisabled =>
    cases htools : entry.topicTools with
    | none => simp [enabledTopics, htools]
    | some cfg => simp [enabledTopics, htools, hdisabled cfg htools]
  | tool cfg _ htools henabled _ => simp [enabledTopics, htools, henabled, resolveTopicTool]

/-- A plan has one tool for each entry with an enabled one, and one sink topic for each
entry, in order. -/
theorem buildTopicToolsPlan_ok {selection : List TopicSelection} {plan : TopicToolsPlan}
    (h : buildTopicToolsPlan selection = .ok plan) :
    plan.tools.map (·.inputTopic) = enabledTopics selection ∧
      plan.sinkTopics.length = selection.length := by
  induction selection generalizing plan with
  | nil =>
    cases h
    exact ⟨rfl, rfl⟩
  | cons entry rest ih =>
    obtain ⟨tool, sinkTopic, restPlan, hentry, hrest, rfl⟩ := buildTopicToolsPlan_cons h
    obtain ⟨htools, hsinks⟩ := ih hrest
    refine ⟨?_, by rw [List.length_cons, List.length_cons, hsinks]⟩
    rw [List.map_append, planEntry_ok hentry, htools, enabledTopics, enabledTopics,
      enabledTopics, ← List.map_append, ← List.filter_append]
    rfl

/-- The plan is made for the completed selection. -/
theorem planSelection_ok {params : Parameters} {answer : List TopicInfo}
    {topics validated : List TopicSelection} {plan : TopicToolsPlan}
    (h : planSelection params answer topics = .ok (validated, plan)) :
    validateWith params answer topics = .ok validated ∧
      buildTopicToolsPlan validated = .ok plan := by
  unfold planSelection at h
  split at h
  next validated' hvalidated =>
    cases hplan : buildTopicToolsPlan validated' with
    | error message => simp [hplan, Except.map] at h
    | ok plan' =>
      simp only [hplan, Except.map, Except.ok.injEq, Prod.mk.injEq] at h
      rw [← h.1, ← h.2]
      exact ⟨hvalidated, hplan⟩
  next => cases h

/-- The tools `apply_selection` loads are those of the selection it was given. -/
theorem planSelection_tools {params : Parameters} {answer : List TopicInfo}
    {topics validated : List TopicSelection} {plan : TopicToolsPlan}
    (h : planSelection params answer topics = .ok (validated, plan)) :
    plan.tools.map (·.inputTopic) = enabledTopics topics := by
  obtain ⟨hvalidated, hplan⟩ := planSelection_ok h
  rw [(buildTopicToolsPlan_ok hplan).1]
  unfold validateWith at hvalidated
  split at hvalidated
  · exact enabledTopics_inferWith hvalidated
  · rw [Except.ok.inj hvalidated]

variable {cfg : Setting} {pattern : Pattern} {s : NodeState World}
variable {E : Failure → NodeState World → Prop}

/-! ### Introspection requests -/

private theorem quiet_record_discovery {s : NodeState World} {rpc : Rpc} {outcome : Outcome}
    (h : rpc.service.IsDiscovery) :
    Quiet Service.IsDiscovery s (s.record rpc outcome s.env.fleet) :=
  .record h

/-- Asking for the topics waits for the service and then makes one query. -/
theorem wp_requestTopics {Q : Option (List TopicInfo) → NodeState World → Prop}
    (h : ∀ outcome, s.next pattern .getTopics = outcome →
      Q (if outcome.replies then some (pattern.topics (s.env.count .getTopics)) else none)
        (s.record .getTopics outcome s.env.fleet)) :
    wp (request (cfg.environment pattern).requestTopics) Q E s :=
  h _ rfl

theorem wp_introspectionAvailable {Q : Bool → NodeState World → Prop}
    (h : ∀ outcome, s.next pattern .introspection = outcome →
      Q (decide (outcome ≠ .unavailable)) (s.record .introspectionWait outcome s.env.fleet)) :
    wp (request (cfg.environment pattern).introspectionAvailable) Q E s :=
  h _ rfl

/-- The query of the next type inference gets an answer. -/
def NodeState.Asks (s : NodeState World) (pattern : Pattern) : Prop :=
  s.next pattern .introspection ≠ .unavailable ∧ (s.next pattern .getTopics).replies = true

/-- Type inference returns the completed selection, having asked if a type was missing; when
it fails although the query got an answer, the answer lacks a type. -/
theorem wp_inferMissingTypes_asks {subs : List TopicSelection}
    {Q : List TopicSelection → NodeState World → Prop}
    (hok : ∀ completed s', Quiet Service.IsDiscovery s s' →
      (needsLookup subs = true → s.Asks pattern) →
      inferWith (pattern.topics (s.env.count .getTopics)) subs = .ok completed → Q completed s')
    (herr : ∀ message s', Quiet Service.IsDiscovery s s' → (s.Asks pattern →
        inferWith (pattern.topics (s.env.count .getTopics)) subs = .error message) →
      E (.error message) s') :
    wp (inferMissingTypes (cfg.environment pattern) subs) Q E s := by
  unfold inferMissingTypes
  cases hneeds : needsLookup subs with
  | false => exact hok subs s .refl (by simp [hneeds]) (by rw [inferWith, hneeds]; rfl)
  | true =>
    have hinfer : ∀ answer, inferWith answer subs = completeTypes answer subs := fun answer => by
      rw [inferWith, hneeds, if_pos rfl]
    rw [if_pos rfl, wp_bind]
    refine wp_introspectionAvailable fun waited hwaited => ?_
    have hquiet : Quiet Service.IsDiscovery s (s.record .introspectionWait waited s.env.fleet) :=
      quiet_record_discovery (.inl rfl)
    by_cases hfound : waited = .unavailable
    · rw [decide_eq_false (by simpa using hfound), if_neg Bool.false_ne_true]
      exact herr _ _ hquiet fun h => absurd (hwaited.trans hfound) h.1
    · rw [decide_eq_true hfound, if_pos rfl, wp_bind]
      refine wp_requestTopics fun outcome houtcome => ?_
      have hcount : (s.record .introspectionWait waited s.env.fleet).env.count .getTopics =
          s.env.count .getTopics := by simp [Rpc.service]
      have hquiet' : Quiet Service.IsDiscovery s
          ((s.record .introspectionWait waited s.env.fleet).record .getTopics outcome
            s.env.fleet) :=
        hquiet.trans (quiet_record_discovery (.inr (.inl rfl)))
      rw [hcount]
      rw [NodeState.next, World.next, hcount] at houtcome
      cases hreplies : outcome.replies with
      | false =>
        refine herr _ _ hquiet' fun h => ?_
        have hasked := h.2
        rw [NodeState.next, World.next, houtcome, hreplies] at hasked
        cases hasked
      | true =>
        rw [if_pos rfl]
        have hasks : s.Asks pattern := by
          refine ⟨fun h => hfound (hwaited.symm.trans h), ?_⟩
          rw [NodeState.next, World.next, houtcome, hreplies]
        refine wp_ofExcept.mpr ⟨fun completed h => ?_, fun message h => ?_⟩
        · exact hok completed _ hquiet' (fun _ => hasks) ((hinfer _).trans h)
        · exact herr message _ hquiet' fun _ => (hinfer _).trans h

/-- Type inference returns the completed selection; when it fails although the
introspection manager answered, the answer lacks a type. -/
theorem wp_inferMissingTypes {subs : List TopicSelection}
    {Q : List TopicSelection → NodeState World → Prop}
    (hok : ∀ completed s', Quiet Service.IsDiscovery s s' →
      inferWith (pattern.topics (s.env.count .getTopics)) subs = .ok completed → Q completed s')
    (herr : ∀ message s', Quiet Service.IsDiscovery s s' →
      (s.next pattern .introspection = .answered → s.next pattern .getTopics = .answered →
        inferWith (pattern.topics (s.env.count .getTopics)) subs = .error message) →
      E (.error message) s') :
    wp (inferMissingTypes (cfg.environment pattern) subs) Q E s := by
  refine wp_inferMissingTypes_asks (fun completed s' hs' _ h => hok completed s' hs' h)
    fun message s' hs' h => herr message s' hs' fun h₁ h₂ => h ⟨?_, ?_⟩
  · rw [h₁]
    nofun
  · rw [h₂]
    rfl

/-- Toggling the introspection manager touches nothing the controller tracks. -/
theorem wp_setIntrospectionEnabled {enabled : Bool} {Q : PUnit → NodeState World → Prop}
    (hok : ∀ s', Quiet Service.IsDiscovery s s' → Q ⟨⟩ s')
    (herr : ∀ message s', Quiet Service.IsDiscovery s s' → E (.error message) s') :
    wp (setIntrospectionEnabled (cfg.environment pattern) enabled) Q E s := by
  have hquiet : ∀ outcome, Quiet Service.IsDiscovery s
      (s.record (.setIntrospectionEnabled enabled) outcome s.env.fleet) := fun outcome =>
    quiet_record_discovery (.inr (.inr rfl))
  rw [setIntrospectionEnabled, wp_bind]
  refine wp_exchange (fun _ => hok _ (hquiet _)) (fun _ => herr _ _ (hquiet _))
    (fun _ => herr _ _ (hquiet _)) fun performed _ => ?_
  rw [ite_self]
  exact herr _ _ (hquiet _)

/-- What discovery makes of an introspection answer. -/
def Parameters.discovered (params : Parameters) (answer : List TopicInfo) :
    List TopicSelection :=
  (answer.filter params.admits).map fun info => { topic := info }

/-- The query that discovery makes once the introspection manager is found. -/
private theorem wp_queryTopics {Q : List TopicSelection → NodeState World → Prop}
    {s₀ : NodeState World} (hs : Quiet Service.IsDiscovery s₀ s)
    (hok : ∀ n s', Quiet Service.IsDiscovery s₀ s' →
      ensureTopicLimits cfg.params (cfg.params.discovered (pattern.topics n)) = .ok () →
      Q (cfg.params.discovered (pattern.topics n)) s')
    (herr : ∀ message s', Quiet Service.IsDiscovery s₀ s' → E (.error message) s') :
    wp (do match ← request (cfg.environment pattern).requestTopics with
          | some topics =>
            let out := (topics.filter cfg.params.admits).map fun info => { topic := info }
            ofExcept (ensureTopicLimits cfg.params out)
            pure out
          | none => fail "Timeout querying introspection_manager") Q E s := by
  rw [wp_bind]
  refine wp_requestTopics fun outcome _ => ?_
  have hquiet : Quiet Service.IsDiscovery s₀ (s.record .getTopics outcome s.env.fleet) :=
    hs.trans (quiet_record_discovery (.inr (.inl rfl)))
  cases outcome.replies with
  | false => exact herr _ _ hquiet
  | true =>
    rw [if_pos rfl]
    refine wp_bind.mpr (wp_ofExcept.mpr ⟨fun _ h => ?_, fun message _ => ?_⟩)
    · exact hok _ _ hquiet h
    · exact herr message _ hquiet

/-- Discovery returns what it makes of one of the answers, within the limit. -/
theorem wp_discoverAllTopics {Q : List TopicSelection → NodeState World → Prop}
    (hok : ∀ n s', Quiet Service.IsDiscovery s s' →
      ensureTopicLimits cfg.params (cfg.params.discovered (pattern.topics n)) = .ok () →
      Q (cfg.params.discovered (pattern.topics n)) s')
    (herr : ∀ message s', Quiet Service.IsDiscovery s s' → E (.error message) s') :
    wp (discoverAllTopics cfg.params (cfg.environment pattern)) Q E s := by
  rw [discoverAllTopics, wp_bind]
  refine wp_introspectionAvailable fun waited _ => ?_
  have hwait : Quiet Service.IsDiscovery s (s.record .introspectionWait waited s.env.fleet) :=
    quiet_record_discovery (.inl rfl)
  by_cases hfound : waited = .unavailable
  · rw [decide_eq_false (by simpa using hfound), if_neg Bool.false_ne_true]
    exact herr _ _ hwait
  · rw [decide_eq_true hfound, if_pos rfl, wp_bind]
    -- enabling introspection may fail; the query follows all the same
    refine wp_tryCall (wp_setIntrospectionEnabled (fun s' hs' => ?_) fun message s' hs' => ?_)
    · exact wp_queryTopics (hwait.trans hs') hok herr
    · exact ⟨fun _ _ => wp_queryTopics (hwait.trans hs') hok herr, fun _ h => by cases h⟩

/-! ### The plan -/

/-- The selection to apply, once the request for missing types is out of the way. -/
theorem wp_validateSelection {topics : List TopicSelection}
    {Q : List TopicSelection → NodeState World → Prop}
    (hok : ∀ validated s', Quiet Service.IsDiscovery s s' →
      validateWith cfg.params (pattern.topics (s.env.count .getTopics)) topics =
        .ok validated → Q validated s')
    (herr : ∀ message s', Quiet Service.IsDiscovery s s' →
      (s.next pattern .introspection = .answered → s.next pattern .getTopics = .answered →
        validateWith cfg.params (pattern.topics (s.env.count .getTopics)) topics =
          .error message) → E (.error message) s') :
    wp (validateSelection cfg.params (cfg.environment pattern) topics) Q E s := by
  rw [validateSelection]
  cases hvalidate : cfg.params.validateTopics with
  | false =>
    rw [if_neg Bool.false_ne_true]
    exact hok topics s .refl (by rw [validateWith, hvalidate, if_neg Bool.false_ne_true])
  | true =>
    have heq : ∀ answer, validateWith cfg.params answer topics = inferWith answer topics :=
      fun answer => by rw [validateWith, hvalidate, if_pos rfl]
    rw [if_pos rfl]
    refine wp_inferMissingTypes (fun completed s' hs' h => ?_) fun message s' hs' h => ?_
    · exact hok completed s' hs' ((heq _).trans h)
    · exact herr message s' hs' fun h₁ h₂ => (heq _).trans (h h₁ h₂)

/-- The services called before a selection is carried out. -/
def Service.IsPreparation (service : Service) : Prop :=
  service = .getState .kafka ∨ service.IsDiscovery

/-- What `apply_selection` does before it touches anything: it reads the state of
kafka_sink, and its plan is `planSelection` of the introspection answer. -/
theorem wp_prepareSelection {topics : List TopicSelection}
    {Q : LifecycleState × List TopicSelection × TopicToolsPlan → NodeState World → Prop}
    (hok : ∀ validated plan s', Quiet Service.IsPreparation s s' → topics ≠ [] →
      planSelection cfg.params (pattern.topics (s.env.count .getTopics)) topics =
        .ok (validated, plan) →
      Q (s.env.fleet.kafka.state.primary, validated, plan) s')
    (herr : ∀ message s', Quiet Service.IsPreparation s s' →
      ((∀ service, s.next pattern service = .answered) → topics ≠ [] →
        planSelection cfg.params (pattern.topics (s.env.count .getTopics)) topics =
          .error message) →
      E (.error message) s') :
    wp (prepareSelection cfg.params (cfg.environment pattern) topics) Q E s := by
  unfold prepareSelection
  by_cases hne : topics = []
  · rw [hne]
    exact herr _ s .refl fun _ h => absurd hne h
  rw [if_neg (by simpa using hne), wp_bind]
  refine wp_getSinkState rfl (fun outcome houtcome hreplies => ?_)
    fun outcome houtcome hreplies => ?_
  · have hrecord : Quiet Service.IsPreparation s
        (s.record (.getState .kafka) outcome s.env.fleet) := .record (.inl rfl)
    have hcount : ∀ service, service.IsDiscovery →
        (s.record (.getState .kafka) outcome s.env.fleet).env.count service =
          s.env.count service := by
      rintro service (rfl | rfl | rfl) <;> simp [Rpc.service]
    have hnext : ∀ service, service.IsDiscovery → s.next pattern service = .answered →
        (s.record (.getState .kafka) outcome s.env.fleet).next pattern service = .answered := by
      intro service hservice h
      rwa [NodeState.next, World.next, hcount service hservice]
    rw [wp_bind]
    refine wp_validateSelection (fun validated s' hs' h => ?_) fun message s' hs' h => ?_
    · rw [hcount _ (.inr (.inl rfl))] at h
      have hquiet := hrecord.trans (hs'.mono fun _ => .inr)
      refine wp_bind.mpr (wp_ofExcept.mpr ⟨fun plan hplan => ?_, fun message hplan => ?_⟩)
      · exact hok validated plan s' hquiet hne (by simp only [planSelection, h, hplan]; rfl)
      · exact herr message s' hquiet fun _ _ => by simp only [planSelection, h, hplan]; rfl
    · rw [hcount _ (.inr (.inl rfl))] at h
      refine herr message s' (hrecord.trans (hs'.mono fun _ => .inr)) fun hall _ => ?_
      have hvalidate := h (hnext _ (.inl rfl) (hall _)) (hnext _ (.inr (.inl rfl)) (hall _))
      simp only [planSelection, hvalidate]
  · refine herr _ _ (.record (.inl rfl)) fun hall _ => ?_
    rw [hall] at houtcome
    rw [← houtcome] at hreplies
    exact absurd hreplies (by decide)

end Ros2Dispatcher
