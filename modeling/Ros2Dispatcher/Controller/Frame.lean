import Ros2Dispatcher.Controller.Handlers

/-!
# What applying and stopping leave alone

`apply_selection` and the calls of `stop_streaming` make requests and write two members
only, `active_topic_tools_` and `applied_selection_`; a failure is one reported through
`error_out`, with a text of its own. So they preserve every property that withstands these
requests and writes (`Respects.applySelection`, `Respects.stopPipeline`). In particular,
whatever the environment does, every other member is afterwards what it was before
(`applySelection_keeps`, `stopPipeline_keeps`). Committing to a selection writes the phase
besides, so it leaves every member outside the pipeline alone (`commitSelection_keepsMember`).
-/

namespace Ros2Dispatcher

open Procedure

/-- The members other than `active_topic_tools_` and `applied_selection_`. -/
def Controller.withoutPipeline (ctl : Controller) : Controller :=
  { ctl with activeTopicTools := ∅, appliedSelection := {} }

/-! ### The texts of failures -/

/-- A text that does not begin like that of `ensure_topic_limits`. -/
def OwnText (message : String) : Prop :=
  message.toList.take 12 ≠ "Selection ex".toList

/-- A failure reported through `error_out` by anything but the size check. -/
def Failure.IsOwn (failure : Failure) : Prop :=
  ∃ message, failure = .error message ∧ OwnText message

/-- A text with another first letter. -/
def OtherInitial (message : String) : Prop :=
  ∃ c ∈ message.toList.head?, c ≠ 'S'

namespace OtherInitial

/-- A literal, by its first letter. -/
theorem text {c : Char} {cs : List Char} (h : c ≠ 'S') : OtherInitial (String.ofList (c :: cs)) :=
  ⟨c, by simp, h⟩

theorem append {text rest : String} (h : OtherInitial text) : OtherInitial (text ++ rest) := by
  obtain ⟨c, hhead, hc⟩ := h
  obtain ⟨tail, htext⟩ := List.head?_eq_some_iff.mp hhead
  exact ⟨c, by simp [htext], hc⟩

theorem ownText {message : String} (h : OtherInitial message) : OwnText message := by
  obtain ⟨c, hhead, hc⟩ := h
  obtain ⟨tail, hmessage⟩ := List.head?_eq_some_iff.mp hhead
  intro heq
  have hfirst : some c = some 'S' := by
    simpa [hmessage] using congrArg List.head? heq
  exact hc (Option.some.inj hfirst)

end OtherInitial

/-- A text that begins neither like that of `ensure_topic_limits` nor like the refusals of the
planner, of type inference and of a busy controller. -/
def PlainText (message : String) : Prop :=
  ∃ c ∈ message.toList.head?, c ≠ 'S' ∧ c ≠ 'C'

namespace PlainText

/-- A literal, by its first letter. -/
theorem text {c : Char} {cs : List Char} (h : c ≠ 'S' ∧ c ≠ 'C') :
    PlainText (String.ofList (c :: cs)) :=
  ⟨c, by simp, h⟩

theorem append {text rest : String} (h : PlainText text) : PlainText (text ++ rest) := by
  obtain ⟨c, hhead, hc⟩ := h
  obtain ⟨tail, htext⟩ := List.head?_eq_some_iff.mp hhead
  exact ⟨c, by simp [htext], hc⟩

theorem label {sink : Sink} : PlainText sink.label := by
  cases sink with
  | kafka => exact text (by decide)
  | mosquitto => exact text (by decide)

theorem otherInitial {message : String} (h : PlainText message) : OtherInitial message :=
  h.imp fun _ hc => ⟨hc.1, hc.2.1⟩

end PlainText

theorem Failure.IsOwn.of_initial {message : String} (h : OtherInitial message) :
    (Failure.error message).IsOwn :=
  ⟨message, rfl, h.ownText⟩

theorem ensureTopicLimits_text {params : Parameters} {subs : List TopicSelection}
    {message : String} (h : ensureTopicLimits params subs = .error message) :
    ¬OwnText message := by
  unfold ensureTopicLimits at h
  split at h
  · cases h
    simp [OwnText]
  · cases h

theorem completeTypes_text {answer : List TopicInfo} {subs : List TopicSelection}
    {message : String} (h : completeTypes answer subs = .error message) : OwnText message := by
  unfold completeTypes at h
  dsimp only at h
  split at h
  · cases h
  · cases h
    simp only [String.append_assoc]
    exact (OtherInitial.text (by decide)).append.ownText

/-- The two messages of the planner. -/
theorem planEntry_message {entry : TopicSelection} {message : String}
    (h : planEntry entry = .error message) :
    message = "Selection entry missing topic_name" ∨
      message = "topic_tools.plugin is required when topic_tools is enabled" := by
  have hplanned := planEntry_planned entry
  rw [h] at hplanned
  cases hplanned with
  | unnamed _ => exact .inl rfl
  | noPlugin _ _ _ _ => exact .inr rfl

theorem buildTopicToolsPlan_message {selection : List TopicSelection} {message : String}
    (h : buildTopicToolsPlan selection = .error message) :
    message = "Selection entry missing topic_name" ∨
      message = "topic_tools.plugin is required when topic_tools is enabled" := by
  induction selection with
  | nil => cases h
  | cons entry rest ih =>
    rw [buildTopicToolsPlan] at h
    cases hentry : planEntry entry with
    | error text =>
      rw [hentry] at h
      cases h
      exact planEntry_message hentry
    | ok planned =>
      rw [hentry] at h
      cases hrest : buildTopicToolsPlan rest with
      | error text =>
        rw [hrest] at h
        cases h
        exact ih hrest
      | ok plan =>
        rw [hrest] at h
        cases h

theorem buildTopicToolsPlan_text {selection : List TopicSelection} {message : String}
    (h : buildTopicToolsPlan selection = .error message) : OwnText message := by
  rcases buildTopicToolsPlan_message h with rfl | rfl
  · simp [OwnText]
  · exact (OtherInitial.text (by decide)).ownText

/-- The failures of the pipeline satisfy `Φ`. -/
class Covers (Φ : Failure → Prop) : Prop where
  plain : ∀ message, PlainText message → Φ (.error message)
  types : ∀ answer subs message, completeTypes answer subs = .error message → Φ (.error message)
  plan : ∀ selection message, buildTopicToolsPlan selection = .error message →
    Φ (.error message)

instance : Covers Failure.IsOwn where
  plain _ h := .of_initial h.otherInitial
  types _ _ message h := ⟨message, rfl, completeTypes_text h⟩
  plan _ message h := ⟨message, rfl, buildTopicToolsPlan_text h⟩

instance : Covers Failure.IsReported where
  plain message _ := ⟨message, rfl⟩
  types _ _ message _ := ⟨message, rfl⟩
  plan _ message _ := ⟨message, rfl⟩

section Frame

variable {ω α : Type} {params : Parameters} {env : Environment ω}
variable {Ok : List TopicSelection → Prop} {P : NodeState ω → Prop}
variable {Φ : Failure → Prop}

/-! ### What a property has to withstand -/

/-- A request preserves `P`, whatever its answer. -/
def Spares (P : NodeState ω → Prop) (f : ω → α × ω) : Prop :=
  ∀ s, P s → P { s with env := (f s.env).2 }

/-- The list a sink is given comes from the plan of a selection that is `Ok`. -/
def Sendable (Ok : List TopicSelection → Prop) (subs : List TopicInfo) : Prop :=
  ∃ selection plan, Ok selection ∧ buildTopicToolsPlan selection = .ok plan ∧
    subs = plan.sinkTopics

/-- What is to be shown of a property `P` of the node for `apply_selection` and the calls of
`stop_streaming` to preserve it, where the selections applied are `Ok`. -/
structure Respects (env : Environment ω) (Ok : List TopicSelection → Prop)
    (P : NodeState ω → Prop) : Prop where
  completed : ∀ answer selection completed, Ok selection →
    completeTypes answer selection = .ok completed → Ok completed
  getState : ∀ sink, Spares P (env.getState sink)
  changeState : ∀ sink transition, Spares P (env.changeState sink transition)
  setSubscriptionsYaml : ∀ sink subs, Sendable Ok subs →
    Spares P (env.setSubscriptionsYaml sink subs)
  loadNode : ∀ component, Spares P (env.loadNode component)
  unloadNode : ∀ id, Spares P (env.unloadNode id)
  introspectionAvailable : Spares P env.introspectionAvailable
  requestTopics : Spares P env.requestTopics
  introspectionEnabled : ∀ enabled, Spares P (env.setIntrospectionEnabled enabled)
  activeTopicTools : ∀ (s : NodeState ω) (tools : Std.TreeMap String ActiveTopicTool), P s →
    P { s with ctl := { s.ctl with activeTopicTools := tools } }
  appliedSelection : ∀ (s : NodeState ω) (snapshot : SelectionSnapshot), Ok snapshot.topics →
    P s → P { s with ctl := { s.ctl with appliedSelection := snapshot } }

/-- `m` preserves `P` and fails only through `error_out`, with a text of its own. -/
abbrev Preserves (P : NodeState ω → Prop) (m : Controlled ω α) : Prop :=
  Keeps Failure.IsOwn P m

theorem request_preserves {f : ω → α × ω} (hf : Spares P f) : Keeps Φ P (request f) :=
  hf

theorem now_preserves : Keeps Φ P (now env) :=
  fun _ h => h

theorem ofExcept_keeps {x : Except String α}
    (h : ∀ message, x = .error message → Φ (.error message)) : Keeps Φ P (ofExcept x) := by
  cases x with
  | error message => exact .throw (h message rfl)
  | ok a => exact .pure

variable [Covers Φ]

theorem fail_preserves {message : String} (h : PlainText message) :
    Keeps Φ P (fail message : Controlled ω α) :=
  .throw (Covers.plain message h)

theorem buildTopicToolsPlan_preserves {selection : List TopicSelection} :
    Keeps Φ P (ofExcept (buildTopicToolsPlan selection)) :=
  ofExcept_keeps fun _ h => Covers.plan _ _ h

theorem shouldSkipUnavailableSink_preserves {sink : Sink} :
    Keeps Φ P (shouldSkipUnavailableSink params sink) :=
  .ite .pure (fail_preserves (PlainText.text (by decide)).append.append)

theorem setIntrospectionEnabled_preserves {enabled : Bool}
    (h : Spares P (env.setIntrospectionEnabled enabled)) :
    Keeps Φ P (setIntrospectionEnabled env enabled) := by
  refine .bind (request_preserves h) fun result => ?_
  cases result with
  | unavailable => exact fail_preserves (.text (by decide))
  | timeout => exact fail_preserves (.text (by decide))
  | reply results =>
    dsimp only
    split
    · exact fail_preserves (PlainText.text (by decide)).append
    · exact .pure

namespace Respects

/-! ### Sinks -/

omit [Covers Φ] in
theorem getSinkState (h : Respects env Ok P) {sink : Sink} :
    Keeps Φ P (getSinkState params env sink) :=
  .ite (.bind (request_preserves (h.getState sink)) fun result => by
    cases result <;> exact .pure) .pure

theorem changeSinkState (h : Respects env Ok P) {sink : Sink} {transition : Transition} :
    Keeps Φ P (changeSinkState params env sink transition) := by
  refine .ite (.bind (request_preserves (h.changeState sink transition)) fun result => ?_)
    (fail_preserves PlainText.label.append)
  cases result with
  | unavailable => exact fail_preserves PlainText.label.append
  | timeout => exact fail_preserves (PlainText.text (by decide)).append.append.append
  | reply success => exact .ite .pure (fail_preserves PlainText.label.append.append)

theorem setSinkSubscriptionsYaml (h : Respects env Ok P) {sink : Sink} {subs : List TopicInfo}
    (hsubs : Sendable Ok subs) : Keeps Φ P (setSinkSubscriptionsYaml params env sink subs) := by
  refine .ite (.bind (request_preserves (h.setSubscriptionsYaml sink subs hsubs))
    fun result => ?_) shouldSkipUnavailableSink_preserves
  cases result with
  | unavailable => exact shouldSkipUnavailableSink_preserves
  | timeout => exact fail_preserves (PlainText.text (by decide)).append.append
  | reply results =>
    dsimp only
    split
    · exact fail_preserves (PlainText.text (by decide)).append.append.append
    · exact .pure

theorem deactivateSink (h : Respects env Ok P) {sink : Sink} :
    Keeps Φ P (deactivateSink params env sink) := by
  refine .ite .pure (.bind h.getSinkState fun state => ?_)
  cases state with
  | none => exact shouldSkipUnavailableSink_preserves
  | some state => exact .ite h.changeSinkState .pure

theorem leaveActive (h : Respects env Ok P) {sink : Sink} :
    Keeps Φ P (leaveActive params env sink) := by
  refine .bind h.changeSinkState fun _ => .bind h.getSinkState fun state => ?_
  cases state with
  | none => exact fail_preserves (PlainText.text (by decide)).append.append
  | some state => exact .pure

theorem quiesceSink (h : Respects env Ok P) {sink : Sink} {state : LifecycleState} :
    Keeps Φ P (quiesceSink params env sink state) :=
  .bind (.ite h.leaveActive .pure) fun _ => .ite h.changeSinkState .pure

theorem applySelectionToSink (h : Respects env Ok P) {sink : Sink} {subs : List TopicInfo}
    (hsubs : Sendable Ok subs) : Keeps Φ P (applySelectionToSink params env sink subs) := by
  refine .ite .pure (.bind h.getSinkState fun state => ?_)
  cases state with
  | none => exact shouldSkipUnavailableSink_preserves
  | some state =>
    exact .bind h.quiesceSink fun _ =>
      .bind (h.setSinkSubscriptionsYaml hsubs) fun _ => h.changeSinkState

/-! ### Tools -/

theorem deactivateAndUnloadTool (h : Respects env Ok P) {tool : ActiveTopicTool} :
    Keeps Φ P (deactivateAndUnloadTool env tool) := by
  refine .bind (request_preserves (h.unloadNode tool.uniqueId)) fun result => ?_
  cases result with
  | unavailable => exact fail_preserves (.text (by decide))
  | timeout => exact fail_preserves (.text (by decide))
  | reply success => exact .ite .pure (fail_preserves (.text (by decide)))

theorem clearActiveTopicTools (h : Respects env Ok P) :
    Keeps Φ P (clearActiveTopicTools env) :=
  .bind (fun _ hs => hs) fun _ =>
    .bind (.forM (fun _ => h.deactivateAndUnloadTool) _) fun _ s hs => h.activeTopicTools s ∅ hs

theorem loadAndRecordTool (h : Respects env Ok P) {tool : ResolvedTopicTool} :
    Keeps Φ P (loadAndRecordTool params env tool) := by
  refine .bind (.bind (request_preserves (h.loadNode _)) fun result => ?_)
    fun active s hs => h.activeTopicTools s _ hs
  cases result with
  | unavailable => exact fail_preserves (.text (by decide))
  | timeout => exact fail_preserves (.text (by decide))
  | reply response => exact .ite .pure (fail_preserves (PlainText.text (by decide)).append)

theorem reconcileTopicTools (h : Respects env Ok P) {plan : TopicToolsPlan} :
    Keeps Φ P (reconcileTopicTools params env plan) :=
  .bind h.clearActiveTopicTools fun _ => .forM (fun _ => h.loadAndRecordTool) _

/-! ### Whole procedures -/

theorem inferMissingTypes (h : Respects env Ok P) {subs : List TopicSelection}
    {s : NodeState ω} (hok : Ok subs) (hs : P s) :
    wp (inferMissingTypes env subs) (fun completed s' => Ok completed ∧ P s')
      (fun e s' => Φ e ∧ P s') s := by
  refine wp_ite.mpr ⟨fun _ => wp_bind.mpr ?_, fun _ => ⟨hok, hs⟩⟩
  have hwaited := h.introspectionAvailable s hs
  refine wp_ite.mpr ⟨fun _ => wp_bind.mpr ?_, fun _ =>
    ⟨Covers.plain _ (.text (by decide)), hwaited⟩⟩
  have hasked := h.requestTopics _ hwaited
  rw [wp_request]
  split
  next answer _ =>
    refine wp_ofExcept.mpr ⟨fun completed hcompleted => ?_, fun message herror =>
      ⟨Covers.types _ _ _ herror, hasked⟩⟩
    exact ⟨h.completed answer subs completed hok hcompleted, hasked⟩
  next => exact ⟨Covers.plain _ (.text (by decide)), hasked⟩

theorem setIntrospectionEnabled (h : Respects env Ok P) {enabled : Bool} :
    Keeps Φ P (setIntrospectionEnabled env enabled) :=
  setIntrospectionEnabled_preserves (h.introspectionEnabled enabled)

/-- Discovery checks the size itself. -/
theorem discoverAllTopics (h : Respects env Ok P)
    (hlimit : ∀ selection message, ensureTopicLimits params selection = .error message →
      Φ (.error message)) : Keeps Φ P (discoverAllTopics params env) := by
  refine .bind h.introspectionAvailable fun _ => .ite
    (.bind (.attempt (Φ := Φ) h.setIntrospectionEnabled) fun _ =>
      .bind h.requestTopics fun answer => ?_)
    (fail_preserves (.text (by decide)))
  cases answer with
  | none => exact fail_preserves (.text (by decide))
  | some topics => exact .bind (ofExcept_keeps fun message => hlimit _ message) fun _ => .pure

theorem prepareSelection (h : Respects env Ok P) {topics : List TopicSelection}
    {s : NodeState ω} (hok : Ok topics) (hs : P s) :
    wp (prepareSelection params env topics)
      (fun prepared s' =>
        (Ok prepared.2.1 ∧ buildTopicToolsPlan prepared.2.1 = .ok prepared.2.2) ∧ P s')
      (fun e s' => Φ e ∧ P s') s := by
  refine wp_ite.mpr ⟨fun _ => ⟨Covers.plain _ (.text (by decide)), hs⟩, fun _ => wp_bind.mpr ?_⟩
  refine wp_mono (h.getSinkState s hs) (fun state s' hs' => ?_) fun _ _ h' => h'
  cases state with
  | none => exact ⟨Covers.plain _ (.text (by decide)), hs'⟩
  | some state =>
    have hvalidated : wp (validateSelection params env topics)
        (fun validated s' => Ok validated ∧ P s') (fun e s' => Φ e ∧ P s') s' :=
      wp_ite.mpr ⟨fun _ => h.inferMissingTypes hok hs', fun _ => ⟨hok, hs'⟩⟩
    refine wp_bind.mpr (wp_mono hvalidated (fun validated s'' hs'' => ?_) fun _ _ h' => h')
    refine wp_bind.mpr (wp_ofExcept.mpr ⟨fun plan hplan => ?_, fun message herror =>
      ⟨Covers.plan _ _ herror, hs''.2⟩⟩)
    exact ⟨⟨hs''.1, hplan⟩, hs''.2⟩

theorem recordApplied (h : Respects env Ok P) {validated : List TopicSelection}
    {plan : TopicToolsPlan} (hok : Ok validated) :
    Keeps Φ P (recordApplied params env validated plan) :=
  .bind now_preserves fun stamp =>
    .bind (fun s hs => h.appliedSelection s ⟨validated, plan.sinkTopics, stamp⟩ hok hs) fun _ =>
      .ite (.bind (.attempt h.setIntrospectionEnabled) fun _ => .pure) .pure

/-- `apply_selection` preserves what respects its requests and the two members it writes. -/
theorem applySelection (h : Respects env Ok P) {topics : List TopicSelection} (hok : Ok topics) :
    Keeps Φ P (applySelection params env topics) := by
  refine fun s hs => wp_bind.mpr (wp_mono (h.prepareSelection hok hs) (fun prepared s' hs' => ?_)
    fun _ _ h' => h')
  obtain ⟨state, validated, plan⟩ := prepared
  obtain ⟨⟨hvalidated, hplan⟩, hs'⟩ := hs'
  have hsend : Sendable Ok plan.sinkTopics := ⟨validated, plan, hvalidated, hplan, rfl⟩
  have hrest : Keeps Φ P (do
      Ros2Dispatcher.quiesceSink params env .kafka state
      Ros2Dispatcher.reconcileTopicTools params env plan
      Ros2Dispatcher.setSinkSubscriptionsYaml params env .kafka plan.sinkTopics
      Ros2Dispatcher.changeSinkState params env .kafka .activate
      Ros2Dispatcher.applySelectionToSink params env .mosquitto plan.sinkTopics
      Ros2Dispatcher.recordApplied params env validated plan) :=
    .bind h.quiesceSink fun _ => .bind h.reconcileTopicTools fun _ =>
      .bind (h.setSinkSubscriptionsYaml hsend) fun _ => .bind h.changeSinkState fun _ =>
        .bind (h.applySelectionToSink hsend) fun _ => h.recordApplied hvalidated
  exact hrest s' hs'

/-- The calls of `stop_streaming` preserve what respects its requests and
`active_topic_tools_`. -/
theorem stopPipeline (h : Respects env Ok P) : Keeps Φ P (stopPipeline params env) :=
  .bind h.deactivateSink fun _ => .bind h.deactivateSink fun _ => h.clearActiveTopicTools

end Respects

/-! ### The other members -/

variable {rest : Controller}

/-- The other members are those of `rest`. -/
def HasRest (rest : Controller) (s : NodeState ω) : Prop :=
  s.ctl.withoutPipeline = rest

/-- `m` leaves the other members alone and fails only with a text of its own. -/
abbrev Leaves (rest : Controller) (m : Controlled ω α) : Prop :=
  Preserves (HasRest rest) m

/-- A property of the members withstands every request. -/
theorem respects_of_members {R : Controller → Prop}
    (htools : ∀ ctl tools, R ctl → R { ctl with activeTopicTools := tools })
    (happlied : ∀ ctl snapshot, R ctl → R { ctl with appliedSelection := snapshot }) :
    Respects env (fun _ => True) fun s => R s.ctl where
  completed _ _ _ _ _ := trivial
  getState _ _ h := h
  changeState _ _ _ h := h
  setSubscriptionsYaml _ _ _ _ h := h
  loadNode _ _ h := h
  unloadNode _ _ h := h
  introspectionAvailable _ h := h
  requestTopics _ h := h
  introspectionEnabled _ _ h := h
  activeTopicTools s tools h := htools s.ctl tools h
  appliedSelection s snapshot _ h := happlied s.ctl snapshot h

/-- No request and no selection has an effect on the other members. -/
theorem hasRest_respects : Respects env (fun _ => True) (HasRest rest) :=
  respects_of_members (R := fun ctl => ctl.withoutPipeline = rest) (fun _ _ h => h)
    fun _ _ h => h

theorem inferMissingTypes_keeps {subs : List TopicSelection} :
    Leaves rest (inferMissingTypes env subs) := fun _ h =>
  wp_mono (hasRest_respects.inferMissingTypes trivial h) (fun _ _ h' => h'.2) fun _ _ h' => h'

theorem discoverAllTopics_keeps :
    Keeps Failure.IsReported (HasRest rest) (discoverAllTopics params env) :=
  hasRest_respects.discoverAllTopics fun _ message _ => ⟨message, rfl⟩

/-- `apply_selection` writes no member but `active_topic_tools_` and `applied_selection_`. -/
theorem applySelection_keeps {topics : List TopicSelection} :
    Leaves rest (applySelection params env topics) :=
  hasRest_respects.applySelection trivial

/-- The calls of `stop_streaming` write no member but `active_topic_tools_`. -/
theorem stopPipeline_keeps : Leaves rest (stopPipeline params env) :=
  hasRest_respects.stopPipeline

/-! ### One member -/

variable {β : Type} {member : Controller → β} {value : β}

/-- A member outside the pipeline. -/
def OutsidePipeline (member : Controller → β) : Prop :=
  ∀ (ctl : Controller) (pipeline : Pipeline),
    member { ctl with toPipeline := pipeline } = member ctl

/-- `m` leaves a member alone, whether it returns, fails or throws. -/
abbrev KeepsMember (member : Controller → β) (value : β) (m : Controlled ω α) : Prop :=
  Keeps (fun _ => True) (fun s => member s.ctl = value) m

theorem update_keepsMember {f : Controller → Controller}
    (hf : ∀ ctl, member (f ctl) = member ctl) :
    KeepsMember (ω := ω) member value (update f) := fun s h =>
  (hf s.ctl).trans h

/-- What leaves all members but two alone leaves a member alone that is neither. -/
theorem Leaves.keepsMember {Φ : Failure → Prop} {m : Controlled ω α}
    (hmember : ∀ ctl : Controller, member ctl.withoutPipeline = member ctl)
    (h : ∀ rest, Keeps Φ (HasRest rest) m) : KeepsMember member value m := by
  intro s hs
  have hsame : ∀ s' : NodeState ω, HasRest s.ctl.withoutPipeline s' → member s'.ctl = value := by
    intro s' hs'
    calc member s'.ctl = member s'.ctl.withoutPipeline := (hmember s'.ctl).symm
      _ = member s.ctl.withoutPipeline := by rw [hs']
      _ = member s.ctl := hmember s.ctl
      _ = value := hs
  exact wp_mono (h s.ctl.withoutPipeline s rfl) (fun _ s' hs' => hsame s' hs')
    fun _ s' hs' => ⟨trivial, hsame s' hs'.2⟩

theorem keepsMember_of_leaves {m : Controlled ω α} (hmember : OutsidePipeline member)
    (h : ∀ rest, Leaves rest m) : KeepsMember member value m :=
  Leaves.keepsMember (fun ctl => hmember ctl _) h

/-- Loading a selection file writes the file selection only. -/
theorem refreshFileSelection_keepsMember {inferPrefix path : String}
    (hmember : ∀ ctl : Controller, member ctl.withoutPipeline = member ctl)
    (hcache : ∀ (ctl : Controller) (snapshot : SelectionSnapshot),
      member { ctl with lastFileSelection := snapshot } = member ctl) :
    KeepsMember member value (refreshFileSelection env inferPrefix path) := by
  have hread : KeepsMember member value (readSelectionFile env path) := fun _ h =>
    wp_ofFailure.mpr ⟨fun _ _ => h, fun _ _ => ⟨trivial, h⟩⟩
  have hinfer : ∀ loaded, KeepsMember member value (inferMissingTypes env loaded) := fun _ =>
    Leaves.keepsMember hmember fun _ => inferMissingTypes_keeps
  refine .bind hread fun loaded => .bind (.attempt (hinfer loaded)) fun answer => ?_
  cases answer with
  | error message => exact .throw trivial
  | ok selection =>
    exact .bind (ofExcept_keeps fun _ _ => trivial) fun _ =>
      .bind (fun _ h => h) fun _ =>
        .bind (update_keepsMember fun ctl => hcache ctl _) fun _ => .pure

/-- Discovery writes the selection of all topics only. -/
theorem refreshAllSelection_keepsMember
    (hmember : ∀ ctl : Controller, member ctl.withoutPipeline = member ctl)
    (hcache : ∀ (ctl : Controller) (snapshot : SelectionSnapshot),
      member { ctl with lastAllSelection := snapshot } = member ctl) :
    KeepsMember member value (refreshAllSelection params env) :=
  .bind (Leaves.keepsMember hmember fun _ => discoverAllTopics_keeps) fun _ =>
    .bind (ofExcept_keeps fun _ _ => trivial) fun _ =>
      .bind (fun _ h => h) fun _ =>
        .bind (update_keepsMember fun ctl => hcache ctl _) fun _ => .pure

theorem applyInPhase_keepsMember {selection : List TopicSelection}
    (hmember : OutsidePipeline member) :
    KeepsMember member value (applyInPhase params env selection) := by
  have hphase : ∀ phase : ControllerPhase,
      KeepsMember (ω := ω) member value (update fun ctl => { ctl with phase := phase }) :=
    fun phase => update_keepsMember fun ctl => hmember ctl { ctl.toPipeline with phase := phase }
  refine .bind (hphase _) fun _ =>
    .bind (.attempt (keepsMember_of_leaves hmember fun _ => applySelection_keeps))
      fun answer => ?_
  cases answer with
  | error message => exact .bind (hphase _) fun _ => .throw trivial
  | ok _ => exact hphase _

theorem commitSelection_keepsMember {selection : List TopicSelection}
    {sinkTopics : List TopicInfo} {applyNow : Bool} (hmember : OutsidePipeline member) :
    KeepsMember member value (commitSelection params env selection sinkTopics applyNow) := by
  have hcheck : ∀ {γ : Type} {x : Except String γ},
      KeepsMember (ω := ω) member value (ofExcept x) := ofExcept_keeps fun _ _ => trivial
  exact .bind (.ite (.bind hcheck fun _ => .pure) .pure) fun _ =>
    .bind hcheck fun _ => .ite (applyInPhase_keepsMember hmember) .pure

end Frame

end Ros2Dispatcher
