import Ros2Dispatcher.Controller.Frame
import Ros2Dispatcher.Fleet.Planning

/-!
# From the calls of an operation to the whole operation

Whatever an operation is asked to do, it touches the sinks and the tools at most once: it
either runs `apply_selection` on a selection it has settled on, or the calls of
`stop_streaming`, or neither. A property of the pipeline and of what was requested is
therefore established for every operation (`Establishes.wp_run`) from three facts: it holds
if nothing but queries was made, and it holds after `apply_selection` and after a stop,
both on success and on failure.

* `Operation.applies`, `Operation.appliedFile`: whether an operation applies a selection,
  and the file it applies;
* `Operation.Carries`: the selections an operation can apply;
* `Controller.Settled`: what holds between operations in every run;
* `Setting.runs_invariant`: the rule for runs.
-/

namespace Ros2Dispatcher

open Procedure

/-! ### What an operation applies -/

/-- The batch as `on_param_change` gathers it. -/
def Controller.staged (ctl : Controller) (batch : List ParameterUpdate) :
    Option StagedParameters :=
  stageParameters batch ⟨none, ctl.selectionFilePath, ctl.autoApplyOnModeChange, none⟩

/-- The rule for `on_param_change`: a batch with an invalid mode and one without a mode are
answered at once, the others switch the mode. -/
theorem wp_onParamChange_staged {ω : Type} {params : Parameters} {env : Environment ω}
    {batch : List ParameterUpdate} {Q : Response → NodeState ω → Prop}
    {E : Failure → NodeState ω → Prop} {s : NodeState ω}
    (hinvalid : s.ctl.staged batch = none → Q ⟨false, "Invalid selection_mode value"⟩ s)
    (hplain : Q ⟨true, ""⟩ s)
    (hswitch : ∀ newMode path requestApply newAutoApply,
      s.ctl.staged batch = some ⟨some newMode, path, requestApply, newAutoApply⟩ →
      wp (switchMode params env newMode path requestApply)
        (fun _ s' => Q ⟨true, ""⟩ { s' with ctl := { s'.ctl with
          selectionFilePath := path
          autoApplyOnModeChange := newAutoApply.getD s'.ctl.autoApplyOnModeChange } })
        (fun e s' => (∀ message, e = .error message → Q ⟨false, message⟩ s') ∧
          ∀ what, e = .thrown what → E e s') s) :
    wp (onParamChange params env batch) Q E s := by
  rw [onParamChange, wp_bind, wp_members]
  cases hstaged : s.ctl.staged batch with
  | none =>
    have hanswer := hinvalid hstaged
    rw [Controller.staged] at hstaged
    rwa [hstaged]
  | some staged =>
    obtain ⟨newMode, path, requestApply, newAutoApply⟩ := staged
    have hgathered := hstaged
    rw [Controller.staged] at hgathered
    rw [hgathered]
    cases newMode with
    | none => exact hplain
    | some newMode =>
      exact wp_bind.mpr (wp_tryCall (hswitch newMode path requestApply newAutoApply hstaged))

/-- A new file path, where an empty one stands for the current path. -/
def Controller.filePath (ctl : Controller) (path : String) : String :=
  if path.isEmpty then ctl.selectionFilePath else path

/-- Whether an operation gets as far as choosing a selection to apply. -/
def Operation.applies (ctl : Controller) : Operation → Bool
  | .applySelection _ => ctl.selectionMode = .gui
  | .reloadSelection _ applyNow => applyNow
  | .stopStreaming _ => false
  | .getStatus => false
  | .setSelectionMode mode _ applyNow => (parseMode mode).isSome && applyNow
  | .paramChange batch =>
    (ctl.staged batch).any fun staged => staged.newMode.isSome && staged.requestApply
  | .startupTimer => ctl.startupApplyTimer && ctl.selectionMode = .file

/-- The file an operation applies, if it applies one. -/
def Operation.appliedFile (ctl : Controller) : Operation → Option String
  | .reloadSelection path applyNow =>
    if ctl.selectionMode = .file ∧ applyNow then some (ctl.filePath path) else none
  | .setSelectionMode mode path applyNow =>
    if parseMode mode = some .file ∧ applyNow then some (ctl.filePath path) else none
  | .paramChange batch =>
    match ctl.staged batch with
    | some ⟨some .file, path, true, _⟩ => some (ctl.filePath path)
    | _ => none
  | .startupTimer =>
    if ctl.startupApplyTimer ∧ ctl.selectionMode = .file then some ctl.selectionFilePath else none
  | _ => none

/-- A selection without tools, as a client or discovery gives it. -/
def Plain (selection : List TopicSelection) : Prop :=
  ∀ entry ∈ selection, entry.topicTools = none

/-- The selections an operation can apply: plain ones, and those of the file it applies, with
missing types filled in. -/
def Operation.Carries (cfg : Setting) (pattern : Pattern) (ctl : Controller) (op : Operation)
    (selection : List TopicSelection) : Prop :=
  Plain selection ∨ ∃ path loaded answer, op.appliedFile ctl = some path ∧
    loadFileSelection cfg.yaml path (pattern.files path) = .ok loaded ∧
    inferWith answer loaded = .ok selection

/-- What holds of the controller between operations. -/
structure Controller.Settled (ctl : Controller) : Prop where
  plain : Plain ctl.lastGuiSelection.topics
  ready : ctl.phase ≠ .busy

/-- Services that change nothing in the fleet. -/
def Service.IsQuery (service : Service) : Prop :=
  service.IsDiscovery ∨ ∃ sink, service = .getState sink

/-- What is to be shown of an operation, started with the controller `ctl` and the fleet
`fleet`, for `J` to hold of the pipeline and the requests after it. -/
structure Establishes (cfg : Setting) (pattern : Pattern) (op : Operation) (ctl : Controller)
    (fleet : Fleet) (J : Pipeline → World → Prop) : Prop where
  rest : ∀ log, (∀ event ∈ log, event.rpc.service.IsQuery) → J ctl.toPipeline ⟨fleet, log⟩
  apply : ∀ selection s, op.applies ctl = true → op.Carries cfg pattern ctl selection →
    s.ctl.toPipeline = { ctl.toPipeline with phase := .busy } → s.env.fleet = fleet →
    (∀ event ∈ s.env.log, event.rpc.service.IsDiscovery) →
    wp (applySelection cfg.params (cfg.environment pattern) selection)
      (fun _ s' => J { s'.ctl.toPipeline with phase := .idle } s'.env)
      (fun _ s' => J { s'.ctl.toPipeline with phase := .error } s'.env) s
  stop : (∃ reset, op = .stopStreaming reset) →
    wp (stopPipeline cfg.params (cfg.environment pattern))
      (fun _ s' => J { s'.ctl.toPipeline with appliedSelection := {}, phase := .idle } s'.env)
      (fun _ s' => J { s'.ctl.toPipeline with phase := .error } s'.env) ⟨ctl, ⟨fleet, []⟩⟩

/-! ### Plain selections -/

theorem Plain.inferWith {answer : List TopicInfo} {loaded selection : List TopicSelection}
    (hplain : Plain loaded) (h : inferWith answer loaded = .ok selection) : Plain selection := by
  rcases inferWith_ok h with rfl | rfl
  · exact hplain
  · intro entry hentry
    obtain ⟨entry', hmem, rfl⟩ := List.mem_map.mp hentry
    rw [completeEntry_topicTools, hplain entry' hmem]

/-- A plain selection asks for no tools. -/
theorem Plain.enabledTopics {selection : List TopicSelection} (h : Plain selection) :
    enabledTopics selection = [] := by
  rw [Ros2Dispatcher.enabledTopics, List.map_eq_nil_iff, List.filter_eq_nil_iff]
  intro entry hentry
  simp [h entry hentry]

theorem plain_map (topics : List TopicInfo) : Plain (topics.map fun topic => { topic }) := by
  intro entry hentry
  obtain ⟨topic, -, rfl⟩ := List.mem_map.mp hentry
  rfl

/-! ### What was called before -/

/-- Before a selection is applied only discovery was asked. -/
theorem NodeState.count_of_discovery {s : NodeState World} {service : Service}
    (hlog : ∀ event ∈ s.env.log, event.rpc.service.IsDiscovery)
    (hservice : ¬service.IsDiscovery) : s.env.count service = 0 := by
  refine List.countP_eq_zero.mpr fun event hevent => ?_
  rw [decide_eq_true_eq]
  intro heq
  have hdiscovery := hlog event hevent
  rw [heq] at hdiscovery
  exact hservice hdiscovery

/-! ### Inside a handler -/

section Handlers

variable {cfg : Setting} {pattern : Pattern} {op : Operation} {ctl : Controller}
variable {fleet : Fleet} {J : Pipeline → World → Prop} {s s' : NodeState World}

/-- The handler has not touched the pipeline or the fleet yet. -/
structure Untouched (ctl : Controller) (fleet : Fleet) (s : NodeState World) : Prop where
  pipeline : s.ctl.toPipeline = ctl.toPipeline
  fleet : s.env.fleet = fleet
  log : ∀ event ∈ s.env.log, event.rpc.service.IsDiscovery
  plain : Plain s.ctl.lastGuiSelection.topics

/-- The handler is done with the pipeline and the fleet, and `J` holds. -/
structure Reached (J : Pipeline → World → Prop) (s : NodeState World) : Prop where
  holds : J s.ctl.toPipeline s.env
  settled : s.ctl.Settled

theorem Untouched.start (h : ctl.Settled) : Untouched ctl fleet ⟨ctl, ⟨fleet, []⟩⟩ :=
  ⟨rfl, rfl, by simp, h.plain⟩

theorem Untouched.quiet (h : Untouched ctl fleet s) (hs : Quiet Service.IsDiscovery s s') :
    Untouched ctl fleet s' := by
  obtain ⟨events, hlog, hevents⟩ := hs.calls
  refine ⟨by rw [hs.ctl, h.pipeline], by rw [hs.fleet, h.fleet], fun event he => ?_,
    by rw [hs.ctl]; exact h.plain⟩
  rw [hlog] at he
  exact (List.mem_append.mp he).elim (h.log event) (hevents event)

/-- Writing another member leaves pipeline and fleet untouched. -/
theorem Untouched.write {f : Controller → Controller} (h : Untouched ctl fleet s)
    (hf : (f s.ctl).toPipeline = s.ctl.toPipeline)
    (hgui : (f s.ctl).lastGuiSelection = s.ctl.lastGuiSelection) :
    Untouched ctl fleet { s with ctl := f s.ctl } :=
  ⟨hf.trans h.pipeline, h.fleet, h.log, by rw [hgui]; exact h.plain⟩

/-- A handler that touched nothing is done. -/
theorem Untouched.reached (hest : Establishes cfg pattern op ctl fleet J) (hctl : ctl.Settled)
    (h : Untouched ctl fleet s) : Reached J s := by
  have hworld : s.env = ⟨fleet, s.env.log⟩ := by rw [← h.fleet]
  refine ⟨?_, h.plain, ?_⟩
  · rw [h.pipeline, hworld]
    exact hest.rest _ fun event he => .inl (h.log event he)
  · rw [congrArg Pipeline.phase h.pipeline]
    exact hctl.ready

/-- Writing another member keeps what was reached. -/
theorem Reached.write {f : Controller → Controller} (h : Reached J s)
    (hf : (f s.ctl).toPipeline = s.ctl.toPipeline)
    (hgui : Plain (f s.ctl).lastGuiSelection.topics) : Reached J { s with ctl := f s.ctl } :=
  ⟨by rw [hf]; exact h.holds, hgui, by rw [congrArg Pipeline.phase hf]; exact h.settled.ready⟩

/-- The cached GUI selection is not among the members that applying and stopping write. -/
private theorem HasRest.plain_gui (h : HasRest ctl.withoutPipeline s)
    (hplain : Plain ctl.lastGuiSelection.topics) : Plain s.ctl.lastGuiSelection.topics := by
  have hrest : s.ctl.withoutPipeline = ctl.withoutPipeline := h
  have hgui : s.ctl.lastGuiSelection = ctl.lastGuiSelection :=
    (congrArg Controller.lastGuiSelection hrest :)
  rw [hgui]
  exact hplain

theorem wp_explain {message : String} {Q : Response → NodeState World → Prop}
    {E : Failure → NodeState World → Prop} (h : Reached J s)
    (hQ : ∀ s', Reached J s' → Q ⟨false, message⟩ s') :
    wp (explain (cfg.environment pattern) message) Q E s :=
  hQ _ (h.write (f := fun ctl => { ctl with
    lastError := message, lastErrorStamp := (cfg.environment pattern).now s.env }) rfl
    h.settled.plain)

/-- Applying a selection the operation carries establishes `J`. -/
theorem wp_applyInPhase {selection : List TopicSelection}
    (hest : Establishes cfg pattern op ctl fleet J) (h : Untouched ctl fleet s)
    (happlies : op.applies ctl = true) (hcarries : op.Carries cfg pattern ctl selection) :
    wp (applyInPhase cfg.params (cfg.environment pattern) selection) (fun _ => Reached J)
      (fun _ => Reached J) s := by
  -- the state in which `apply_selection` is called
  let busy : NodeState World := { s with ctl := { s.ctl with phase := .busy } }
  have happly := hest.apply selection busy happlies hcarries
    (congrArg (fun pipeline => { pipeline with phase := .busy }) h.pipeline) h.fleet h.log
  have hleaves : Leaves busy.ctl.withoutPipeline
      (applySelection cfg.params (cfg.environment pattern) selection) := applySelection_keeps
  rw [applyInPhase, wp_bind, wp_update, wp_bind]
  refine wp_tryCall (wp_mono (wp_and happly (hleaves busy rfl)) (fun _ s' hs' => ?_)
    fun e s' hs' => ?_)
  · obtain ⟨hJ, hrest⟩ := hs'
    exact ⟨hJ, hrest.plain_gui h.plain, nofun⟩
  · -- `apply_selection` fails through `error_out` only, so the phase is reset
    obtain ⟨hJ, ⟨message, rfl, -⟩, hrest⟩ := hs'
    exact ⟨fun _ _ => ⟨hJ, hrest.plain_gui h.plain, nofun⟩, nofun⟩

/-- Committing to a selection the operation carries establishes `J`. -/
theorem wp_commitSelection {selection : List TopicSelection} {sinkTopics : List TopicInfo}
    {applyNow : Bool} (hest : Establishes cfg pattern op ctl fleet J) (hctl : ctl.Settled)
    (h : Untouched ctl fleet s) (happlies : applyNow = true → op.applies ctl = true)
    (hcarries : applyNow = true → op.Carries cfg pattern ctl selection) :
    wp (commitSelection cfg.params (cfg.environment pattern) selection sinkTopics applyNow)
      (fun _ => Reached J) (fun _ => Reached J) s := by
  have hdone := h.reached hest hctl
  have hlimited : wp (do
      ofExcept (ensureTopicLimits cfg.params selection)
      if applyNow then applyInPhase cfg.params (cfg.environment pattern) selection else pure ⟨⟩)
      (fun _ => Reached J) (fun _ => Reached J) s := by
    refine wp_bind.mpr (wp_ofExcept.mpr ⟨fun _ _ => ?_, fun _ _ => hdone⟩)
    refine wp_ite.mpr ⟨fun happly => ?_, fun _ => hdone⟩
    exact wp_applyInPhase hest h (happlies happly) (hcarries happly)
  refine wp_bind.mpr (wp_ite.mpr ⟨fun _ => ?_, fun _ => hlimited⟩)
  exact wp_map.mpr (wp_ofExcept.mpr ⟨fun _ _ => hlimited, fun _ _ => hdone⟩)

/-- Reading a selection file touches nothing, and the result is what the file says. -/
theorem wp_refreshFileSelection {inferPrefix path : String}
    {Q : List TopicSelection × List TopicInfo → NodeState World → Prop}
    (hest : Establishes cfg pattern op ctl fleet J) (hctl : ctl.Settled)
    (h : Untouched ctl fleet s)
    (hQ : ∀ loaded answer selection sinkTopics s', Untouched ctl fleet s' →
      loadFileSelection cfg.yaml path (pattern.files path) = .ok loaded →
      inferWith answer loaded = .ok selection → Q (selection, sinkTopics) s') :
    wp (refreshFileSelection (cfg.environment pattern) inferPrefix path) Q
      (fun _ => Reached J) s := by
  have hdone : ∀ s', Untouched ctl fleet s' → Reached J s' := fun s' hs' =>
    hs'.reached hest hctl
  rw [refreshFileSelection, wp_bind]
  refine wp_ofFailure.mpr ⟨fun loaded hloaded => ?_, fun _ _ => hdone s h⟩
  rw [wp_bind]
  refine wp_tryCall (wp_inferMissingTypes (fun selection s' hs' hinfer => ?_)
    fun message s' hs' _ => ?_)
  · have hs := h.quiet hs'
    refine wp_bind.mpr (wp_ofExcept.mpr ⟨fun plan _ => ?_, fun _ _ => hdone s' hs⟩)
    exact hQ loaded _ selection plan.sinkTopics _
      (hs.write (f := fun ctl => { ctl with lastFileSelection :=
        ⟨selection, plan.sinkTopics, (cfg.environment pattern).now s'.env⟩ }) rfl rfl)
      hloaded hinfer
  · exact ⟨fun _ _ => hdone s' (h.quiet hs'), nofun⟩

/-- Discovery touches nothing, and the result is plain. -/
theorem wp_refreshAllSelection
    {Q : List TopicSelection × List TopicInfo → NodeState World → Prop}
    (hest : Establishes cfg pattern op ctl fleet J) (hctl : ctl.Settled)
    (h : Untouched ctl fleet s)
    (hQ : ∀ selection sinkTopics s', Untouched ctl fleet s' → Plain selection →
      Q (selection, sinkTopics) s') :
    wp (refreshAllSelection cfg.params (cfg.environment pattern)) Q (fun _ => Reached J) s := by
  rw [refreshAllSelection, wp_bind]
  refine wp_discoverAllTopics (fun n s' hs' _ => ?_) fun message s' hs' => ?_
  · have hs := h.quiet hs'
    refine wp_bind.mpr (wp_ofExcept.mpr ⟨fun plan _ => ?_, fun _ _ => hs.reached hest hctl⟩)
    exact hQ _ plan.sinkTopics _
      (hs.write (f := fun ctl => { ctl with lastAllSelection :=
        ⟨_, plan.sinkTopics, (cfg.environment pattern).now s'.env⟩ }) rfl rfl) (plain_map _)
  · exact (h.quiet hs').reached hest hctl

/-- The requests of `switch_mode`. -/
theorem wp_switchMode {newMode : SelectionMode} {path : String} {applyNow : Bool}
    (hest : Establishes cfg pattern op ctl fleet J) (hctl : ctl.Settled)
    (happlies : applyNow = true → op.applies ctl = true)
    (hfile : applyNow = true → newMode = .file → op.appliedFile ctl = some (ctl.filePath path)) :
    wp (switchMode cfg.params (cfg.environment pattern) newMode path applyNow)
      (fun _ => Reached J) (fun _ => Reached J) ⟨ctl, ⟨fleet, []⟩⟩ := by
  have hstart : Untouched ctl fleet ⟨ctl, ⟨fleet, []⟩⟩ := .start hctl
  have hswitched := hstart.write (f := fun ctl => { ctl with
    selectionMode := newMode, selectionFilePath := ctl.filePath path }) rfl rfl
  rw [switchMode, wp_bind, wp_members]
  refine wp_ite.mpr ⟨fun _ => hstart.reached hest hctl, fun _ => ?_⟩
  rw [wp_bind, wp_update, wp_bind, wp_members]
  refine wp_ite.mpr ⟨fun happly => ?_, fun _ => hswitched.reached hest hctl⟩
  have hcommit : ∀ {selection sinkTopics} (s' : NodeState World), Untouched ctl fleet s' →
      op.Carries cfg pattern ctl selection →
      wp (commitSelection cfg.params (cfg.environment pattern) selection sinkTopics true)
        (fun _ => Reached J) (fun _ => Reached J) s' := fun s' hs' hcarries =>
    wp_commitSelection hest hctl hs' (fun _ => happlies happly) fun _ => hcarries
  cases newMode with
  | gui =>
    refine wp_ite.mpr ⟨fun _ => hswitched.reached hest hctl, fun _ => ?_⟩
    exact hcommit _ hswitched (.inl hctl.plain)
  | file =>
    refine wp_ite.mpr ⟨fun _ => hswitched.reached hest hctl, fun _ => ?_⟩
    rw [wp_bind]
    refine wp_refreshFileSelection hest hctl hswitched
      fun loaded answer selection sinkTopics s' hs' hload hinfer => ?_
    exact hcommit s' hs' (.inr ⟨_, loaded, answer, hfile happly rfl, hload, hinfer⟩)
  | all =>
    rw [wp_bind]
    refine wp_refreshAllSelection hest hctl hswitched fun selection sinkTopics s' hs' hplain => ?_
    exact hcommit s' hs' (.inl hplain)

private theorem wp_handleApplySelection {topics : List TopicInfo}
    (hest : Establishes cfg pattern (.applySelection topics) ctl fleet J) (hctl : ctl.Settled) :
    wp (handleApplySelection cfg.params (cfg.environment pattern) topics) (fun _ => Reached J)
      (fun _ => Reached J) ⟨ctl, ⟨fleet, []⟩⟩ := by
  have hstart : Untouched ctl fleet ⟨ctl, ⟨fleet, []⟩⟩ := .start hctl
  rw [handleApplySelection, wp_bind, wp_members]
  refine wp_ite.mpr ⟨fun _ => hstart.reached hest hctl, fun _ => ?_⟩
  refine wp_ite.mpr ⟨fun _ => hstart.reached hest hctl, fun hgui => ?_⟩
  rw [wp_bind]
  refine wp_tryCall (wp_inferMissingTypes (fun selection s' hs' hinfer => ?_)
    fun message s' hs' _ => ?_)
  · have hs := hstart.quiet hs'
    have hplain := (plain_map topics).inferWith hinfer
    dsimp only
    split
    · exact wp_explain (hs.reached hest hctl) fun _ h => h
    · rw [wp_bind]
      have happlies := decide_eq_true (not_not.mp hgui)
      refine wp_tryCall (wp_mono (wp_applyInPhase hest hs happlies (.inl hplain))
        (fun _ s'' h => ?_) fun e s'' h => ?_)
      · exact h.write (f := fun ctl => { ctl with lastGuiSelection :=
          ⟨selection, ctl.appliedSelection.sinkTopics, (cfg.environment pattern).now s''.env⟩ })
          rfl hplain
      · exact ⟨fun _ _ => wp_explain h fun _ h => h, fun _ _ => h⟩
  · exact ⟨fun _ _ => wp_explain ((hstart.quiet hs').reached hest hctl) fun _ h => h, nofun⟩

private theorem wp_answerReload {applyNow : Bool} {m : Controlled World PUnit}
    (h : wp m (fun _ => Reached J) (fun _ => Reached J) s) :
    wp (answerReload (cfg.environment pattern) applyNow m) (fun _ => Reached J)
      (fun _ => Reached J) s := by
  rw [answerReload, wp_bind]
  refine wp_tryCall (wp_mono h (fun _ _ h => h) fun e s' h => ?_)
  exact ⟨fun _ _ => wp_explain h fun _ h => h, fun _ _ => h⟩

private theorem wp_handleReloadSelection {path : String} {applyNow : Bool}
    (hest : Establishes cfg pattern (.reloadSelection path applyNow) ctl fleet J)
    (hctl : ctl.Settled) :
    wp (handleReloadSelection cfg.params (cfg.environment pattern) path applyNow)
      (fun _ => Reached J) (fun _ => Reached J) ⟨ctl, ⟨fleet, []⟩⟩ := by
  have hstart : Untouched ctl fleet ⟨ctl, ⟨fleet, []⟩⟩ := .start hctl
  rw [handleReloadSelection, wp_bind, wp_members]
  refine wp_ite.mpr ⟨fun _ => hstart.reached hest hctl, fun _ => ?_⟩
  dsimp only
  split
  next hmode =>
    refine wp_answerReload (wp_bind.mpr ?_)
    refine wp_refreshFileSelection hest hctl hstart
      fun loaded answer selection sinkTopics s' hs' hload hinfer => ?_
    refine wp_commitSelection hest hctl hs' id fun happly => ?_
    exact .inr ⟨_, loaded, answer, if_pos ⟨hmode, happly⟩, hload, hinfer⟩
  next =>
    refine wp_answerReload (wp_bind.mpr ?_)
    refine wp_refreshAllSelection hest hctl hstart fun selection sinkTopics s' hs' hplain => ?_
    exact wp_commitSelection hest hctl hs' id fun _ => .inl hplain
  next =>
    refine wp_ite.mpr ⟨fun _ => hstart.reached hest hctl, fun _ => ?_⟩
    exact wp_answerReload (wp_commitSelection hest hctl hstart id fun _ => .inl hctl.plain)

private theorem wp_handleStopStreaming {reset : Bool}
    (hest : Establishes cfg pattern (.stopStreaming reset) ctl fleet J) (hctl : ctl.Settled) :
    wp (handleStopStreaming cfg.params (cfg.environment pattern) reset) (fun _ => Reached J)
      (fun _ => Reached J) ⟨ctl, ⟨fleet, []⟩⟩ := by
  have hstart : Untouched ctl fleet ⟨ctl, ⟨fleet, []⟩⟩ := .start hctl
  have hleaves : Leaves ctl.withoutPipeline
      (stopPipeline cfg.params (cfg.environment pattern)) := stopPipeline_keeps
  rw [handleStopStreaming, wp_bind, wp_members]
  refine wp_ite.mpr ⟨fun _ => hstart.reached hest hctl, fun _ => ?_⟩
  rw [wp_bind]
  refine wp_tryCall (wp_mono (wp_and (hest.stop ⟨reset, rfl⟩) (hleaves _ rfl)) (fun _ s' hs' => ?_)
    fun e s' hs' => ?_)
  · obtain ⟨hJ, hrest⟩ := hs'
    refine wp_bind.mpr (wp_ite.mpr ⟨fun _ => ?_, fun _ => ?_⟩)
    · -- the caches are reset to empty snapshots
      exact ⟨hJ, nofun, nofun⟩
    · exact ⟨hJ, hrest.plain_gui hctl.plain, nofun⟩
  · obtain ⟨hJ, ⟨message, rfl, -⟩, hrest⟩ := hs'
    refine ⟨fun _ _ => ?_, nofun⟩
    rw [wp_bind, wp_update]
    exact wp_explain ⟨hJ, hrest.plain_gui hctl.plain, nofun⟩ fun _ h => h

private theorem wp_handleGetStatus
    (hest : Establishes cfg pattern .getStatus ctl fleet J) (hctl : ctl.Settled) :
    wp (handleGetStatus cfg.params (cfg.environment pattern)) (fun _ => Reached J)
      (fun _ => Reached J) ⟨ctl, ⟨fleet, []⟩⟩ := by
  let P (s : NodeState World) : Prop :=
    s.ctl = ctl ∧ s.env.fleet = fleet ∧ ∀ event ∈ s.env.log, event.rpc.service.IsQuery
  have hreached : ∀ s, P s → Reached J s := fun s hs => by
    obtain ⟨hs₁, hs₂, hs₃⟩ := hs
    refine ⟨?_, hs₁ ▸ hctl⟩
    have hworld : s.env = ⟨fleet, s.env.log⟩ := by rw [← hs₂]
    rw [hs₁, hworld]
    exact hest.rest _ hs₃
  have hquery : ∀ sink, Keeps (fun _ => True) P
      (getSinkState cfg.params (cfg.environment pattern) sink) := by
    intro sink s hs
    by_cases hclients : cfg.params.hasClients sink = true
    · have hrecord : ∀ outcome, P (s.record (.getState sink) outcome s.env.fleet) := by
        refine fun outcome => ⟨hs.1, hs.2.1, fun event he => ?_⟩
        rcases List.mem_append.mp he with he | he
        · exact hs.2.2 event he
        · rw [List.mem_singleton.mp he]
          exact .inr ⟨sink, rfl⟩
      exact wp_getSinkState hclients (fun outcome _ _ => hrecord outcome) fun outcome _ _ =>
        hrecord outcome
    · rw [getSinkState, if_neg hclients]
      exact hs
  have hkeeps : Keeps (fun _ => True) P
      (handleGetStatus cfg.params (cfg.environment pattern)) :=
    .bind (hquery _) fun _ => .bind (.ite .pure (hquery _)) fun _ =>
      .bind (fun _ h => h) fun _ => .pure
  exact wp_mono (hkeeps _ ⟨rfl, rfl, by simp⟩) (fun _ s h => hreached s h)
    fun _ s h => hreached s h.2

private theorem wp_handleSetSelectionMode {mode path : String} {applyNow : Bool}
    (hest : Establishes cfg pattern (.setSelectionMode mode path applyNow) ctl fleet J)
    (hctl : ctl.Settled) :
    wp (handleSetSelectionMode cfg.params (cfg.environment pattern) mode path applyNow)
      (fun _ => Reached J) (fun _ => Reached J) ⟨ctl, ⟨fleet, []⟩⟩ := by
  unfold handleSetSelectionMode
  split
  next => exact (Untouched.start hctl).reached hest hctl
  next newMode hmode =>
    rw [wp_bind]
    refine wp_tryCall (wp_mono (wp_switchMode hest hctl (fun happly => ?_) fun happly hnew => ?_)
      (fun _ s h => ?_) fun e s h => ?_)
    · simp [Operation.applies, hmode, happly]
    · exact if_pos ⟨hnew ▸ hmode, happly⟩
    · exact h.write (f := fun ctl => { ctl with selectionFilePath := ctl.filePath path }) rfl
        h.settled.plain
    · exact ⟨fun _ _ => h, fun _ _ => h⟩

private theorem wp_onParamChange {batch : List ParameterUpdate}
    (hest : Establishes cfg pattern (.paramChange batch) ctl fleet J) (hctl : ctl.Settled) :
    wp (onParamChange cfg.params (cfg.environment pattern) batch) (fun _ => Reached J)
      (fun _ => Reached J) ⟨ctl, ⟨fleet, []⟩⟩ := by
  have hdone : Reached J ⟨ctl, ⟨fleet, []⟩⟩ := (Untouched.start hctl).reached hest hctl
  refine wp_onParamChange_staged (fun _ => hdone) hdone
    fun newMode path requestApply newAutoApply hstaged => ?_
  refine wp_mono (wp_switchMode hest hctl (fun happly => ?_) fun happly hnew => ?_)
    (fun _ s h => ?_) fun e s h => ?_
  · simp [Operation.applies, hstaged, happly]
  · simp [Operation.appliedFile, hstaged, happly, hnew]
  · exact h.write (f := fun ctl => { ctl with
      selectionFilePath := path
      autoApplyOnModeChange := newAutoApply.getD ctl.autoApplyOnModeChange }) rfl h.settled.plain
  · exact ⟨fun _ _ => h, fun _ _ => h⟩

private theorem wp_onStartupTimer
    (hest : Establishes cfg pattern .startupTimer ctl fleet J) (hctl : ctl.Settled) :
    wp (onStartupTimer cfg.params (cfg.environment pattern)) (fun _ => Reached J)
      (fun _ => Reached J) ⟨ctl, ⟨fleet, []⟩⟩ := by
  have hdone : Reached J ⟨ctl, ⟨fleet, []⟩⟩ := (Untouched.start hctl).reached hest hctl
  rw [onStartupTimer, wp_bind, wp_members]
  refine wp_ite.mpr ⟨fun (htimer : ctl.startupApplyTimer = true) => ?_, fun _ => hdone⟩
  have hstartup : wp (startupApply cfg.params (cfg.environment pattern)) (fun _ => Reached J)
      (fun _ => Reached J) ⟨ctl, ⟨fleet, []⟩⟩ := by
    rw [startupApply, wp_bind, wp_members]
    refine wp_ite.mpr ⟨fun _ => hdone, fun _ => wp_ite.mpr ⟨fun _ => hdone, fun hmode => ?_⟩⟩
    refine wp_ite.mpr ⟨fun _ => hdone, fun hpath => ?_⟩
    have hfile : ctl.selectionMode = .file := not_not.mp hmode
    rw [wp_bind]
    refine wp_tryCall (wp_mono (wp_switchMode hest hctl (fun _ => ?_) fun _ _ => ?_)
      (fun _ s h => h) fun e s h => ?_)
    · simp [Operation.applies, htimer, hfile]
    · simp [Operation.appliedFile, Controller.filePath, htimer, hfile]
    · exact ⟨fun _ _ => wp_map.mpr (wp_explain h fun _ h => h), fun _ _ => h⟩
  rw [wp_bind]
  refine wp_mono hstartup (fun _ s h => ?_) fun _ _ h => h
  exact h.write (f := fun ctl => { ctl with startupApplyTimer := false }) rfl h.settled.plain

/-- **Operation rule.** What `apply_selection`, a stop and rest establish, every operation
establishes. -/
theorem Establishes.wp_run (hest : Establishes cfg pattern op ctl fleet J)
    (hctl : ctl.Settled) :
    wp (op.run cfg.params (cfg.environment pattern)) (fun _ => Reached J) (fun _ => Reached J)
      ⟨ctl, ⟨fleet, []⟩⟩ := by
  cases op with
  | applySelection topics => exact wp_map.mpr (wp_handleApplySelection hest hctl)
  | reloadSelection path applyNow => exact wp_map.mpr (wp_handleReloadSelection hest hctl)
  | stopStreaming reset => exact wp_map.mpr (wp_handleStopStreaming hest hctl)
  | getStatus => exact wp_map.mpr (wp_handleGetStatus hest hctl)
  | setSelectionMode mode path applyNow =>
    exact wp_map.mpr (wp_handleSetSelectionMode hest hctl)
  | paramChange batch => exact wp_map.mpr (wp_onParamChange hest hctl)
  | startupTimer => exact wp_map.mpr (wp_onStartupTimer hest hctl)

end Handlers

/-! ### Rounds and runs -/

variable {cfg : Setting} {sys sys' : System} {round : Round}

/-- The controller the constructor leaves behind is settled. -/
theorem Controller.initial_settled {mode filePath : String} {autoApply : Bool} :
    (Controller.initial mode filePath autoApply).Settled :=
  ⟨nofun, nofun⟩

/-- What an operation establishes holds of the system after the round. -/
theorem Setting.step_reached {J : Pipeline → World → Prop}
    (hest : Establishes cfg round.pattern round.operation sys.ctl sys.fleet J)
    (hctl : sys.ctl.Settled) (hstep : cfg.step sys round = some sys') :
    (∃ log, J sys'.ctl.toPipeline ⟨sys'.fleet, log⟩) ∧ sys'.ctl.Settled := by
  obtain ⟨answer, s, hperform, rfl⟩ := Setting.exists_perform_of_step hstep
  have hreached := of_wp_ok (hest.wp_run hctl) hperform
  exact ⟨⟨s.env.log, hreached.holds⟩, hreached.settled⟩

/-- What an operation establishes holds of the requests of the round. -/
theorem Setting.requests_reached {J : Pipeline → World → Prop}
    (hest : Establishes cfg round.pattern round.operation sys.ctl sys.fleet J)
    (hctl : sys.ctl.Settled) :
    ∃ pipeline fleet, J pipeline ⟨fleet, cfg.requests sys round⟩ := by
  have hrun := hest.wp_run hctl
  rw [Setting.requests, Setting.perform]
  cases hresult : round.operation.run cfg.params (cfg.environment round.pattern) sys.start with
  | ok answer s => exact ⟨_, s.env.fleet, (of_wp_ok hrun hresult).holds⟩
  | error failure s => exact ⟨_, s.env.fleet, (of_wp_error hrun hresult).holds⟩

/-- **Run rule.** An invariant that every round under the guard establishes again holds in
every system a run reaches. -/
theorem Setting.runs_invariant {C : System → Round → Prop} {I : Pipeline → Fleet → Prop}
    (hI : ∀ sys round, sys.ctl.Settled → I sys.ctl.toPipeline sys.fleet → C sys round →
      Establishes cfg round.pattern round.operation sys.ctl sys.fleet
        fun pipeline world => I pipeline world.fleet)
    (hrun : cfg.Runs C sys sys') (hctl : sys.ctl.Settled)
    (hstart : I sys.ctl.toPipeline sys.fleet) :
    sys'.ctl.Settled ∧ I sys'.ctl.toPipeline sys'.fleet := by
  refine hrun.invariant (I := fun sys => sys.ctl.Settled ∧ I sys.ctl.toPipeline sys.fleet)
    (fun sys round sys' hsys hC hstep => ?_) ⟨hctl, hstart⟩
  obtain ⟨⟨_, hholds⟩, hsettled⟩ :=
    Setting.step_reached (hI sys round hsys.1 hsys.2 hC) hsys.1 hstep
  exact ⟨hsettled, hholds⟩

/-- Every system a run reaches is settled. -/
theorem Setting.runs_settled {C : System → Round → Prop} (hrun : cfg.Runs C sys sys')
    (hctl : sys.ctl.Settled) : sys'.ctl.Settled := by
  refine (Setting.runs_invariant (I := fun _ _ => True) (fun sys round _ _ _ => ?_) hrun hctl
    trivial).1
  exact ⟨fun _ _ => trivial, fun _ _ _ _ _ _ _ => wp_trivial, fun _ => wp_trivial⟩

end Ros2Dispatcher
