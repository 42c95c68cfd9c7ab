import Ros2Dispatcher.Fleet.Holdings

/-!
# The topic limit

`all_mode_max_topics` is checked with `ensure_topic_limits` in four places: by
`handle_apply_selection` before anything is applied or cached, by `discover_all_topics`
before its result is cached, and by `handle_reload_selection` and `switch_mode` after they
have cached what they loaded from a file. So a file with too many entries is refused with
the limit error and remembered all the same. Where no operation gets such a file
(`Setting.Fits`), every selection the controller holds is within the limit, and an operation
that fails with the limit error leaves them all as they were (`snapshots_limited`).
-/

namespace Ros2Dispatcher

open Procedure

/-- Within the limit. -/
def Parameters.Within (params : Parameters) (selection : List TopicSelection) : Prop :=
  selection.length ≤ params.allModeMaxTopics

/-- A selection file the operation gets as far as caching is within the limit. -/
def Setting.Fits (cfg : Setting) (sys : System) (round : Round) : Prop :=
  ∀ path loaded selection plan, round.operation.loadedFile sys.ctl = some path →
    loadFileSelection cfg.yaml path (round.pattern.files path) = .ok loaded →
    round.pattern.Infers loaded selection → buildTopicToolsPlan selection = .ok plan →
    cfg.params.Within selection

/-- The round is answered with the limit error. -/
def Setting.LimitError (cfg : Setting) (sys : System) (round : Round) : Prop :=
  ∃ selection message, ensureTopicLimits cfg.params selection = .error message ∧
    cfg.answer sys round = some (.response ⟨false, message⟩)

/-! ### What an operation takes in -/

section Admission

variable {cfg : Setting} {sys : System} {round : Round} {params : Parameters}

theorem ensureTopicLimits_ok_iff {selection : List TopicSelection} :
    ensureTopicLimits params selection = .ok () ↔ params.Within selection := by
  unfold ensureTopicLimits Parameters.Within
  split
  next h => exact iff_of_false nofun (Nat.not_le.mpr h)
  next h => exact iff_of_true rfl (Nat.not_lt.mp h)

theorem completeTypes_length {answer : List TopicInfo} {subs completed : List TopicSelection}
    (h : completeTypes answer subs = .ok completed) : completed.length = subs.length := by
  obtain ⟨_, rfl⟩ := completeTypes_ok_iff.mp h
  exact List.length_map _

/-- All but an oversized file is checked before it is cached. -/
theorem Setting.Fits.admits (h : cfg.Fits sys round) :
    Admits cfg round.pattern round.operation sys.ctl cfg.params.Within fun _ => True where
  empty := Nat.zero_le _
  completed answer selection completed hwithin hcompleted := by
    rwa [Parameters.Within, completeTypes_length hcompleted]
  sendable _ _ := trivial
  requested _ _ _ _ _ hlimit := ensureTopicLimits_ok_iff.mp hlimit
  discovered _ hlimit := ensureTopicLimits_ok_iff.mp hlimit
  loaded := h

end Admission

/-! ### What the limit error leaves alone -/

section Handlers

variable {cfg : Setting} {pattern : Pattern} {op : Operation} {ctl : Controller}
variable {fleet : Fleet} {s : NodeState World} {before : List SelectionSnapshot}

/-- If the failure is the limit error, the snapshots are still those of `before`. -/
def SparedBy (before : List SelectionSnapshot) (failure : Failure) (s : NodeState World) : Prop :=
  ∀ message, failure = .error message → ¬OwnText message → s.ctl.snapshots = before

/-- If the response is the limit error, the snapshots are still those of `before`. -/
def SparedWith (before : List SelectionSnapshot) (response : Response) (s : NodeState World) :
    Prop :=
  response.success = false → ¬OwnText response.message → s.ctl.snapshots = before

theorem SparedBy.of_isOwn {failure : Failure} (h : failure.IsOwn) : SparedBy before failure s := by
  obtain ⟨message, rfl, hown⟩ := h
  intro text htext hlimit
  cases htext
  exact absurd hown hlimit

theorem wp_applyInPhase_isOwn {selection : List TopicSelection} :
    wp (applyInPhase cfg.params (cfg.environment pattern) selection) (fun _ _ => True)
      (fun failure _ => failure.IsOwn) s := by
  rw [applyInPhase, wp_bind, wp_update, wp_bind]
  refine wp_tryCall (wp_mono (applySelection_keeps _ rfl) (fun _ _ _ => trivial) ?_)
  rintro _ s' ⟨⟨message, rfl, hown⟩, -⟩
  refine ⟨fun text htext => ?_, fun _ h => by cases h⟩
  cases htext
  exact ⟨message, rfl, hown⟩

/-- Within the limit, committing to a selection fails for other reasons. -/
theorem wp_commitSelection_isOwn {selection : List TopicSelection} {sinkTopics : List TopicInfo}
    {applyNow : Bool} (h : cfg.params.Within selection) :
    wp (commitSelection cfg.params (cfg.environment pattern) selection sinkTopics applyNow)
      (fun _ _ => True) (fun failure _ => failure.IsOwn) s := by
  have hlimited : wp (do
      ofExcept (ensureTopicLimits cfg.params selection)
      if applyNow then applyInPhase cfg.params (cfg.environment pattern) selection
      else pure ⟨⟩) (fun _ _ => True) (fun failure _ => failure.IsOwn) s := by
    rw [ensureTopicLimits_ok_iff.mpr h]
    exact wp_ite.mpr ⟨fun _ => wp_applyInPhase_isOwn, fun _ => trivial⟩
  refine wp_bind.mpr (wp_ite.mpr ⟨fun _ => wp_map.mpr ?_, fun _ => hlimited⟩)
  exact wp_ofExcept.mpr ⟨fun _ _ => hlimited, fun message herror =>
    ⟨message, rfl, buildTopicToolsPlan_text herror⟩⟩

/-- A file that cannot be used is not cached. -/
theorem wp_refreshFileSelection_error {inferPrefix path : String} :
    wp (refreshFileSelection (cfg.environment pattern) inferPrefix path) (fun _ _ => True)
      (fun _ s' => s'.ctl = s.ctl) s := by
  rw [refreshFileSelection, wp_bind]
  refine wp_ofFailure.mpr ⟨fun loaded _ => ?_, fun _ _ => rfl⟩
  rw [wp_bind]
  refine wp_tryCall (wp_inferMissingTypes (fun selection s' hs' _ => ?_)
    fun _ s' hs' _ => ⟨fun _ _ => hs'.ctl, fun _ h => by cases h⟩)
  exact wp_bind.mpr (wp_ofExcept.mpr ⟨fun _ _ => trivial, fun _ _ => hs'.ctl⟩)

theorem wp_refreshAllSelection_error :
    wp (refreshAllSelection cfg.params (cfg.environment pattern)) (fun _ _ => True)
      (fun _ s' => s'.ctl = s.ctl) s := by
  rw [refreshAllSelection, wp_bind]
  refine wp_discoverAllTopics (fun _ s' hs' _ => ?_) fun _ s' hs' => hs'.ctl
  exact wp_bind.mpr (wp_ofExcept.mpr ⟨fun _ _ => trivial, fun _ _ => hs'.ctl⟩)

/-- `m` fails with the limit error only before it has written a snapshot. -/
abbrev SparesOnLimit (before : List SelectionSnapshot) {α : Type} (m : Controlled World α)
    (s : NodeState World) : Prop :=
  wp m (fun _ _ => True) (SparedBy before) s

section Admitted

variable (h : Admits cfg pattern op ctl cfg.params.Within fun _ => True)
include h

theorem fileSelection_spared {inferPrefix path : String} {applyNow : Bool}
    (hpath : op.loadedFile ctl = some path) (hlog : s.env.log = [])
    (hs : Holding cfg.params.Within (fun _ => True) s) (hbefore : s.ctl.snapshots = before) :
    SparesOnLimit before (do
      let (selection, sinkTopics) ←
        refreshFileSelection (cfg.environment pattern) inferPrefix path
      commitSelection cfg.params (cfg.environment pattern) selection sinkTopics applyNow) s := by
  refine wp_bind.mpr (wp_mono (wp_and (h.refreshFileSelection hpath hlog hs)
    wp_refreshFileSelection_error) (fun result s' hs' => ?_) fun e s' hs' => ?_)
  · exact wp_mono (wp_commitSelection_isOwn hs'.1.1) (fun _ _ _ => trivial) fun _ _ => .of_isOwn
  · exact fun _ _ _ => (congrArg Controller.snapshots hs'.2).trans hbefore

theorem allSelection_spared {applyNow : Bool}
    (hs : Holding cfg.params.Within (fun _ => True) s) (hbefore : s.ctl.snapshots = before) :
    SparesOnLimit before (do
      let (selection, sinkTopics) ← refreshAllSelection cfg.params (cfg.environment pattern)
      commitSelection cfg.params (cfg.environment pattern) selection sinkTopics applyNow) s := by
  refine wp_bind.mpr (wp_mono (wp_and (h.refreshAllSelection hs)
    wp_refreshAllSelection_error) (fun result s' hs' => ?_) fun e s' hs' => ?_)
  · exact wp_mono (wp_commitSelection_isOwn hs'.1.1) (fun _ _ _ => trivial) fun _ _ => .of_isOwn
  · exact fun _ _ _ => (congrArg Controller.snapshots hs'.2).trans hbefore

end Admitted

theorem guiSelection_spared {applyNow : Bool} (hctl : ctl.Holds cfg.params.Within) :
    SparesOnLimit before (commitSelection cfg.params (cfg.environment pattern)
      ctl.lastGuiSelection.topics ctl.lastGuiSelection.sinkTopics applyNow) s :=
  wp_mono (wp_commitSelection_isOwn (Controller.holds_iff.mp hctl).1) (fun _ _ _ => trivial)
    fun _ _ => .of_isOwn

theorem switchMode_spared (h : Admits cfg pattern op ctl cfg.params.Within fun _ => True)
    (hctl : ctl.Holds cfg.params.Within) {newMode : SelectionMode} {path : String}
    {applyNow : Bool}
    (hfile : applyNow = true → newMode = .file → op.loadedFile ctl = some (ctl.filePath path)) :
    SparesOnLimit ctl.snapshots
      (switchMode cfg.params (cfg.environment pattern) newMode path applyNow)
      ⟨ctl, ⟨fleet, []⟩⟩ := by
  have hstart : Holding cfg.params.Within (fun _ => True) ⟨ctl, ⟨fleet, []⟩⟩ := .start hctl
  have hswitched := hstart.write (f := fun ctl => { ctl with
    selectionMode := newMode, selectionFilePath := ctl.filePath path }) rfl
  rw [SparesOnLimit, switchMode, wp_bind, wp_members]
  refine wp_ite.mpr ⟨fun _ _ _ _ => rfl, fun _ => ?_⟩
  rw [wp_bind, wp_update, wp_bind, wp_members]
  refine wp_ite.mpr ⟨fun happly => ?_, fun _ => trivial⟩
  cases newMode with
  | gui => exact wp_ite.mpr ⟨fun _ => trivial, fun _ => guiSelection_spared hctl⟩
  | file =>
    exact wp_ite.mpr ⟨fun _ _ _ _ => rfl, fun _ =>
      fileSelection_spared h (hfile happly rfl) rfl hswitched rfl⟩
  | all => exact allSelection_spared h hswitched rfl

/-- The handler's response, if it is the limit error, leaves the snapshots alone. -/
abbrev AnswersSparing (before : List SelectionSnapshot) (m : Controlled World Response)
    (s : NodeState World) : Prop :=
  wp m (SparedWith before) (fun _ _ => True) s

theorem wp_explain_spared {message : String} (h : ¬OwnText message → s.ctl.snapshots = before) :
    AnswersSparing before (explain (cfg.environment pattern) message) s := fun _ hlimit =>
  h hlimit

/-- A caller that reports a failure as it is. -/
theorem AnswersSparing.tryCall {α : Type} {m : Controlled World α}
    {k : Except String α → Controlled World Response} (hm : SparesOnLimit before m s)
    (herror : ∀ message s', (¬OwnText message → s'.ctl.snapshots = before) →
      AnswersSparing before (k (.error message)) s')
    (hok : ∀ a s', AnswersSparing before (k (.ok a)) s') :
    AnswersSparing before (tryCall m >>= k) s := by
  refine wp_bind.mpr (wp_tryCall (wp_mono hm (fun a s' _ => hok a s') fun e s' he => ?_))
  exact ⟨fun message hmessage => herror message s' (he message hmessage), fun _ _ => trivial⟩

theorem handleApplySelection_spared {topics : List TopicInfo} :
    AnswersSparing ctl.snapshots
      (handleApplySelection cfg.params (cfg.environment pattern) topics)
      ⟨ctl, ⟨fleet, []⟩⟩ := by
  rw [AnswersSparing, handleApplySelection, wp_bind, wp_members]
  refine wp_ite.mpr ⟨fun _ _ _ => rfl, fun _ => wp_ite.mpr ⟨fun _ _ _ => rfl, fun _ => ?_⟩⟩
  rw [wp_bind]
  refine wp_tryCall (wp_inferMissingTypes (fun selection s' hs' _ => ?_)
    fun message s' hs' _ => ⟨fun _ _ => ?_, fun _ h => by cases h⟩)
  · dsimp only
    split
    next => exact wp_explain_spared fun _ => congrArg Controller.snapshots hs'.ctl
    next =>
      refine AnswersSparing.tryCall (wp_mono wp_applyInPhase_isOwn (fun _ _ _ => trivial)
        fun _ _ => .of_isOwn) (fun message s'' h => wp_explain_spared h) fun _ _ => ?_
      exact fun hfailed => by cases hfailed
  · exact wp_explain_spared fun _ => congrArg Controller.snapshots hs'.ctl

theorem answerReload_spared {applyNow : Bool} {m : Controlled World PUnit}
    (hm : SparesOnLimit before m s) :
    AnswersSparing before (answerReload (cfg.environment pattern) applyNow m) s :=
  .tryCall hm (fun _ _ => wp_explain_spared) fun _ _ hfailed => by cases hfailed

theorem handleReloadSelection_spared {path : String} {applyNow : Bool}
    (h : Admits cfg pattern (.reloadSelection path applyNow) ctl cfg.params.Within
      fun _ => True) (hctl : ctl.Holds cfg.params.Within) :
    AnswersSparing ctl.snapshots
      (handleReloadSelection cfg.params (cfg.environment pattern) path applyNow)
      ⟨ctl, ⟨fleet, []⟩⟩ := by
  rw [AnswersSparing, handleReloadSelection, wp_bind, wp_members]
  refine wp_ite.mpr ⟨fun _ _ _ => rfl, fun _ => ?_⟩
  dsimp only
  split
  next hmode =>
    exact answerReload_spared (fileSelection_spared h (if_pos hmode) rfl (.start hctl) rfl)
  next => exact answerReload_spared (allSelection_spared h (.start hctl) rfl)
  next =>
    exact wp_ite.mpr ⟨fun _ _ _ => rfl, fun _ => answerReload_spared (guiSelection_spared hctl)⟩

theorem handleStopStreaming_spared {reset : Bool} :
    AnswersSparing ctl.snapshots
      (handleStopStreaming cfg.params (cfg.environment pattern) reset) ⟨ctl, ⟨fleet, []⟩⟩ := by
  rw [AnswersSparing, handleStopStreaming, wp_bind, wp_members]
  refine wp_ite.mpr ⟨fun _ _ _ => rfl, fun _ => wp_bind.mpr ?_⟩
  refine wp_tryCall (wp_mono (stopPipeline_keeps _ rfl) (fun _ _ _ => ?_) ?_)
  · refine wp_bind.mpr (wp_ite.mpr ⟨fun _ hfailed => ?_, fun _ hfailed => ?_⟩)
    · cases hfailed
    · cases hfailed
  · rintro _ s' ⟨⟨message, rfl, hown⟩, -⟩
    refine ⟨fun text htext => ?_, fun _ _ => trivial⟩
    cases htext
    exact wp_explain_spared fun hlimit => absurd hown hlimit

theorem handleSetSelectionMode_spared {mode path : String} {applyNow : Bool}
    (h : Admits cfg pattern (.setSelectionMode mode path applyNow) ctl cfg.params.Within
      fun _ => True) (hctl : ctl.Holds cfg.params.Within) :
    AnswersSparing ctl.snapshots
      (handleSetSelectionMode cfg.params (cfg.environment pattern) mode path applyNow)
      ⟨ctl, ⟨fleet, []⟩⟩ := by
  unfold handleSetSelectionMode
  split
  next => exact fun _ _ => rfl
  next newMode hmode =>
    exact .tryCall (switchMode_spared h hctl fun happly hnew => if_pos ⟨hnew ▸ hmode, happly⟩)
      (fun _ _ hspared _ => hspared) fun _ _ hfailed => by cases hfailed

theorem onParamChange_spared {batch : List ParameterUpdate}
    (h : Admits cfg pattern (.paramChange batch) ctl cfg.params.Within fun _ => True)
    (hctl : ctl.Holds cfg.params.Within) :
    AnswersSparing ctl.snapshots (onParamChange cfg.params (cfg.environment pattern) batch)
      ⟨ctl, ⟨fleet, []⟩⟩ := by
  refine wp_onParamChange_staged (fun _ _ _ => rfl) (fun _ _ => rfl)
    fun newMode path requestApply newAutoApply hstaged => ?_
  refine wp_mono (switchMode_spared h hctl fun happly hnew => ?_)
    (fun _ _ _ hfailed => by cases hfailed)
    fun e s' hspared => ⟨fun message he _ => hspared message he, fun _ _ => trivial⟩
  simp [Operation.loadedFile, Operation.appliedFile, hstaged, happly, hnew]

/-- Whatever the operation, the limit error leaves all selections alone. -/
theorem wp_run_spared (h : Admits cfg pattern op ctl cfg.params.Within fun _ => True)
    (hctl : ctl.Holds cfg.params.Within) :
    wp (op.run cfg.params (cfg.environment pattern))
      (fun answer s => ∀ response, answer = .response response →
        SparedWith ctl.snapshots response s) (fun _ _ => True) ⟨ctl, ⟨fleet, []⟩⟩ := by
  have hanswer : ∀ {m : Controlled World Response},
      AnswersSparing ctl.snapshots m ⟨ctl, ⟨fleet, []⟩⟩ →
      wp (Answer.response <$> m) (fun answer s => ∀ response, answer = .response response →
        SparedWith ctl.snapshots response s) (fun _ _ => True) ⟨ctl, ⟨fleet, []⟩⟩ := fun hm =>
    wp_map.mpr (wp_mono hm (fun _ _ hs _ hresponse => Answer.response.inj hresponse ▸ hs)
      fun _ _ hs => hs)
  cases op with
  | applySelection topics => exact hanswer handleApplySelection_spared
  | reloadSelection path applyNow => exact hanswer (handleReloadSelection_spared h hctl)
  | stopStreaming reset => exact hanswer handleStopStreaming_spared
  | getStatus =>
    exact wp_map.mpr (wp_mono wp_trivial (fun _ _ _ _ h => by cases h) fun _ _ h => h)
  | setSelectionMode mode path applyNow => exact hanswer (handleSetSelectionMode_spared h hctl)
  | paramChange batch => exact hanswer (onParamChange_spared h hctl)
  | startupTimer =>
    exact wp_map.mpr (wp_mono wp_trivial (fun _ _ _ _ h => by cases h) fun _ _ h => h)

end Handlers

/-! ### Every run -/

section Runs

variable {cfg : Setting} {sys sys' : System} {round : Round}

/-- **The limit.** In every run in which no operation gets as far as caching an oversized
file, every selection the controller holds is within the limit, and a further such operation
that is answered with the limit error leaves all of them as they were. -/
theorem snapshots_limited {mode filePath : String} {autoApply : Bool} {fleet : Fleet}
    (hrun : cfg.Runs cfg.Fits (.boot mode filePath autoApply fleet) sys) :
    sys.ctl.Holds cfg.params.Within ∧ ∀ round sys', cfg.Fits sys round →
      cfg.step sys round = some sys' → cfg.LimitError sys round →
        sys'.ctl.snapshots = sys.ctl.snapshots := by
  have hheld : sys.ctl.Holds cfg.params.Within :=
    hrun.invariant (I := fun sys => sys.ctl.Holds cfg.params.Within)
      (fun _ _ _ hsys hfits hstep => Setting.step_holds hfits.admits hsys hstep)
      (Controller.initial_holds (Nat.zero_le _))
  refine ⟨hheld, fun round sys' hfits hstep ⟨selection, message, hlimit, hanswer⟩ => ?_⟩
  obtain ⟨answer, s, hperform, rfl⟩ := Setting.exists_perform_of_step hstep
  rw [Setting.answer, hperform] at hanswer
  exact of_wp_ok (wp_run_spared hfits.admits hheld) hperform _ (Option.some.inj hanswer) rfl
    (ensureTopicLimits_text hlimit)

/-- One topic is allowed. -/
def Setting.single : Setting :=
  { Setting.default with params := { allModeMaxTopics := 1 } }

/-- Reload a file with a throttled entry for each topic, without applying it. -/
def Round.reloading (topics : List String) : Round :=
  { Round.throttling topics with operation := .reloadSelection "" false }

theorem fits_reloading_single (sys : System) : Setting.single.Fits sys (.reloading ["/a"]) := by
  intro path loaded selection plan _ hloaded hinfers _
  have hlength : loaded.length = 1 := by
    have hentry : ([throttledEntry "/a"].mapM (loadEntry .words)).toOption.map List.length =
        some 1 := by decide +kernel
    change loadFileSelection .words path (.ok (.sequence [throttledEntry "/a"])) = _ at hloaded
    unfold loadFileSelection at hloaded
    split at hloaded
    · cases hloaded
    · rw [show [throttledEntry "/a"].mapM (loadEntry .words) = .ok loaded from hloaded] at hentry
      exact Option.some.inj hentry
  rcases inferWith_ok hinfers.2 with rfl | rfl
  · exact Nat.le_of_eq hlength
  · rw [Parameters.Within, List.length_map]
    exact Nat.le_of_eq hlength

/-- A file with one entry is cached, and that is all that is held. -/
theorem snapshots_limited_single :
    ∃ sys, Setting.single.step (.boot "file" "/selection.yaml" false .fresh)
        (.reloading ["/a"]) = some sys ∧
      sys.ctl.lastFileSelection.topics.length = 1 ∧
      sys.ctl.Holds Setting.single.params.Within := by
  obtain ⟨sys, hstep, hlength⟩ := Option.map_eq_some_iff.mp (show
    (Setting.single.step (.boot "file" "/selection.yaml" false .fresh) (.reloading ["/a"])).map
      (fun sys => sys.ctl.lastFileSelection.topics.length) = some 1 by decide +kernel)
  exact ⟨sys, hstep, hlength,
    (snapshots_limited (.single (fits_reloading_single _) hstep)).1⟩

/-- A file with two entries is refused with the limit error, and cached. -/
theorem oversized_file_cached :
    ∃ sys, Setting.single.step (.boot "file" "/selection.yaml" false .fresh)
        (.reloading ["/a", "/b"]) = some sys ∧
      Setting.single.LimitError (.boot "file" "/selection.yaml" false .fresh)
        (.reloading ["/a", "/b"]) ∧
      ¬sys.ctl.Holds Setting.single.params.Within := by
  obtain ⟨sys, hstep, hlength⟩ := Option.map_eq_some_iff.mp (show
    (Setting.single.step (.boot "file" "/selection.yaml" false .fresh)
      (.reloading ["/a", "/b"])).map
      (fun sys => sys.ctl.lastFileSelection.topics.length) = some 2 by decide +kernel)
  have hanswer : Setting.single.answer (.boot "file" "/selection.yaml" false .fresh)
      (.reloading ["/a", "/b"]) =
      some (.response ⟨false, "Selection exceeds safety limit (2 > 1)"⟩) := by decide +kernel
  refine ⟨sys, hstep, ⟨[{ topic := ⟨"/a", "T"⟩ }, { topic := ⟨"/b", "T"⟩ }], _, rfl, hanswer⟩,
    fun hheld => ?_⟩
  have hwithin := (Controller.holds_iff.mp hheld).2.1
  rw [Parameters.Within, hlength] at hwithin
  exact absurd hwithin (by decide)

end Runs

end Ros2Dispatcher
