import Ros2Dispatcher.Controller.Frame

/-!
# How operations end

An operation refuses with a message or ends in an exception only where one of the procedures
below it does, and it is then the procedure's message, or an own one around it. So a property
`Φ` of failures that the pipeline has (`Covers`), and the size check and the loader
(`CoversChecks`), is one of every refusal and exception of every operation
(`Operation.run_yields`).

The refusal of a busy controller is the one message that depends on the phase. It satisfies
`Φ` if the phase is `BUSY` only where `Φ` has it (`BusyIs`), which every operation preserves:
whatever sets `BUSY` leaves it again, since `apply_selection` does not throw.
-/

namespace Ros2Dispatcher

open Procedure

variable {ω α β : Type} {params : Parameters} {env : Environment ω} {Φ : Failure → Prop}
variable {s : NodeState ω}

/-- The failures of the size check and of the loader satisfy `Φ`. -/
structure CoversChecks (params : Parameters) (env : Environment ω) (Φ : Failure → Prop) :
    Prop where
  limit : ∀ selection message, ensureTopicLimits params selection = .error message →
    Φ (.error message)
  file : ∀ path w failure, loadFileSelection env.yaml path (env.loadFile path w) =
    .error failure → Φ failure

/-- The node is busy only if the refusal of a busy controller satisfies `Φ`. -/
def BusyIs (Φ : Failure → Prop) (s : NodeState ω) : Prop :=
  s.ctl.phase = .busy → Φ (.error "Controller busy")

/-- The refusals among the answers satisfy `Φ`, and so does that of a busy controller if one is
reported. -/
def Answer.Within (Φ : Failure → Prop) : Answer → Prop
  | .response r => r.success = false → Φ (.error r.message)
  | .status st => st.reconciling = true → Φ (.error "Controller busy")
  | .nothing => True

/-! ### Rules -/

/-- What holds of every node withstands every request. -/
theorem true_respects : Respects env (fun _ => True) (fun _ => True) :=
  respects_of_members (R := fun _ => True) (fun _ _ h => h) fun _ _ h => h

theorem busyIs_respects : Respects env (fun _ => True) (BusyIs Φ) :=
  respects_of_members (R := fun ctl => ctl.phase = .busy → Φ (.error "Controller busy"))
    (fun _ _ h => h) fun _ _ h => h

/-- A message that is handed on satisfies `Φ`. -/
theorem yields_tryCall {P : NodeState ω → Prop} {Q : α → Prop} {m : Controlled ω β}
    {k : Except String β → Controlled ω α} (hm : Keeps Φ P m)
    (herror : ∀ message, Φ (.error message) → Yields Φ P Q (k (.error message)))
    (hok : ∀ b, Yields Φ P Q (k (.ok b))) : Yields Φ P Q (tryCall m >>= k) := by
  refine .attempt_bind hm (fun failure _ hfailure hcaught => ?_) hok
  cases failure with
  | error message =>
    cases hcaught
    exact herror _ hfailure
  | thrown what => cases hcaught

theorem keeps_tryCall {P : NodeState ω → Prop} {m : Controlled ω β}
    {k : Except String β → Controlled ω α} (hm : Keeps Φ P m)
    (herror : ∀ message, Φ (.error message) → Keeps Φ P (k (.error message)))
    (hok : ∀ b, Keeps Φ P (k (.ok b))) : Keeps Φ P (tryCall m >>= k) :=
  yields_true.mp (yields_tryCall hm (fun message h => yields_true.mpr (herror message h))
    fun b => yields_true.mpr (hok b))

theorem members_keeps : Keeps Φ (BusyIs Φ) (members : Controlled ω Controller) :=
  fun _ h => h

/-- Writing members other than the phase. -/
theorem update_keeps {f : Controller → Controller} (hf : ∀ ctl, (f ctl).phase = ctl.phase) :
    Keeps Φ (BusyIs Φ) (update f : Controlled ω PUnit) := fun s h hbusy =>
  h ((hf s.ctl).symm.trans hbusy)

/-- Leaving the phase `BUSY`. -/
theorem leaveBusy_keeps {f : Controller → Controller} (hf : ∀ ctl, (f ctl).phase ≠ .busy) :
    Keeps Φ (BusyIs Φ) (update f : Controlled ω PUnit) := fun s _ hbusy =>
  absurd hbusy (hf s.ctl)

/-- The guard at the start of the handlers. -/
theorem yields_unlessBusy {Q : α → Prop} {refuse : Controlled ω α}
    {k : Controller → Controlled ω α}
    (hrefuse : Φ (.error "Controller busy") → Yields Φ (BusyIs Φ) Q refuse)
    (hk : ∀ ctl, Yields Φ (BusyIs Φ) Q (k ctl)) :
    Yields Φ (BusyIs Φ) Q (members >>= fun ctl => if ctl.phase = .busy then refuse else k ctl) :=
  fun s hs => wp_bind.mpr (wp_ite.mpr
    ⟨fun hbusy => hrefuse (hs hbusy) s hs, fun _ => hk s.ctl s hs⟩)

section Procedures

variable [Covers Φ]

theorem inferMissingTypes_keepsFree {subs : List TopicSelection} :
    Keeps Φ (BusyIs Φ) (inferMissingTypes env subs) := fun _ hs =>
  wp_mono (busyIs_respects.inferMissingTypes trivial hs) (fun _ _ h => h.2) fun _ _ h => h

/-- The phase is `BUSY` while `apply_selection` runs, and not any more when it has returned or
failed. -/
theorem applyInPhase_keepsFree {selection : List TopicSelection} :
    Keeps Φ (BusyIs Φ) (applyInPhase params env selection) := by
  intro s _
  have happly : Keeps (fun failure => Φ failure ∧ failure.IsReported) (fun _ => True)
      (applySelection params env selection) :=
    (true_respects.applySelection trivial).and (true_respects.applySelection trivial)
  rw [applyInPhase, wp_bind, wp_update, wp_bind]
  refine wp_tryCall (wp_mono (happly _ trivial) (fun _ s' _ hbusy => by cases hbusy) ?_)
  rintro failure s' ⟨⟨hfailure, message, rfl⟩, -⟩
  refine ⟨fun text htext => ?_, fun _ h => by cases h⟩
  cases htext
  exact ⟨hfailure, fun hbusy => by cases hbusy⟩

theorem commitSelection_keepsFree (h : CoversChecks params env Φ)
    {selection : List TopicSelection} {sinkTopics : List TopicInfo} {applyNow : Bool} :
    Keeps Φ (BusyIs Φ) (commitSelection params env selection sinkTopics applyNow) :=
  .bind (.ite (.bind buildTopicToolsPlan_preserves fun _ => .pure) .pure) fun _ =>
    .bind (ofExcept_keeps (h.limit selection)) fun _ => .ite applyInPhase_keepsFree .pure

theorem refreshFileSelection_keepsFree (h : CoversChecks params env Φ) {inferPrefix path : String}
    (hwrapped : ∀ message, Φ (.error message) → Φ (.error (inferPrefix ++ message))) :
    Keeps Φ (BusyIs Φ) (refreshFileSelection env inferPrefix path) := by
  have hread : Keeps Φ (BusyIs Φ) (readSelectionFile env path) := by
    intro s hs
    refine wp_ofFailure.mpr ⟨fun _ _ => hs, fun failure hfailure => ?_⟩
    exact ⟨h.file path s.env failure hfailure, hs⟩
  refine .bind hread fun loaded => keeps_tryCall inferMissingTypes_keepsFree
    (fun message hmessage => .throw (hwrapped message hmessage)) fun selection => ?_
  exact .bind buildTopicToolsPlan_preserves fun plan => .bind now_preserves fun _ =>
    .bind (update_keeps fun _ => rfl) fun _ => .pure

theorem refreshAllSelection_keepsFree (h : CoversChecks params env Φ) :
    Keeps Φ (BusyIs Φ) (refreshAllSelection params env) :=
  .bind (busyIs_respects.discoverAllTopics h.limit) fun _ =>
    .bind buildTopicToolsPlan_preserves fun _ => .bind now_preserves fun _ =>
      .bind (update_keeps fun _ => rfl) fun _ => .pure

/-- `switch_mode`. -/
theorem switchMode_keepsFree (h : CoversChecks params env Φ) {mode : SelectionMode}
    {path : String} {applyNow : Bool} :
    Keeps Φ (BusyIs Φ) (switchMode params env mode path applyNow) := by
  refine yields_true.mp (yields_unlessBusy (fun hbusy => yields_true.mpr (.throw hbusy))
    fun ctl => yields_true.mpr ?_)
  refine .bind (update_keeps fun _ => rfl) fun _ => .bind members_keeps fun ctl => .ite ?_ .pure
  cases mode with
  | gui => exact .ite .pure (commitSelection_keepsFree h)
  | file =>
    refine .ite (fail_preserves (.text (by decide)))
      (.bind (refreshFileSelection_keepsFree h fun message hmessage => ?_) fun _ =>
        commitSelection_keepsFree h)
    rwa [String.empty_append]
  | all => exact .bind (refreshAllSelection_keepsFree h) fun _ => commitSelection_keepsFree h

end Procedures

/-! ### Handlers -/

section Handlers

/-- `m` answers within `Φ`. -/
abbrev Responds (Φ : Failure → Prop) (m : Controlled ω Response) : Prop :=
  Yields Φ (BusyIs Φ) (fun r => r.success = false → Φ (.error r.message)) m

theorem accept_responds {message : String} :
    Responds Φ (pure ⟨true, message⟩ : Controlled ω Response) :=
  .pure fun h => by cases h

theorem refuse_responds {message : String} (h : Φ (.error message)) :
    Responds Φ (pure ⟨false, message⟩ : Controlled ω Response) :=
  .pure fun _ => h

theorem explain_responds {message : String} (h : Φ (.error message)) :
    Responds Φ (explain env message) :=
  .bind now_preserves fun _ => .bind (update_keeps fun _ => rfl) fun _ => refuse_responds h

theorem answerReload_responds {applyNow : Bool} {m : Controlled ω PUnit}
    (hm : Keeps Φ (BusyIs Φ) m) : Responds Φ (answerReload env applyNow m) :=
  yields_tryCall hm (fun _ => explain_responds) fun _ => accept_responds

theorem handleGetStatus_yields : Yields Φ (BusyIs Φ)
    (fun status => status.reconciling = true → Φ (.error "Controller busy"))
    (handleGetStatus params env) :=
  .bind busyIs_respects.getSinkState fun _ =>
    .bind (.ite .pure busyIs_respects.getSinkState) fun _ _ hs =>
      ⟨fun hbusy => hs (of_decide_eq_true hbusy), hs⟩

variable [Covers Φ]

/-- A refusal with a text of the handler itself. -/
theorem plain_responds {message : String} (h : PlainText message) :
    Responds Φ (pure ⟨false, message⟩ : Controlled ω Response) :=
  refuse_responds (Covers.plain _ h)

theorem handleApplySelection_responds (h : CoversChecks params env Φ) {topics : List TopicInfo} :
    Responds Φ (handleApplySelection params env topics) := by
  refine yields_unlessBusy refuse_responds fun ctl =>
    .ite (plain_responds (.text (by decide))) ?_
  refine yields_tryCall inferMissingTypes_keepsFree
    (fun message _ => explain_responds (Covers.plain _ (PlainText.text (by decide)).append))
    fun selection => ?_
  dsimp only
  cases hlimit : ensureTopicLimits params selection with
  | error message => exact explain_responds (h.limit _ _ hlimit)
  | ok _ =>
    exact yields_tryCall applyInPhase_keepsFree (fun message => explain_responds) fun _ =>
      .bind now_preserves fun _ => .bind (update_keeps fun _ => rfl) fun _ => accept_responds

theorem handleReloadSelection_responds (h : CoversChecks params env Φ) {path : String}
    {applyNow : Bool} : Responds Φ (handleReloadSelection params env path applyNow) := by
  refine yields_unlessBusy refuse_responds fun ctl => ?_
  cases ctl.selectionMode with
  | gui =>
    exact .ite (plain_responds (.text (by decide)))
      (answerReload_responds (commitSelection_keepsFree h))
  | file =>
    exact answerReload_responds (.bind (refreshFileSelection_keepsFree h fun message _ =>
      Covers.plain _ (PlainText.text (by decide)).append) fun _ => commitSelection_keepsFree h)
  | all =>
    exact answerReload_responds (.bind (refreshAllSelection_keepsFree h) fun _ =>
      commitSelection_keepsFree h)

theorem handleStopStreaming_responds {resetCached : Bool} :
    Responds Φ (handleStopStreaming params env resetCached) := by
  refine yields_unlessBusy refuse_responds fun ctl =>
    yields_tryCall busyIs_respects.stopPipeline (fun message hmessage => ?_) fun _ => ?_
  · exact .bind (leaveBusy_keeps fun _ => by simp) fun _ => explain_responds hmessage
  · exact .bind (.ite (update_keeps fun _ => rfl) .pure) fun _ =>
      .bind (leaveBusy_keeps fun _ => by simp) fun _ => accept_responds

theorem handleSetSelectionMode_responds (h : CoversChecks params env Φ) {mode path : String}
    {applyNow : Bool} : Responds Φ (handleSetSelectionMode params env mode path applyNow) := by
  unfold handleSetSelectionMode
  cases parseMode mode with
  | none => exact plain_responds (.text (by decide))
  | some newMode =>
    exact yields_tryCall (switchMode_keepsFree h) (fun _ => refuse_responds) fun _ =>
      .bind (update_keeps fun _ => rfl) fun _ => accept_responds

theorem onParamChange_responds (h : CoversChecks params env Φ) {batch : List ParameterUpdate} :
    Responds Φ (onParamChange params env batch) := by
  refine .bind members_keeps fun ctl => ?_
  cases stageParameters batch ⟨none, ctl.selectionFilePath, ctl.autoApplyOnModeChange, none⟩ with
  | none => exact plain_responds (.text (by decide))
  | some staged =>
    dsimp only
    cases staged.newMode with
    | none => exact accept_responds
    | some newMode =>
      exact yields_tryCall (switchMode_keepsFree h) (fun _ => refuse_responds) fun _ =>
        .bind (update_keeps fun _ => rfl) fun _ => accept_responds

theorem onStartupTimer_keepsFree (h : CoversChecks params env Φ) :
    Keeps Φ (BusyIs Φ) (onStartupTimer params env) := by
  have happly : Keeps Φ (BusyIs Φ) (startupApply params env) := by
    refine .bind members_keeps fun ctl => .ite .pure (.ite .pure (.ite .pure
      (keeps_tryCall (switchMode_keepsFree h) (fun message hmessage => ?_) fun _ => .pure)))
    exact yields_true.mp ((explain_responds hmessage).map fun _ _ => trivial)
  exact .bind members_keeps fun ctl =>
    .ite (.bind happly fun _ => update_keeps fun _ => rfl) .pure

/-- **Outcomes.** Every operation answers and fails within `Φ`. -/
theorem Operation.run_yields (h : CoversChecks params env Φ) (op : Operation) :
    Yields Φ (BusyIs Φ) (Answer.Within Φ) (op.run params env) := by
  cases op with
  | applySelection topics => exact (handleApplySelection_responds h).map fun _ hr => hr
  | reloadSelection path applyNow => exact (handleReloadSelection_responds h).map fun _ hr => hr
  | stopStreaming resetCached => exact handleStopStreaming_responds.map fun _ hr => hr
  | getStatus => exact handleGetStatus_yields.map fun _ hstatus => hstatus
  | setSelectionMode mode path applyNow =>
    exact (handleSetSelectionMode_responds h).map fun _ hr => hr
  | paramChange batch => exact (onParamChange_responds h).map fun _ hr => hr
  | startupTimer =>
    exact (yields_true.mpr (onStartupTimer_keepsFree h)).map fun _ _ => trivial

end Handlers

end Ros2Dispatcher
