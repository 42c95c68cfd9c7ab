import Ros2Dispatcher.Controller.Phases
import Ros2Dispatcher.Fleet.Reporting

/-!
# Whether an error is explained

The phase is set to `ERROR` in one place per pipeline, and `last_error_` is written by each
handler that calls it. `handle_apply_selection`, `handle_reload_selection` and
`handle_stop_streaming` write it, with the message they answer with. The two that go through
`switch_mode`, `handle_set_selection_mode` and `on_param_change`, do not: they answer with
the message, and `get_status` goes on reporting the text of an older failure, or none.
`error_explained_iff` says that these are the only unexplained errors.
-/

namespace Ros2Dispatcher

open Procedure

/-! ### The selection a mode switch applies -/

section Switching

variable {ω : Type} (params : Parameters) (env : Environment ω)

/-- The checks between a selection and `phase_ = BUSY`. -/
def checkSelection (selection : List TopicSelection) (sinkTopics : List TopicInfo) :
    Controlled ω (Option (List TopicSelection)) := do
  (if sinkTopics.isEmpty && !selection.isEmpty then
    (fun _ => ⟨⟩) <$> ofExcept (buildTopicToolsPlan selection)
  else pure ⟨⟩)
  ofExcept (ensureTopicLimits params selection)
  pure (some selection)

/-- What `switch_mode` does before it sets `phase_ = BUSY`, where it is to apply a selection:
the selection it calls `apply_selection` with, or none if it returns without. -/
def switchSelection (newMode : SelectionMode) (filePath : String) :
    Controlled ω (Option (List TopicSelection)) := do
  let ctl ← members
  if ctl.phase = .busy then fail "Controller busy"
  else
    update fun ctl =>
      { ctl with
        selectionMode := newMode
        selectionFilePath := if filePath.isEmpty then ctl.selectionFilePath else filePath }
    let ctl ← members
    match newMode with
    | .gui =>
      if ctl.lastGuiSelection.topics.isEmpty then pure none
      else checkSelection params ctl.lastGuiSelection.topics ctl.lastGuiSelection.sinkTopics
    | .file =>
      if ctl.selectionFilePath.isEmpty then fail "selection_file_path is empty"
      else
        let (selection, sinkTopics) ← refreshFileSelection env "" ctl.selectionFilePath
        checkSelection params selection sinkTopics
    | .all =>
      let (selection, sinkTopics) ← refreshAllSelection params env
      checkSelection params selection sinkTopics

/-- The rest of `switch_mode`. -/
def applySettled : Option (List TopicSelection) → Controlled ω PUnit
  | some selection => applyInPhase params env selection
  | none => pure ⟨⟩

variable {params env} {phase : ControllerPhase} {s s' : NodeState ω}

theorem ite_bind_eq {c : Prop} [Decidable c] {α β : Type} {m n : Controlled ω α}
    {f : α → Controlled ω β} :
    (if c then m else n) >>= f = if c then m >>= f else n >>= f := by
  split <;> rfl

theorem fail_bind_eq {α β : Type} {message : String} {f : α → Controlled ω β} :
    (fail message : Controlled ω α) >>= f = fail message :=
  rfl

theorem commitSelection_eq {selection : List TopicSelection} {sinkTopics : List TopicInfo} :
    commitSelection params env selection sinkTopics true =
      checkSelection params selection sinkTopics >>= applySettled params env := by
  rw [commitSelection, checkSelection, bind_assoc]
  simp only [bind_assoc, pure_bind, applySettled, if_true]

/-- `switch_mode` settles on a selection and then applies it. -/
theorem switchMode_eq {newMode : SelectionMode} {path : String} :
    switchMode params env newMode path true =
      switchSelection params env newMode path >>= applySettled params env := by
  rw [switchMode, switchSelection, bind_assoc]
  refine bind_congr fun ctl => ?_
  rw [ite_bind_eq, fail_bind_eq, bind_assoc]
  congr 1
  refine bind_congr fun _ => ?_
  rw [bind_assoc]
  refine bind_congr fun ctl => ?_
  rw [if_pos rfl]
  cases newMode with
  | gui =>
    dsimp only
    rw [ite_bind_eq, commitSelection_eq]
    rfl
  | file =>
    dsimp only
    rw [ite_bind_eq, fail_bind_eq, bind_assoc]
    congr 1
    exact bind_congr fun _ => commitSelection_eq
  | all =>
    dsimp only
    rw [bind_assoc]
    exact bind_congr fun _ => commitSelection_eq

theorem checkSelection_lockstep {R : NodeState ω → NodeState ω → Prop}
    {selection : List TopicSelection} {sinkTopics : List TopicInfo} :
    Lockstep R (checkSelection params selection sinkTopics)
      (checkSelection params selection sinkTopics) :=
  .bind (.ite (.bind ofExcept_lockstep fun _ => .pure) .pure) fun _ =>
    .bind ofExcept_lockstep fun _ => .pure

theorem switchSelection_rephased {newMode : SelectionMode} {path : String}
    (hphase : phase ≠ .busy) (hs : s.ctl.phase ≠ .busy) :
    SameInPhase phase (switchSelection params env newMode path) s := by
  have hsim : Simulates env env (Rephased phase) := simulates_rephased
  refine SameInPhase.unlessBusy hphase hs (fun _ => rfl) (SameInPhase.of_lockstep ?_)
  refine update_lockstep (rewrites_rephased fun _ _ => rfl) ?_
  refine members_rephased (fun _ => rfl) fun ctl => ?_
  cases newMode with
  | gui => exact .ite .pure checkSelection_lockstep
  | file =>
    exact .ite fail_lockstep (.bind (hsim.refreshFileSelection (fun _ => rfl) fun _ => rfl)
      fun _ => checkSelection_lockstep)
  | all => exact .bind hsim.refreshAllSelection fun _ => checkSelection_lockstep

/-- What a failure is reported with. -/
def Controller.report (ctl : Controller) : ControllerPhase × String :=
  (ctl.phase, ctl.lastError)

/-- `m` leaves the phase and the last error alone. -/
abbrev KeepsReport (phase : ControllerPhase) (text : String) {α : Type}
    (m : Controlled ω α) : Prop :=
  KeepsMember Controller.report (phase, text) m

variable {text : String}

/-- What leaves all members but two alone. -/
theorem Leaves.keepsReport {α : Type} {m : Controlled ω α} (h : ∀ rest, Leaves rest m) :
    KeepsReport phase text m :=
  Leaves.keepsMember (fun _ => rfl) h

theorem inferMissingTypes_keepsReport {subs : List TopicSelection} :
    KeepsReport phase text (inferMissingTypes env subs) :=
  Leaves.keepsReport fun _ => inferMissingTypes_keeps

theorem checkSelection_keepsReport {selection : List TopicSelection}
    {sinkTopics : List TopicInfo} :
    KeepsReport (ω := ω) phase text (checkSelection params selection sinkTopics) := by
  have hcheck : ∀ {α : Type} {x : Except String α},
      KeepsReport (ω := ω) phase text (ofExcept x) := ofExcept_keeps fun _ _ => trivial
  exact .bind (.ite (.bind hcheck fun _ => .pure) .pure) fun _ => .bind hcheck fun _ => .pure

/-- Settling on a selection reports nothing. -/
theorem switchSelection_keepsReport {newMode : SelectionMode} {path : String} :
    KeepsReport phase text (switchSelection params env newMode path) := by
  refine .bind (fun _ hs => hs) fun ctl => .ite (.throw trivial)
    (.bind (fun _ hs => hs) fun _ => .bind (fun _ hs => hs) fun ctl => ?_)
  cases newMode with
  | gui => exact .ite .pure checkSelection_keepsReport
  | file =>
    exact .ite (.throw trivial)
      (.bind (refreshFileSelection_keepsMember (fun _ => rfl) fun _ _ => rfl)
        fun _ => checkSelection_keepsReport)
  | all =>
    exact .bind (refreshAllSelection_keepsMember (fun _ => rfl) fun _ _ => rfl)
      fun _ => checkSelection_keepsReport

/-! ### What a mode switch reports -/

/-- From `s`, the mode switch calls `apply_selection`, and that fails with `message`. -/
def ApplyFails (params : Parameters) (env : Environment ω) (newMode : SelectionMode)
    (path : String) (s : NodeState ω) (message : String) : Prop :=
  ∃ selection s₁ s₂, switchSelection params env newMode path s = .ok (some selection) s₁ ∧
    applySelection params env selection (s₁.withPhase .busy) = .error (.error message) s₂

/-- Whether `apply_selection` fails does not depend on the phase before. -/
theorem ApplyFails.withPhase {newMode : SelectionMode} {path message : String}
    (h : ApplyFails params env newMode path s message) (hphase : phase ≠ .busy)
    (hs : s.ctl.phase ≠ .busy) :
    ApplyFails params env newMode path (s.withPhase phase) message := by
  obtain ⟨selection, s₁, s₂, hselect, happly⟩ := h
  have hsame : Agrees Eq (Rephased phase) (switchSelection params env newMode path s)
      (switchSelection params env newMode path (s.withPhase phase)) :=
    switchSelection_rephased hphase hs
  rw [hselect] at hsame
  generalize hrun : switchSelection params env newMode path (s.withPhase phase) = result at hsame
  cases hsame with
  | ok hR =>
    rcases hR with rfl | rfl
    · exact ⟨selection, _, s₂, hrun, happly⟩
    · exact ⟨selection, _, s₂, hrun, happly⟩

/-- Then the phase is `ERROR`, and the last error is still the one before. -/
theorem ApplyFails.switchMode {newMode : SelectionMode} {path message : String}
    (h : ApplyFails params env newMode path s message) :
    ∃ s', switchMode params env newMode path true s = .error (.error message) s' ∧
      s'.ctl.phase = .error ∧ s'.ctl.lastError = s.ctl.lastError := by
  obtain ⟨selection, s₁, s₂, hselect, happly⟩ := h
  have hselected := of_wp_ok (switchSelection_keepsReport s rfl) hselect
  have happlied := of_wp_error (Leaves.keepsReport (fun _ => applySelection_keeps)
    (s₁.withPhase .busy) rfl) happly
  refine ⟨s₂.withPhase .error, ?_, rfl, ?_⟩
  · rw [switchMode_eq]
    rw [NodeState.withPhase] at happly
    simp only [bind, EStateM.bind, hselect, applySettled, applyInPhase, update_run, tryCall,
      attempt, happly, Failure.message?]
    rfl
  · exact (Prod.mk.inj happlied.2).2.trans (Prod.mk.inj hselected).2

/-- Started in `IDLE`, a mode switch ends in `ERROR` only if its `apply_selection` fails. -/
theorem wp_switchMode_report {newMode : SelectionMode} {path : String} {applyNow : Bool}
    (hs : s.ctl.phase = .idle) :
    wp (Ros2Dispatcher.switchMode params env newMode path applyNow)
      (fun _ s' => s'.ctl.phase = .idle)
      (fun e s' => s'.ctl.phase = .error → applyNow = true ∧
        ∃ message, e = .error message ∧ ApplyFails params env newMode path s message) s := by
  cases applyNow with
  | false =>
    rw [Ros2Dispatcher.switchMode, wp_bind, wp_members, if_neg (by rw [hs]; decide)]
    exact hs
  | true =>
    rw [switchMode_eq, wp_bind]
    refine wp_mono (wp_and wp_self (switchSelection_keepsReport s rfl))
      (fun settled s₁ hs₁ => ?_) fun e s₁ hs₁ herror => ?_
    · have hidle : s₁.ctl.phase = .idle := (Prod.mk.inj hs₁.2).1.trans hs
      cases settled with
      | none => exact hidle
      | some selection =>
        rw [applySettled, applyInPhase, wp_bind, wp_update, wp_bind]
        refine wp_tryCall (wp_mono (wp_and wp_self (applySelection_keeps _ rfl))
          (fun _ s₂ _ => rfl) fun e s₂ hs₂ => ?_)
        obtain ⟨hrun, ⟨message, rfl, -⟩, -⟩ := hs₂
        refine ⟨fun text htext _ => ⟨rfl, text, rfl, selection, s₁, s₂, hs₁.1, ?_⟩,
          fun _ h => by cases h⟩
        rwa [← htext]
    · have hidle := (Prod.mk.inj hs₁.2.2).1.trans hs
      rw [hidle] at herror
      cases herror

/-! ### The handlers, started in `IDLE` -/

/-- If the phase is `ERROR`, the response carries the last error. -/
def Explained (response : Response) (s : NodeState ω) : Prop :=
  s.ctl.phase = .error → response = ⟨false, s.ctl.lastError⟩

theorem wp_explain_explained {message : String} :
    wp (explain env message) Explained (fun _ _ => True) s :=
  fun _ => rfl

theorem Explained.of_idle {response : Response} (h : s.ctl.phase = .idle) :
    Explained response s := fun herror => by
  rw [h] at herror
  cases herror

private theorem wp_keepsReport_idle {α : Type} {m : Controlled ω α}
    (h : ∀ text, KeepsReport .idle text m) (hs : s.ctl.phase = .idle) :
    wp m (fun _ s' => s'.ctl.phase = .idle) (fun _ s' => s'.ctl.phase = .idle) s := by
  have hreport : s.ctl.report = (.idle, s.ctl.lastError) := by
    rw [Controller.report, hs]
  exact wp_mono (h _ s hreport) (fun _ _ hs' => (Prod.mk.inj hs').1)
    fun _ _ hs' => (Prod.mk.inj hs'.2).1

/-- A pipeline that succeeds ends in `IDLE`. -/
theorem wp_applyInPhase_idle {selection : List TopicSelection} :
    wp (applyInPhase params env selection) (fun _ s' => s'.ctl.phase = .idle)
      (fun _ _ => True) s := by
  rw [applyInPhase, wp_bind, wp_update, wp_bind]
  exact wp_tryCall (wp_mono wp_trivial (fun _ _ _ => rfl) fun _ _ _ =>
    ⟨fun _ _ => trivial, fun _ _ => trivial⟩)

theorem wp_commitSelection_idle {selection : List TopicSelection} {sinkTopics : List TopicInfo}
    {applyNow : Bool} (hs : s.ctl.phase = .idle) :
    wp (commitSelection params env selection sinkTopics applyNow)
      (fun _ s' => s'.ctl.phase = .idle) (fun _ _ => True) s := by
  have hlimited : wp (do
      ofExcept (ensureTopicLimits params selection)
      if applyNow then applyInPhase params env selection else pure ⟨⟩)
      (fun _ s' => s'.ctl.phase = .idle) (fun _ _ => True) s := by
    refine wp_bind.mpr (wp_ofExcept.mpr ⟨fun _ _ => ?_, fun _ _ => trivial⟩)
    exact wp_ite.mpr ⟨fun _ => wp_applyInPhase_idle, fun _ => hs⟩
  refine wp_bind.mpr (wp_ite.mpr ⟨fun _ => ?_, fun _ => hlimited⟩)
  exact wp_map.mpr (wp_ofExcept.mpr ⟨fun _ _ => hlimited, fun _ _ => trivial⟩)

/-- A failure is recorded by the caller. -/
private theorem wp_tryCall_explain {α : Type} {m : Controlled ω α}
    {k : Except String α → Controlled ω Response}
    (hm : wp m (fun a s' => wp (k (.ok a)) Explained (fun _ _ => True) s') (fun _ _ => True) s)
    (hk : ∀ message, ∃ text, k (.error message) = explain env text) :
    wp (tryCall m >>= k) Explained (fun _ _ => True) s := by
  refine wp_bind.mpr (wp_tryCall (wp_mono hm (fun _ _ hs' => hs') fun _ _ _ => ?_))
  refine ⟨fun message _ => ?_, fun _ _ => trivial⟩
  obtain ⟨text, htext⟩ := hk message
  rw [htext]
  exact wp_explain_explained

theorem wp_handleApplySelection_explained {topics : List TopicInfo}
    (hs : s.ctl.phase = .idle) :
    wp (handleApplySelection params env topics) Explained (fun _ _ => True) s := by
  rw [handleApplySelection, wp_bind, wp_members]
  refine wp_ite.mpr ⟨fun _ => .of_idle hs, fun _ => wp_ite.mpr ⟨fun _ => .of_idle hs, fun _ => ?_⟩⟩
  refine wp_tryCall_explain (wp_mono (wp_keepsReport_idle
    (fun _ => inferMissingTypes_keepsReport) hs) (fun selection s' hs' => ?_)
    fun _ _ _ => trivial) fun message => ⟨_, rfl⟩
  dsimp only
  split
  · exact wp_explain_explained
  · exact wp_tryCall_explain (wp_mono wp_applyInPhase_idle (fun _ _ hs'' => .of_idle hs'')
      fun _ _ _ => trivial) fun message => ⟨message, rfl⟩

theorem wp_handleReloadSelection_explained {path : String} {applyNow : Bool}
    (hs : s.ctl.phase = .idle) :
    wp (handleReloadSelection params env path applyNow) Explained (fun _ _ => True) s := by
  have hanswer : ∀ {m : Controlled ω PUnit},
      wp m (fun _ s' => s'.ctl.phase = .idle) (fun _ _ => True) s →
        wp (answerReload env applyNow m) Explained (fun _ _ => True) s := fun hm =>
    wp_tryCall_explain (wp_mono hm (fun _ _ hs' => .of_idle hs') fun _ _ _ => trivial)
      fun message => ⟨message, rfl⟩
  have hrefreshed : ∀ {m : Controlled ω (List TopicSelection × List TopicInfo)},
      (∀ text, KeepsReport .idle text m) →
        wp (m >>= fun settled => commitSelection params env settled.1 settled.2 applyNow)
          (fun _ s' => s'.ctl.phase = .idle) (fun _ _ => True) s := fun hm =>
    wp_bind.mpr (wp_mono (wp_keepsReport_idle hm hs)
      (fun _ _ hs' => wp_commitSelection_idle hs') fun _ _ _ => trivial)
  rw [handleReloadSelection, wp_bind, wp_members]
  refine wp_ite.mpr ⟨fun _ => .of_idle hs, fun _ => ?_⟩
  dsimp only
  split
  · exact hanswer (hrefreshed fun _ =>
      refreshFileSelection_keepsMember (fun _ => rfl) fun _ _ => rfl)
  · exact hanswer (hrefreshed fun _ =>
      refreshAllSelection_keepsMember (fun _ => rfl) fun _ _ => rfl)
  · exact wp_ite.mpr ⟨fun _ => .of_idle hs, fun _ => hanswer (wp_commitSelection_idle hs)⟩

theorem wp_handleStopStreaming_explained {reset : Bool} (hs : s.ctl.phase = .idle) :
    wp (handleStopStreaming params env reset) Explained (fun _ _ => True) s := by
  rw [handleStopStreaming, wp_bind, wp_members]
  refine wp_ite.mpr ⟨fun _ => .of_idle hs, fun _ => wp_bind.mpr (wp_tryCall ?_)⟩
  refine wp_mono wp_trivial (fun _ s' _ => ?_) fun _ s' _ => ?_
  · exact wp_bind.mpr (wp_ite.mpr ⟨fun _ => .of_idle rfl, fun _ => .of_idle rfl⟩)
  · exact ⟨fun _ _ => wp_explain_explained, fun _ _ => trivial⟩

/-- A mode switch that ends in `ERROR` answers with the failure, and records nothing. -/
theorem wp_handleSetSelectionMode_report {mode path : String} {applyNow : Bool}
    (hs : s.ctl.phase = .idle) :
    wp (handleSetSelectionMode params env mode path applyNow)
      (fun response s' => s'.ctl.phase = .error → applyNow = true ∧ ∃ newMode message,
        parseMode mode = some newMode ∧ response = ⟨false, message⟩ ∧
          ApplyFails params env newMode path s message)
      (fun _ _ => True) s := by
  unfold handleSetSelectionMode
  split
  next => exact fun herror => by rw [hs] at herror; cases herror
  next newMode hmode =>
    refine wp_bind.mpr (wp_tryCall (wp_mono (wp_switchMode_report hs) (fun _ s' hs' => ?_)
      fun e s' hs' => ⟨fun message he herror => ?_, fun _ _ => trivial⟩))
    · intro (herror : s'.ctl.phase = .error)
      rw [hs'] at herror
      cases herror
    · obtain ⟨happly, text, htext, hfails⟩ := hs' herror
      obtain rfl := Failure.error.inj (htext.symm.trans he)
      exact ⟨happly, newMode, text, hmode, rfl, hfails⟩

theorem wp_onParamChange_report {batch : List ParameterUpdate} (hs : s.ctl.phase = .idle) :
    wp (onParamChange params env batch)
      (fun response s' => s'.ctl.phase = .error → ∃ newMode path autoApply message,
        s.ctl.staged batch = some ⟨some newMode, path, true, autoApply⟩ ∧
          response = ⟨false, message⟩ ∧ ApplyFails params env newMode path s message)
      (fun _ _ => True) s := by
  have hidle : ∀ {s' : NodeState ω} {p : Prop}, s'.ctl.phase = .idle →
      s'.ctl.phase = .error → p := fun h herror => by rw [h] at herror; cases herror
  refine wp_onParamChange_staged (fun _ => hidle hs) (hidle hs)
    fun newMode path requestApply newAutoApply hstaged => ?_
  refine wp_mono (wp_switchMode_report hs) (fun _ s' hs' => hidle hs')
    fun e s' hs' => ⟨fun message he herror => ?_, fun _ _ => trivial⟩
  obtain ⟨happly, text, htext, hfails⟩ := hs' herror
  obtain rfl := Failure.error.inj (htext.symm.trans he)
  subst happly
  exact ⟨newMode, path, newAutoApply, text, hstaged, rfl, hfails⟩

/-! ### Operations -/

/-- The mode and the file path an operation switches to, where it is to apply a selection
then. -/
def Operation.modeSwitch (ctl : Controller) : Operation → Option (SelectionMode × String)
  | .setSelectionMode mode path true => (parseMode mode).map fun newMode => (newMode, path)
  | .paramChange batch =>
    match ctl.staged batch with
    | some ⟨some newMode, path, true, _⟩ => some (newMode, path)
    | _ => none
  | _ => none

theorem Operation.modeSwitch_phase {op : Operation} {ctl : Controller} :
    op.modeSwitch { ctl with phase := phase } = op.modeSwitch ctl := by
  cases op <;> rfl

/-- What an operation that is answered reports: started in `IDLE` and ended in `ERROR`, it
has recorded what it answers, or it is a mode switch whose `apply_selection` failed. -/
theorem wp_run_report {op : Operation} (hs : s.ctl.phase = .idle) :
    wp (op.run params env)
      (fun answer s' => ∀ response, answer = .response response → s'.ctl.phase = .error →
        response = ⟨false, s'.ctl.lastError⟩ ∨ ∃ newMode path message,
          op.modeSwitch s.ctl = some (newMode, path) ∧ response = ⟨false, message⟩ ∧
            ApplyFails params env newMode path s message)
      (fun _ _ => True) s := by
  have hexplained : ∀ {m : Controlled ω Response}, wp m Explained (fun _ _ => True) s →
      wp (Answer.response <$> m)
        (fun answer s' => ∀ response, answer = .response response → s'.ctl.phase = .error →
          response = ⟨false, s'.ctl.lastError⟩ ∨ ∃ newMode path message,
            op.modeSwitch s.ctl = some (newMode, path) ∧ response = ⟨false, message⟩ ∧
              ApplyFails params env newMode path s message)
        (fun _ _ => True) s := by
    intro m hm
    refine wp_map.mpr (wp_mono hm (fun response' s' hs' response hresponse herror => ?_)
      fun _ _ h => h)
    cases hresponse
    exact .inl (hs' herror)
  cases op with
  | applySelection topics => exact hexplained (wp_handleApplySelection_explained hs)
  | reloadSelection path applyNow => exact hexplained (wp_handleReloadSelection_explained hs)
  | stopStreaming reset => exact hexplained (wp_handleStopStreaming_explained hs)
  | getStatus => exact wp_map.mpr (wp_mono wp_trivial (fun _ _ _ _ => nofun) fun _ _ h => h)
  | setSelectionMode mode path applyNow =>
    refine wp_map.mpr (wp_mono (wp_handleSetSelectionMode_report hs)
      (fun response' s' hs' response hresponse herror => ?_) fun _ _ h => h)
    cases hresponse
    obtain ⟨rfl, newMode, message, hmode, hanswer, hfails⟩ := hs' herror
    refine .inr ⟨newMode, path, message, ?_, hanswer, hfails⟩
    rw [Operation.modeSwitch, hmode]
    rfl
  | paramChange batch =>
    refine wp_map.mpr (wp_mono (wp_onParamChange_report hs)
      (fun response' s' hs' response hresponse herror => ?_) fun _ _ h => h)
    cases hresponse
    obtain ⟨newMode, path, autoApply, message, hstaged, hanswer, hfails⟩ := hs' herror
    refine .inr ⟨newMode, path, message, ?_, hanswer, hfails⟩
    rw [Operation.modeSwitch, hstaged]
  | startupTimer => exact wp_map.mpr (wp_mono wp_trivial (fun _ _ _ _ => nofun) fun _ _ h => h)

/-- A mode switch whose `apply_selection` fails answers with the failure, ends in `ERROR`,
and records nothing. -/
theorem run_of_applyFails {op : Operation} {newMode : SelectionMode} {path message : String}
    (hswitch : op.modeSwitch s.ctl = some (newMode, path))
    (hfails : ApplyFails params env newMode path s message) :
    ∃ s', op.run params env s = .ok (.response ⟨false, message⟩) s' ∧
      s'.ctl.phase = .error ∧ s'.ctl.lastError = s.ctl.lastError := by
  obtain ⟨s', hrun, hphase, hlast⟩ := hfails.switchMode
  have hcaught : ∀ {Q : Except String PUnit → NodeState ω → Prop}, Q (.error message) s' →
      wp (tryCall (Ros2Dispatcher.switchMode params env newMode path true)) Q
        (fun _ _ => False) s := fun hQ =>
    wp_tryCall (wp_of_error hrun ⟨fun text htext => Failure.error.inj htext ▸ hQ, nofun⟩)
  refine ⟨s', ?_, hphase, hlast⟩
  rw [eq_ok_iff_wp]
  unfold Operation.modeSwitch at hswitch
  split at hswitch
  next mode path' =>
    obtain ⟨newMode', hmode, hpair⟩ := Option.map_eq_some_iff.mp hswitch
    cases hpair
    rw [Operation.run, handleSetSelectionMode, hmode]
    exact wp_map.mpr (wp_bind.mpr (hcaught ⟨rfl, rfl⟩))
  next batch =>
    split at hswitch
    next newMode' path' autoApply hstaged =>
      cases hswitch
      rw [Controller.staged] at hstaged
      rw [Operation.run, onParamChange, wp_map, wp_bind, wp_members, hstaged]
      exact wp_bind.mpr (hcaught ⟨rfl, rfl⟩)
    next => cases hswitch
  next => cases hswitch

end Switching

/-! ### Runs -/

section Runs

variable {cfg : Setting} {sys sys' : System} {round : Round}

/-- The round itself sets the phase to `ERROR`, and leaves it there: the phase is `ERROR`
after it even where it was `IDLE` before. -/
def Setting.SetsError (cfg : Setting) (sys : System) (round : Round) : Prop :=
  ∃ sys', cfg.step ⟨{ sys.ctl with phase := .idle }, sys.fleet⟩ round = some sys' ∧
    sys'.ctl.phase = .error

/-- An error the round sets is explained: `last_error_` is the message it answers with. -/
def Setting.Explains (cfg : Setting) (sys : System) (round : Round) : Prop :=
  cfg.SetsError sys round → ∀ sys' response, cfg.step sys round = some sys' →
    cfg.answer sys round = some (.response response) → sys'.ctl.phase = .error →
      response = ⟨false, sys'.ctl.lastError⟩

/-- The round is a mode switch whose `apply_selection` fails with `message`. -/
def Setting.SwitchFails (cfg : Setting) (sys : System) (round : Round) (message : String) :
    Prop :=
  ∃ newMode path, round.operation.modeSwitch sys.ctl = some (newMode, path) ∧
    ApplyFails cfg.params (cfg.environment round.pattern) newMode path sys.start message

theorem Setting.step_and_answer_of_perform {answer : Answer} {s : NodeState World}
    (h : cfg.perform sys round = .ok answer s) :
    cfg.step sys round = some ⟨s.ctl, s.env.fleet⟩ ∧ cfg.answer sys round = some answer := by
  rw [Setting.step, Setting.answer, h]
  exact ⟨rfl, rfl⟩

/-- A round that sets the phase to `ERROR` does the same from `IDLE`. -/
theorem Setting.SetsError.perform_eq (h : cfg.SetsError sys round)
    (hsys : sys.ctl.phase ≠ .busy) (hop : round.operation ≠ .getStatus) :
    cfg.perform ⟨{ sys.ctl with phase := .idle }, sys.fleet⟩ round = cfg.perform sys round := by
  obtain ⟨sys', hstep, herror⟩ := h
  obtain ⟨answer, s', hperform, rfl⟩ := Setting.exists_perform_of_step hstep
  have hsame : Agrees Eq (Rephased .idle) (cfg.perform sys round)
      (cfg.perform ⟨{ sys.ctl with phase := .idle }, sys.fleet⟩ round) :=
    Operation.run_rephased (by decide) hsys hop
  rw [hperform] at hsame ⊢
  generalize cfg.perform sys round = result at hsame ⊢
  cases hsame with
  | ok hR =>
    rcases hR with rfl | rfl
    · -- the phase would still be the one before
      cases herror
    · rfl

/-- **Explained errors.** In every run, an operation that sets the phase to `ERROR` records
the message it answers with, exactly if it is not a mode switch whose `apply_selection`
fails with another message than the one recorded before. -/
theorem error_explained_iff {mode filePath : String} {autoApply : Bool} {fleet : Fleet}
    (hrun : cfg.Runs (fun _ _ => True) (.boot mode filePath autoApply fleet) sys)
    (round : Round) :
    cfg.Explains sys round ↔
      ∀ message, cfg.SwitchFails sys round message → sys.ctl.lastError = message := by
  have hready : sys.ctl.phase ≠ .busy :=
    (Setting.runs_settled hrun Controller.initial_settled).ready
  constructor
  · rintro hexplains message ⟨newMode, path, hswitch, hfails⟩
    obtain ⟨s', hperform, herror, hlast⟩ := run_of_applyFails hswitch hfails
    obtain ⟨s₀, hperform₀, herror₀, -⟩ := run_of_applyFails
      (s := sys.start.withPhase .idle) (Operation.modeSwitch_phase.trans hswitch)
      (hfails.withPhase (by decide) hready)
    have hidle : cfg.perform ⟨{ sys.ctl with phase := .idle }, sys.fleet⟩ round =
        .ok (.response ⟨false, message⟩) s₀ := hperform₀
    have hsets : cfg.SetsError sys round :=
      ⟨_, (Setting.step_and_answer_of_perform hidle).1, herror₀⟩
    obtain ⟨hstep, hanswer⟩ := Setting.step_and_answer_of_perform hperform
    have hresponse := hexplains hsets _ _ hstep hanswer herror
    exact hlast.symm.trans (congrArg Response.message hresponse).symm
  · intro hguard hsets sys' response hstep hanswer herror
    obtain ⟨answer, s', hperform, rfl⟩ := Setting.exists_perform_of_step hstep
    obtain rfl : answer = .response response := by
      rw [Setting.answer, hperform] at hanswer
      exact Option.some.inj hanswer
    have hop : round.operation ≠ .getStatus := fun hop =>
      of_wp_ok (Q := fun answer _ => answer ≠ .response response) (E := fun _ _ => True)
        (by
          rw [hop]
          exact wp_map.mpr (wp_mono wp_trivial (fun _ _ _ h => by cases h) fun _ _ h => h))
        hperform rfl
    -- the same run, started in `IDLE`
    have hidle := hsets.perform_eq hready hop
    rw [hperform] at hidle
    have hreport := of_wp_ok (wp_run_report (s := sys.start.withPhase .idle) rfl) hidle
    rcases hreport response rfl herror with
      hresponse | ⟨newMode, path, message, hswitch, rfl, hfails⟩
    · exact hresponse
    · have hswitch' : round.operation.modeSwitch sys.ctl = some (newMode, path) :=
        Operation.modeSwitch_phase.symm.trans hswitch
      have hfails' : ApplyFails cfg.params (cfg.environment round.pattern) newMode path sys.start
          message := hfails.withPhase hready ControllerPhase.noConfusion
      obtain ⟨s'', hperform', -, hlast⟩ := run_of_applyFails hswitch' hfails'
      obtain rfl : s'' = s' := (EStateM.Result.ok.inj (hperform'.symm.trans hperform)).2
      rw [hlast, show sys.start.ctl.lastError = message from
        hguard message ⟨newMode, path, hswitch', hfails'⟩]

/-- A failed `apply_selection` request is explained. -/
theorem error_explained_apply :
    ∃ sys, Setting.default.step (.boot "gui" "" true .fresh)
        { Round.applying "/a" with pattern := .only (.getState .kafka) .unavailable } = some sys ∧
      sys.ctl.phase = .error ∧ sys.ctl.lastError = "Unable to get kafka_sink state" ∧
      Setting.default.Explains (.boot "gui" "" true .fresh)
        { Round.applying "/a" with pattern := .only (.getState .kafka) .unavailable } := by
  obtain ⟨sys, hstep, hreport⟩ := Option.map_eq_some_iff.mp (show
    (Setting.default.step (.boot "gui" "" true .fresh)
      { Round.applying "/a" with pattern := .only (.getState .kafka) .unavailable }).map
        (fun sys => (sys.ctl.phase, sys.ctl.lastError)) =
      some (.error, "Unable to get kafka_sink state") by decide +kernel)
  obtain ⟨hphase, hlast⟩ := Prod.mk.inj hreport
  refine ⟨sys, hstep, hphase, hlast, (error_explained_iff .refl _).mpr ?_⟩
  rintro message ⟨newMode, path, hswitch, -⟩
  cases hswitch

/-- Switch to file mode while kafka_sink does not answer. -/
def Round.switchUnheard : Round where
  operation := .setSelectionMode "file" "/selection.yaml" true
  pattern := { Pattern.only (.getState .kafka) .unavailable with
    files := fun _ => .ok (.sequence [throttledEntry "/a"]) }

/-- A failed mode switch leaves the phase `ERROR` and the last error empty. -/
theorem switch_error_unexplained :
    ∃ sys, Setting.default.step (.boot "gui" "" true .fresh) .switchUnheard = some sys ∧
      sys.ctl.phase = .error ∧ sys.ctl.lastError = "" ∧
      ¬Setting.default.Explains (.boot "gui" "" true .fresh) .switchUnheard := by
  obtain ⟨sys, hstep, hreport⟩ := Option.map_eq_some_iff.mp (show
    (Setting.default.step (.boot "gui" "" true .fresh) .switchUnheard).map
      (fun sys => (sys.ctl.phase, sys.ctl.lastError)) = some (.error, "") by decide +kernel)
  obtain ⟨hphase, hlast⟩ := Prod.mk.inj hreport
  have hanswer : Setting.default.answer (.boot "gui" "" true .fresh) .switchUnheard =
      some (.response ⟨false, "Unable to get kafka_sink state"⟩) := by
    decide +kernel
  refine ⟨sys, hstep, hphase, hlast, fun hexplains => ?_⟩
  have hresponse := hexplains ⟨sys, hstep, hphase⟩ sys _ hstep hanswer hphase
  rw [hlast] at hresponse
  exact absurd hresponse (by decide)

end Runs

end Ros2Dispatcher
