import Ros2Dispatcher.Controller.Frame
import Ros2Dispatcher.Library.Runs

/-!
# Mode changes

`switch_mode` writes the mode and the path before it does anything that can fail, and takes
neither back. So a request that is answered with failure leaves them as they were exactly if
it got no further than the checks before, or asked for what the members are already
(`rejected_mode_unchanged_iff`).

`on_param_change` in turn writes the members only where a batch brings a mode: a path or an
auto-apply flag without one is accepted and dropped (`accepted_takes_effect`).

What a batch asks for is the last value it has for each name (`lastValue`);
`stageParameters_cases` says that the loop of `on_param_change` gathers just that.
-/

namespace Ros2Dispatcher

open Procedure

/-- The members a mode change is about. -/
structure ModeSettings where
  selectionMode : SelectionMode
  selectionFilePath : String
  autoApplyOnModeChange : Bool
deriving DecidableEq, Repr

/-- Those of a controller. -/
def Controller.modeSettings (ctl : Controller) : ModeSettings :=
  ⟨ctl.selectionMode, ctl.selectionFilePath, ctl.autoApplyOnModeChange⟩

/-- What `switch_mode` writes. -/
def ModeSettings.switched (settings : ModeSettings) (newMode : SelectionMode)
    (filePath : String) : ModeSettings :=
  { settings with
    selectionMode := newMode
    selectionFilePath := if filePath.isEmpty then settings.selectionFilePath else filePath }

/-! ### What a mode change calls -/

section Frame

variable {ω α : Type} {params : Parameters} {env : Environment ω} {settings : ModeSettings}

/-- `m` leaves the mode settings alone. -/
abbrev KeepsSettings (settings : ModeSettings) (m : Controlled ω α) : Prop :=
  KeepsMember Controller.modeSettings settings m

theorem modeSettings_outsidePipeline : OutsidePipeline Controller.modeSettings :=
  fun _ _ => rfl

theorem refreshFileSelection_keepsSettings {inferPrefix path : String} :
    KeepsSettings settings (refreshFileSelection env inferPrefix path) :=
  refreshFileSelection_keepsMember (fun _ => rfl) fun _ _ => rfl

theorem refreshAllSelection_keepsSettings :
    KeepsSettings settings (refreshAllSelection params env) :=
  refreshAllSelection_keepsMember (fun _ => rfl) fun _ _ => rfl

/-- `switch_mode` refuses in the phase `BUSY`, and otherwise has written the settings whether
it returns, fails or throws. -/
theorem wp_switchMode_settings {newMode : SelectionMode} {filePath : String} {applyNow : Bool}
    {s : NodeState ω} :
    wp (switchMode params env newMode filePath applyNow)
      (fun _ s' => s.ctl.phase ≠ .busy ∧
        s'.ctl.modeSettings = s.ctl.modeSettings.switched newMode filePath)
      (fun _ s' => s'.ctl.modeSettings = if s.ctl.phase = .busy then s.ctl.modeSettings
        else s.ctl.modeSettings.switched newMode filePath) s := by
  unfold switchMode
  rw [wp_bind, wp_members]
  refine wp_ite.mpr ⟨fun hbusy => ?_, fun hidle => ?_⟩
  · rw [wp_fail, if_pos hbusy]
  · have hcommit : ∀ selection sinkTopics applyNow,
        KeepsSettings (s.ctl.modeSettings.switched newMode filePath)
          (commitSelection params env selection sinkTopics applyNow) :=
      fun _ _ _ => commitSelection_keepsMember modeSettings_outsidePipeline
    simp only [if_neg hidle]
    rw [wp_bind, wp_update, wp_bind, wp_members]
    -- the settings are written, and what follows only has to keep them
    refine wp_mono ((?_ : KeepsSettings (s.ctl.modeSettings.switched newMode filePath) _) _ rfl)
      (fun _ _ h => ⟨hidle, h⟩) fun _ _ h => h.2
    refine .ite ?_ .pure
    cases newMode with
    | gui => exact .ite .pure (hcommit _ _ _)
    | file =>
      exact .ite (.throw trivial) (.bind refreshFileSelection_keepsSettings fun _ => hcommit _ _ _)
    | all => exact .bind refreshAllSelection_keepsSettings fun _ => hcommit _ _ _

/-! ### Rejected requests -/

/-- The mode and the path are the same. -/
def ModeSettings.SameMode (settings settings' : ModeSettings) : Prop :=
  settings'.selectionMode = settings.selectionMode ∧
    settings'.selectionFilePath = settings.selectionFilePath

/-- Switching changes neither the mode nor the path. -/
def ModeSettings.Already (settings : ModeSettings) (newMode : SelectionMode) (filePath : String) :
    Prop :=
  newMode = settings.selectionMode ∧ (filePath = "" ∨ filePath = settings.selectionFilePath)

theorem switched_sameMode_iff {newMode : SelectionMode} {filePath : String} :
    settings.SameMode (settings.switched newMode filePath) ↔
      settings.Already newMode filePath := by
  unfold ModeSettings.SameMode ModeSettings.Already ModeSettings.switched
  by_cases hempty : filePath = ""
  · simp [hempty]
  · simp [hempty]

/-- A switch that fails has left the mode and the path alone exactly if the phase was `BUSY`
or it had nothing to change. -/
theorem wp_tryCall_switchMode_settings {newMode : SelectionMode} {filePath : String}
    {applyNow : Bool} {s : NodeState ω} :
    wp (tryCall (switchMode params env newMode filePath applyNow))
      (fun answer s' => match answer with
        | .ok _ => s.ctl.phase ≠ .busy ∧
          s'.ctl.modeSettings = s.ctl.modeSettings.switched newMode filePath
        | .error _ => s.ctl.modeSettings.SameMode s'.ctl.modeSettings ↔
          s.ctl.phase = .busy ∨ s.ctl.modeSettings.Already newMode filePath)
      (fun _ _ => True) s := by
  refine wp_tryCall (wp_mono wp_switchMode_settings (fun _ _ h => h) fun e s' h => ?_)
  refine ⟨fun message _ => ?_, fun _ _ => trivial⟩
  rw [h]
  by_cases hbusy : s.ctl.phase = .busy
  · rw [if_pos hbusy]
    exact iff_of_true ⟨rfl, rfl⟩ (.inl hbusy)
  · rw [if_neg hbusy, switched_sameMode_iff]
    exact (or_iff_right hbusy).symm

end Frame

/-! ### Batches -/

/-- The value of a `selection_mode`. -/
def ParameterUpdate.mode? : ParameterUpdate → Option String
  | .selectionMode value => some value
  | .selectionFilePath _ => none
  | .autoApplyOnModeChange _ => none
  | .other _ => none

/-- The value of a `selection_file_path`. -/
def ParameterUpdate.path? : ParameterUpdate → Option String
  | .selectionMode _ => none
  | .selectionFilePath value => some value
  | .autoApplyOnModeChange _ => none
  | .other _ => none

/-- The value of an `auto_apply_on_mode_change`. -/
def ParameterUpdate.autoApply? : ParameterUpdate → Option Bool
  | .selectionMode _ => none
  | .selectionFilePath _ => none
  | .autoApplyOnModeChange value => some value
  | .other _ => none

section Batches

variable {β : Type} {value? : ParameterUpdate → Option β} {batch : List ParameterUpdate}

/-- The last value a batch has for a name. -/
def lastValue (value? : ParameterUpdate → Option β) (batch : List ParameterUpdate) : Option β :=
  (batch.filterMap value?).getLast?

theorem lastValue_nil : lastValue value? [] = none :=
  rfl

theorem lastValue_cons {parameter : ParameterUpdate} :
    lastValue value? (parameter :: batch) =
      (lastValue value? batch).or (value? parameter) := by
  unfold lastValue
  rw [List.filterMap_cons]
  cases value? parameter with
  | none => rw [Option.or_none]
  | some value =>
    rw [List.getLast?_cons]
    cases (batch.filterMap value?).getLast? <;> rfl

/-- Every mode of a batch is one of the three. -/
def ValidModes (batch : List ParameterUpdate) : Prop :=
  ∀ value ∈ batch.filterMap ParameterUpdate.mode?, parseMode value ≠ none

/-- The mode a batch asks for. -/
def lastMode (batch : List ParameterUpdate) : Option SelectionMode :=
  (lastValue ParameterUpdate.mode? batch).bind parseMode

/-- The last mode of a valid batch is one of the three. -/
theorem ValidModes.lastMode_isSome (h : ValidModes batch) :
    (lastMode batch).isSome = (lastValue ParameterUpdate.mode? batch).isSome := by
  unfold lastMode
  cases hlast : lastValue ParameterUpdate.mode? batch with
  | none => rfl
  | some value => exact Option.isSome_iff_ne_none.mpr (h value (List.mem_of_getLast? hlast))

theorem validModes_cons {parameter : ParameterUpdate} :
    ValidModes (parameter :: batch) ↔
      (∀ value, parameter.mode? = some value → parseMode value ≠ none) ∧ ValidModes batch := by
  unfold ValidModes
  rw [List.filterMap_cons]
  cases parameter.mode? with
  | none => simp
  | some value => simp

theorem ValidModes.lastMode_cons {parameter : ParameterUpdate} (h : ValidModes batch) :
    lastMode (parameter :: batch) = (lastMode batch).or (parameter.mode?.bind parseMode) := by
  have hsome := h.lastMode_isSome
  unfold lastMode at hsome ⊢
  rw [lastValue_cons]
  cases hlast : lastValue ParameterUpdate.mode? batch with
  | none => rfl
  | some value =>
    rw [hlast] at hsome
    obtain ⟨mode, hmode⟩ := Option.isSome_iff_exists.mp hsome
    rw [Option.some_or, hmode]
    rfl

/-- What a batch with valid modes adds to the staged values. -/
def StagedParameters.gather (staged : StagedParameters) (batch : List ParameterUpdate) :
    StagedParameters where
  newMode := (lastMode batch).or staged.newMode
  newFilePath := (lastValue ParameterUpdate.path? batch).getD staged.newFilePath
  requestApply := (lastValue ParameterUpdate.autoApply? batch).getD staged.requestApply
  newAutoApply := (lastValue ParameterUpdate.autoApply? batch).or staged.newAutoApply

theorem ValidModes.gather_cons {parameter : ParameterUpdate} {staged : StagedParameters}
    (h : ValidModes batch) :
    staged.gather (parameter :: batch) = (staged.gather [parameter]).gather batch := by
  have hnil : ValidModes [] := by simp [ValidModes]
  have hmode : lastMode [] = none := rfl
  simp only [StagedParameters.gather, h.lastMode_cons, hnil.lastMode_cons, hmode, lastValue_cons,
    lastValue_nil, Option.none_or, Option.or_assoc, Option.getD_or]

/-- Unless its mode is none of the three, a parameter is staged and the loop goes on. -/
theorem stageParameters_cons {parameter : ParameterUpdate} {staged : StagedParameters}
    (hvalid : ∀ value, parameter.mode? = some value → parseMode value ≠ none) :
    stageParameters (parameter :: batch) staged =
      stageParameters batch (staged.gather [parameter]) := by
  cases parameter with
  | selectionMode value =>
    obtain ⟨mode, hmode⟩ := Option.ne_none_iff_exists'.mp (hvalid value rfl)
    have hlast : lastMode [.selectionMode value] = some mode := hmode
    simp only [stageParameters, hmode, StagedParameters.gather, hlast]
    rfl
  | selectionFilePath value => rfl
  | autoApplyOnModeChange value => rfl
  | other name => rfl

/-- The loop of `on_param_change` stops at a mode that is none of the three, and otherwise
gathers the last value for each name. -/
theorem stageParameters_cases (batch : List ParameterUpdate) (staged : StagedParameters) :
    (¬ValidModes batch ∧ stageParameters batch staged = none) ∨
      (ValidModes batch ∧ stageParameters batch staged = some (staged.gather batch)) := by
  -- over the batch: what is staged so far counts for the names the rest does not have
  induction batch generalizing staged with
  | nil => exact .inr ⟨by simp [ValidModes], rfl⟩
  | cons parameter batch ih =>
    rw [validModes_cons]
    by_cases hvalid : ∀ value, parameter.mode? = some value → parseMode value ≠ none
    · rw [stageParameters_cons hvalid]
      refine (ih (staged.gather [parameter])).imp (fun h => ⟨fun h' => h.1 h'.2, h.2⟩)
        fun h => ⟨⟨hvalid, h.1⟩, ?_⟩
      rw [h.2, h.1.gather_cons]
    · refine .inl ⟨fun h => hvalid h.1, ?_⟩
      push Not at hvalid
      obtain ⟨value, hvalue, hmode⟩ := hvalid
      cases parameter with
      | selectionMode other =>
        cases hvalue
        rw [stageParameters, hmode]
      | selectionFilePath other => cases hvalue
      | autoApplyOnModeChange other => cases hvalue
      | other name => cases hvalue

end Batches

/-! ### The handlers -/

/-- The settings a batch asks for. -/
def ModeSettings.asked (settings : ModeSettings) (batch : List ParameterUpdate) : ModeSettings where
  selectionMode := (lastMode batch).getD settings.selectionMode
  selectionFilePath := (lastValue ParameterUpdate.path? batch).getD settings.selectionFilePath
  autoApplyOnModeChange :=
    (lastValue ParameterUpdate.autoApply? batch).getD settings.autoApplyOnModeChange

section Handlers

variable {ω : Type} {params : Parameters} {env : Environment ω} {s s' : NodeState ω}
variable {mode filePath : String} {applyNow : Bool} {batch : List ParameterUpdate}

/-- A `set_selection_mode` that is answered with failure leaves the mode and the path alone
exactly if the mode is none of the three, the phase is `BUSY`, or nothing is to change. -/
theorem wp_handleSetSelectionMode_settings :
    wp (handleSetSelectionMode params env mode filePath applyNow)
      (fun response s' => response.success = false →
        (s.ctl.modeSettings.SameMode s'.ctl.modeSettings ↔
          parseMode mode = none ∨ s.ctl.phase = .busy ∨
            ∃ newMode, parseMode mode = some newMode ∧
              s.ctl.modeSettings.Already newMode filePath))
      (fun _ _ => True) s := by
  unfold handleSetSelectionMode
  cases parseMode mode with
  | none => exact fun _ => iff_of_true ⟨rfl, rfl⟩ (.inl rfl)
  | some newMode =>
    simp only [Option.some_inj, exists_eq_left', reduceCtorEq, false_or]
    rw [wp_bind]
    refine wp_mono wp_tryCall_switchMode_settings (fun answer s₁ hanswer => ?_) fun _ _ _ => trivial
    cases answer with
    | error message => exact fun _ => hanswer
    | ok _ => exact fun hfalse => Bool.noConfusion hfalse

/-- What a batch that is answered leads to. An accepted one has valid modes, and writes what
it asks for if it has a mode, and nothing if not. -/
theorem wp_onParamChange_settings :
    wp (onParamChange params env batch)
      (fun response s' =>
        (response.success = false →
          (s.ctl.modeSettings.SameMode s'.ctl.modeSettings ↔
            ¬ValidModes batch ∨ s.ctl.phase = .busy ∨
              ∃ newMode, lastMode batch = some newMode ∧ s.ctl.modeSettings.Already newMode
                ((lastValue ParameterUpdate.path? batch).getD
                  s.ctl.modeSettings.selectionFilePath))) ∧
        (response.success = true → ValidModes batch ∧
          s'.ctl.modeSettings = if (lastMode batch).isSome then s.ctl.modeSettings.asked batch
            else s.ctl.modeSettings))
      (fun _ _ => True) s := by
  unfold onParamChange
  rw [wp_bind, wp_members]
  rcases stageParameters_cases batch
    ⟨none, s.ctl.selectionFilePath, s.ctl.autoApplyOnModeChange, none⟩ with
    ⟨hinvalid, hstage⟩ | ⟨hvalid, hstage⟩
  · rw [hstage]
    exact ⟨fun _ => iff_of_true ⟨rfl, rfl⟩ (.inl hinvalid), fun h => Bool.noConfusion h⟩
  · rw [hstage]
    simp only [StagedParameters.gather, Option.or_none]
    cases hmode : lastMode batch with
    -- the batch is accepted, and the staged path and flag are dropped
    | none => exact ⟨fun h => Bool.noConfusion h, fun _ => ⟨hvalid, rfl⟩⟩
    | some newMode =>
      rw [wp_bind]
      refine wp_mono wp_tryCall_switchMode_settings (fun answer s₁ hanswer => ?_)
        fun _ _ _ => trivial
      cases answer with
      | error message =>
        refine ⟨fun _ => ?_, fun h => Bool.noConfusion h⟩
        simp only [hvalid, not_true, false_or, Option.some_inj, exists_eq_left']
        exact hanswer
      | ok _ =>
        refine ⟨fun h => Bool.noConfusion h, fun _ => ⟨hvalid, ?_⟩⟩
        have hnew : s₁.ctl.selectionMode = newMode :=
          congrArg ModeSettings.selectionMode hanswer.2
        have hauto : s₁.ctl.autoApplyOnModeChange = s.ctl.autoApplyOnModeChange :=
          congrArg ModeSettings.autoApplyOnModeChange hanswer.2
        simp [Controller.modeSettings, ModeSettings.asked, hmode, hnew, hauto]

end Handlers

/-- **A rejected mode change** leaves the mode and the path as they were exactly if it got no
further than the checks, or asked for what they are already. -/
theorem rejected_mode_unchanged_iff {ω : Type} (params : Parameters) (env : Environment ω)
    (s : NodeState ω) :
    (∀ mode filePath applyNow message s',
      handleSetSelectionMode params env mode filePath applyNow s = .ok ⟨false, message⟩ s' →
        (s.ctl.modeSettings.SameMode s'.ctl.modeSettings ↔
          parseMode mode = none ∨ s.ctl.phase = .busy ∨
            ∃ newMode, parseMode mode = some newMode ∧
              s.ctl.modeSettings.Already newMode filePath)) ∧
    (∀ batch message s', onParamChange params env batch s = .ok ⟨false, message⟩ s' →
        (s.ctl.modeSettings.SameMode s'.ctl.modeSettings ↔
          ¬ValidModes batch ∨ s.ctl.phase = .busy ∨
            ∃ newMode, lastMode batch = some newMode ∧ s.ctl.modeSettings.Already newMode
              ((lastValue ParameterUpdate.path? batch).getD
                s.ctl.modeSettings.selectionFilePath))) :=
  ⟨fun _ _ _ _ _ hrun => of_wp_ok wp_handleSetSelectionMode_settings hrun rfl,
    fun _ _ _ hrun => (of_wp_ok wp_onParamChange_settings hrun).1 rfl⟩

/-- An outside that answers nothing. -/
def Environment.silent : Environment Unit where
  yaml := ⟨fun _ => none, fun _ => none, fun _ => none, none⟩
  getState _ _ := (.unavailable, ())
  changeState _ _ _ := (.unavailable, ())
  setSubscriptionsYaml _ _ _ := (.unavailable, ())
  loadNode _ _ := (.unavailable, ())
  unloadNode _ _ := (.unavailable, ())
  introspectionAvailable _ := (false, ())
  requestTopics _ := (none, ())
  setIntrospectionEnabled _ _ := (.unavailable, ())
  loadFile _ _ := .error "bad file"
  now _ := 0

/-- A mode set again with the file that cannot be read any more. -/
theorem rejected_mode_unchanged_again :
    ∃ message s', handleSetSelectionMode {} .silent "file" "/tmp/x.yaml" true
        ⟨{ selectionMode := .file, selectionFilePath := "/tmp/x.yaml" }, ()⟩ =
          .ok ⟨false, message⟩ s' ∧
      s'.ctl.selectionMode = .file ∧ s'.ctl.selectionFilePath = "/tmp/x.yaml" := by
  refine ⟨_, _, rfl, ?_⟩
  exact ((rejected_mode_unchanged_iff {} .silent
    ⟨{ selectionMode := .file, selectionFilePath := "/tmp/x.yaml" }, ()⟩).1
      "file" "/tmp/x.yaml" true _ _ rfl).mpr (.inr (.inr ⟨.file, rfl, rfl, .inr rfl⟩))

/-- A switch to a file that cannot be read is refused, and the controller is in file mode with
that file. -/
theorem rejected_mode_stays :
    ∃ message s', handleSetSelectionMode {} .silent "file" "/tmp/x.yaml" true ⟨{}, ()⟩ =
        .ok ⟨false, message⟩ s' ∧
      s'.ctl.selectionMode = .file ∧ s'.ctl.selectionFilePath = "/tmp/x.yaml" :=
  ⟨_, _, rfl, rfl, rfl⟩

/-! ### Accepted batches -/

/-- The members have the values of the batch for the names it contains, a path only if it is
not empty, and are the same for the others. -/
structure ModeSettings.Takes (settings settings' : ModeSettings) (batch : List ParameterUpdate) :
    Prop where
  selectionMode : settings'.selectionMode = (lastMode batch).getD settings.selectionMode
  selectionFilePath : lastValue ParameterUpdate.path? batch ≠ some "" →
    settings'.selectionFilePath =
      (lastValue ParameterUpdate.path? batch).getD settings.selectionFilePath
  autoApplyOnModeChange : settings'.autoApplyOnModeChange =
    (lastValue ParameterUpdate.autoApply? batch).getD settings.autoApplyOnModeChange

/-- A batch with a mode, or with nothing that is to change. -/
def ModeSettings.Effective (settings : ModeSettings) (batch : List ParameterUpdate) : Prop :=
  (lastValue ParameterUpdate.mode? batch).isSome = true ∨
    ((∀ path, lastValue ParameterUpdate.path? batch = some path →
      path = "" ∨ path = settings.selectionFilePath) ∧
    ∀ autoApply, lastValue ParameterUpdate.autoApply? batch = some autoApply →
      autoApply = settings.autoApplyOnModeChange)

/-- The parameter values of the node. -/
structure ModeParameters where
  selectionMode : String
  selectionFilePath : String
  autoApplyOnModeChange : Bool
deriving DecidableEq, Repr

/-- The values after a batch is stored. -/
def ModeParameters.store (stored : ModeParameters) (batch : List ParameterUpdate) :
    ModeParameters where
  selectionMode := (lastValue ParameterUpdate.mode? batch).getD stored.selectionMode
  selectionFilePath := (lastValue ParameterUpdate.path? batch).getD stored.selectionFilePath
  autoApplyOnModeChange :=
    (lastValue ParameterUpdate.autoApply? batch).getD stored.autoApplyOnModeChange

/-- The members are those of the parameter values. -/
structure ModeParameters.Agrees (stored : ModeParameters) (settings : ModeSettings) : Prop where
  selectionMode : parseMode stored.selectionMode = some settings.selectionMode
  selectionFilePath : stored.selectionFilePath = settings.selectionFilePath
  autoApplyOnModeChange : stored.autoApplyOnModeChange = settings.autoApplyOnModeChange

section Accepting

variable {ω : Type} {params : Parameters} {env : Environment ω}

/-- An accepted batch: the members after it, and the values that are stored. -/
def acceptBatch (params : Parameters) (env : Environment ω) (x : NodeState ω × ModeParameters)
    (batch : List ParameterUpdate) : Option (NodeState ω × ModeParameters) :=
  match onParamChange params env batch x.1 with
  | .ok ⟨true, _⟩ s' => some (s', x.2.store batch)
  | .ok ⟨false, _⟩ _ => none
  | .error _ _ => none

theorem acceptBatch_eq_some {x x' : NodeState ω × ModeParameters} {batch : List ParameterUpdate}
    (h : acceptBatch params env x batch = some x') :
    ∃ reason, onParamChange params env batch x.1 = .ok ⟨true, reason⟩ x'.1 ∧
      x'.2 = x.2.store batch := by
  unfold acceptBatch at h
  split at h
  next reason s' hrun =>
    cases h
    exact ⟨reason, hrun, rfl⟩
  next => cases h
  next => cases h

/-- An accepted batch takes effect exactly if it is effective. -/
theorem takes_iff {settings : ModeSettings} {batch : List ParameterUpdate} (h : ValidModes batch) :
    settings.Takes (if (lastMode batch).isSome then settings.asked batch else settings) batch ↔
      settings.Effective batch := by
  unfold ModeSettings.Effective
  rw [← h.lastMode_isSome]
  cases hmode : lastMode batch with
  -- with a mode everything the batch asks for is written
  | some mode =>
    refine iff_of_true ⟨?_, fun _ => rfl, rfl⟩ (.inl rfl)
    simp [ModeSettings.asked, hmode]
  -- without one nothing is, so it has to ask for what is there
  | none =>
    refine ⟨fun htakes => .inr ⟨fun path hpath => ?_, fun autoApply hauto => ?_⟩, fun heff => ?_⟩
    · by_cases hempty : path = ""
      · exact .inl hempty
      · refine .inr ?_
        have := htakes.selectionFilePath (by simp [hpath, hempty])
        simpa [hpath] using this.symm
    · have := htakes.autoApplyOnModeChange
      simpa [hauto] using this.symm
    · obtain h | ⟨hpath, hauto⟩ := heff
      · exact Bool.noConfusion h
      · refine ⟨by rw [hmode]; rfl, fun hne => ?_, ?_⟩
        · cases hlast : lastValue ParameterUpdate.path? batch with
          | none => rfl
          | some path =>
            exact ((hpath path hlast).resolve_left fun h => hne (by rw [hlast, h])).symm
        · cases hlast : lastValue ParameterUpdate.autoApply? batch with
          | none => rfl
          | some autoApply => exact (hauto autoApply hlast).symm

/-- What an accepted batch does to the members. -/
theorem modeSettings_of_accepted {s s' : NodeState ω} {batch : List ParameterUpdate}
    {reason : String} (h : onParamChange params env batch s = .ok ⟨true, reason⟩ s') :
    ValidModes batch ∧ s'.ctl.modeSettings =
      if (lastMode batch).isSome then s.ctl.modeSettings.asked batch else s.ctl.modeSettings :=
  (of_wp_ok wp_onParamChange_settings h).2 rfl

/-- Storing a batch that takes effect keeps the members those of the parameter values. -/
theorem ModeParameters.Agrees.store {stored : ModeParameters} {settings settings' : ModeSettings}
    {batch : List ParameterUpdate} (h : stored.Agrees settings) (hvalid : ValidModes batch)
    (htakes : settings.Takes settings' batch)
    (hpath : lastValue ParameterUpdate.path? batch ≠ some "") :
    (stored.store batch).Agrees settings' := by
  refine ⟨?_, ?_, ?_⟩
  · rw [htakes.selectionMode]
    have hsome := hvalid.lastMode_isSome
    unfold ModeParameters.store
    unfold lastMode at hsome ⊢
    cases hlast : lastValue ParameterUpdate.mode? batch with
    | none => exact h.selectionMode
    | some value =>
      rw [hlast] at hsome
      obtain ⟨mode, hmode⟩ := Option.isSome_iff_exists.mp hsome
      have hparse : parseMode value = some mode := hmode
      simp [hparse]
  · rw [htakes.selectionFilePath hpath, ← h.selectionFilePath]
    rfl
  · rw [htakes.autoApplyOnModeChange, ← h.autoApplyOnModeChange]
    rfl

/-- **Accepted parameters** take effect exactly if the batch has a mode or has nothing to
change. Over batches of this kind, the members stay those of the parameter values. -/
theorem accepted_takes_effect (params : Parameters) (env : Environment ω) :
    (∀ batch s reason s', onParamChange params env batch s = .ok ⟨true, reason⟩ s' →
      (s.ctl.modeSettings.Takes s'.ctl.modeSettings batch ↔
        s.ctl.modeSettings.Effective batch)) ∧
    (∀ x x', Runs (acceptBatch params env) (fun x batch =>
        x.1.ctl.modeSettings.Effective batch ∧
          lastValue ParameterUpdate.path? batch ≠ some "") x x' →
      x.2.Agrees x.1.ctl.modeSettings → x'.2.Agrees x'.1.ctl.modeSettings) := by
  have hiff : ∀ batch s reason s', onParamChange params env batch s = .ok ⟨true, reason⟩ s' →
      (s.ctl.modeSettings.Takes s'.ctl.modeSettings batch ↔
        s.ctl.modeSettings.Effective batch) := by
    intro batch s reason s' hrun
    obtain ⟨hvalid, hsettings⟩ := modeSettings_of_accepted hrun
    rw [hsettings]
    exact takes_iff hvalid
  refine ⟨hiff, fun x x' hruns => hruns.invariant
    (I := fun x : NodeState ω × ModeParameters => x.2.Agrees x.1.ctl.modeSettings) ?_⟩
  intro x batch x' hagrees hbatch hstep
  obtain ⟨reason, hrun, hstored⟩ := acceptBatch_eq_some hstep
  rw [hstored]
  exact hagrees.store (modeSettings_of_accepted hrun).1 ((hiff _ _ _ _ hrun).mpr hbatch.1)
    hbatch.2

end Accepting

/-- The mode, then the same mode with a file and no auto-apply. -/
theorem accepted_takes_effect_twice :
    ∃ x, [[.selectionMode "file"], [.selectionFilePath "/tmp/x.yaml",
        .selectionMode "file", .autoApplyOnModeChange false]].foldlM (acceptBatch {} .silent)
          (⟨{ autoApplyOnModeChange := false }, ()⟩, ⟨"gui", "", false⟩) = some x ∧
      x.2 = ⟨"file", "/tmp/x.yaml", false⟩ ∧ x.2.Agrees x.1.ctl.modeSettings := by
  refine ⟨_, rfl, rfl, ?_⟩
  refine (accepted_takes_effect {} .silent).2
    (⟨{ autoApplyOnModeChange := false }, ()⟩, ⟨"gui", "", false⟩) _ ?_ ⟨rfl, rfl, rfl⟩
  refine .tail (i := [.selectionFilePath "/tmp/x.yaml", .selectionMode "file",
    .autoApplyOnModeChange false])
    (.single (i := [.selectionMode "file"]) ⟨.inl rfl, by decide⟩ rfl) ⟨.inl rfl, by decide⟩ rfl

/-- A path that is set without a mode is accepted and dropped. -/
theorem accepted_path_dropped :
    ∃ reason s', onParamChange {} .silent [.selectionFilePath "/tmp/x.yaml"] ⟨{}, ()⟩ =
        .ok ⟨true, reason⟩ s' ∧
      s'.ctl.selectionFilePath = "" :=
  ⟨_, _, rfl, rfl⟩

end Ros2Dispatcher
