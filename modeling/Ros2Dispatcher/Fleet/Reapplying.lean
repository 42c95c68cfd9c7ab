import Ros2Dispatcher.Controller.Simulation
import Ros2Dispatcher.Controller.Transcript
import Ros2Dispatcher.Fleet.World

/-!
# Reloading a selection is switching to the current mode

Asking the controller to reload and apply the selection of its mode, and asking it to switch
to the mode it is in and apply, are written as two pipelines (`Transcript`). They are one
operation: from the same state they make the same requests in the same order, whatever the
answers, report success alike, and leave the same members behind, but for the times and for
the text of a failure, which only a reload stores (`reload_agrees_setSelectionMode`).

The two may run at different times, so each has a clock of its own, and the requests are
written down by the environment itself, which otherwise is arbitrary.
-/

namespace Ros2Dispatcher

open Procedure

variable {ω α : Type}

/-! ### What is compared -/

/-- The snapshot without its time. -/
def SelectionSnapshot.timeless (snapshot : SelectionSnapshot) : SelectionSnapshot :=
  { snapshot with timestamp := 0 }

/-- The members without their times, and without the last error. -/
def Controller.timeless (ctl : Controller) : Controller :=
  { ctl with
    appliedSelection := ctl.appliedSelection.timeless
    lastGuiSelection := ctl.lastGuiSelection.timeless
    lastFileSelection := ctl.lastFileSelection.timeless
    lastAllSelection := ctl.lastAllSelection.timeless
    lastError := ""
    lastErrorStamp := 0 }

/-- The same requests were made, with the same answers, and the members are the same up to
times and the last error. -/
structure SameButTimes (s t : NodeState ω) : Prop where
  env : s.env = t.env
  ctl : s.ctl.timeless = t.ctl.timeless

section Proof

variable {params : Parameters} {env : Environment ω} {clock clock' : ω × List Rpc → Time}

namespace SameButTimes

protected theorem refl (s : NodeState ω) : SameButTimes s s :=
  ⟨rfl, rfl⟩

theorem alike {f : ω → α × ω} : Alike SameButTimes f f := fun _ _ h =>
  ⟨congrArg (fun w => (f w).1) h.env, congrArg (fun w => (f w).2) h.env, h.ctl⟩

/-- Writing members by functions that differ in times at most. -/
theorem rewrites {f f' : ω → Controller → Controller} (g : Controller → Controller)
    (hf : ∀ w ctl, (f w ctl).timeless = g ctl.timeless)
    (hf' : ∀ w ctl, (f' w ctl).timeless = g ctl.timeless) :
    Rewrites SameButTimes f f' := fun s t h =>
  ⟨h.env, by rw [hf, hf', h.ctl]⟩

/-- The controller carries the relation along, at any two times. -/
theorem simulates :
    Simulates (env.recording clock) (env.recording clock') SameButTimes where
  getState _ := alike
  changeState _ _ := alike
  setSubscriptionsYaml _ _ := alike
  loadNode _ := alike
  unloadNode _ := alike
  introspectionAvailable := alike
  requestTopics := alike
  introspectionEnabled _ := alike
  loadFile path s t h := by rw [h.env]; rfl
  tools s t h := by
    change s.ctl.timeless.activeTopicTools = t.ctl.timeless.activeTopicTools
    rw [h.ctl]
  setTools change := rewrites (fun ctl => { ctl with
    activeTopicTools := change ctl.activeTopicTools }) (fun _ _ => rfl) fun _ _ => rfl
  setPhase phase := rewrites (fun ctl => { ctl with phase }) (fun _ _ => rfl) fun _ _ => rfl
  record topics sinkTopics := rewrites (fun ctl => { ctl with
    appliedSelection := ⟨topics, sinkTopics, 0⟩ }) (fun _ _ => rfl) fun _ _ => rfl
  cacheFile topics sinkTopics := rewrites (fun ctl => { ctl with
    lastFileSelection := ⟨topics, sinkTopics, 0⟩ }) (fun _ _ => rfl) fun _ _ => rfl
  cacheAll topics sinkTopics := rewrites (fun ctl => { ctl with
    lastAllSelection := ⟨topics, sinkTopics, 0⟩ }) (fun _ _ => rfl) fun _ _ => rfl

end SameButTimes

/-! ### The selection of the current mode -/

/-- What both do between their guards and their answers, from the members `ctl`. -/
def reapply (params : Parameters) (env : Environment ω) (inferPrefix : String)
    (ctl : Controller) : Controlled ω PUnit :=
  match ctl.selectionMode with
  | .gui =>
    commitSelection params env ctl.lastGuiSelection.topics ctl.lastGuiSelection.sinkTopics true
  | .file => do
    let (selection, sinkTopics) ← refreshFileSelection env inferPrefix ctl.selectionFilePath
    commitSelection params env selection sinkTopics true
  | .all => do
    let (selection, sinkTopics) ← refreshAllSelection params env
    commitSelection params env selection sinkTopics true

section Guards

variable {s : NodeState ω} (hphase : s.ctl.phase ≠ .busy)
  (hgui : s.ctl.selectionMode = .gui → s.ctl.lastGuiSelection.topics ≠ [])
include hphase hgui

/-- A reload without a path. -/
theorem handleReloadSelection_reapply :
    handleReloadSelection params env "" true s =
      answerReload env true (reapply params env "Failed to infer types: " s.ctl) s := by
  have hrun : ∀ k : Controller → Controlled ω Response,
      (members >>= fun ctl => if ctl.phase = .busy then pure ⟨false, "Controller busy"⟩
        else k ctl) s = k s.ctl s := fun k => congrFun (if_neg hphase) s
  rw [handleReloadSelection, hrun, reapply]
  cases hmode : s.ctl.selectionMode with
  | file => rfl
  | all => rfl
  | gui =>
    dsimp only
    rw [if_neg (by simpa using hgui hmode)]

/-- A switch to the current mode without a path. -/
theorem switchMode_reapply :
    switchMode params env s.ctl.selectionMode "" true s = reapply params env "" s.ctl s := by
  have hrun : ∀ k : Controller → Controlled ω PUnit,
      (members >>= fun ctl => if ctl.phase = .busy then fail "Controller busy" else k ctl) s =
        k s.ctl s := fun k => congrFun (if_neg hphase) s
  have hwrite : ∀ k : Controller → Controlled ω PUnit,
      (update (fun ctl =>
        { ctl with
          selectionMode := s.ctl.selectionMode
          selectionFilePath := if "".isEmpty then ctl.selectionFilePath else "" }) >>=
        fun _ => members >>= k) s = k s.ctl s := fun _ => rfl
  rw [switchMode, hrun, hwrite, if_pos rfl, reapply]
  cases hmode : s.ctl.selectionMode with
  | file =>
    dsimp only
    split
    next hpath =>
      -- `load_file_selection` refuses an empty path with the same text
      rw [String.isEmpty_iff.mp hpath]
      rfl
    next => rfl
  | all => rfl
  | gui =>
    dsimp only
    rw [if_neg (by simpa using hgui hmode)]

end Guards

/-- Failures that look the same to a caller who only sees whether there was one. -/
def SameToCaller (failure failure' : Failure) : Prop :=
  failure = failure' ∨ failure.IsReported ∧ failure'.IsReported

/-- At any two times, the steps between guard and answer agree up to the prefix of a failed
type inference. -/
theorem reapply_related {pre pre' : String} {ctl : Controller} :
    Related SameToCaller SameButTimes (reapply params (env.recording clock) pre ctl)
      (reapply params (env.recording clock') pre' ctl) := by
  have hsim : Simulates (env.recording clock) (env.recording clock') SameButTimes :=
    SameButTimes.simulates
  have hcommit : ∀ selection sinkTopics, Related SameToCaller SameButTimes
      (commitSelection params (env.recording clock) selection sinkTopics true)
      (commitSelection params (env.recording clock') selection sinkTopics true) :=
    fun _ _ => hsim.commitSelection.mono fun _ _ => .inl
  unfold reapply
  cases ctl.selectionMode with
  | gui => exact hcommit _ _
  | file =>
    exact .bind (hsim.refreshFileSelection (fun _ => .inl rfl) fun _ =>
      .inr ⟨⟨_, rfl⟩, ⟨_, rfl⟩⟩) fun _ => hcommit _ _
  | all => exact .bind (hsim.refreshAllSelection.mono fun _ _ => .inl) fun _ => hcommit _ _

/-- Exceptions reach no caller, and are the same on both sides. -/
theorem SameToCaller.caught {failure failure' : Failure} (h : SameToCaller failure failure') :
    (∃ message message', failure.message? = some message ∧ failure'.message? = some message') ∨
      failure = failure' ∧ failure.message? = none := by
  rcases h with rfl | ⟨⟨message, rfl⟩, ⟨message', rfl⟩⟩
  · cases failure with
    | error message => exact .inl ⟨message, message, rfl, rfl⟩
    | thrown what => exact .inr ⟨rfl, rfl⟩
  · exact .inl ⟨message, message', rfl, rfl⟩

/-- **Reloading is switching to the current mode.** In every state in which the controller is
not busy and, in gui mode, has a selection to apply, and in every environment, the two make
the same requests, succeed alike, and leave the same members, up to times and the last
error. -/
theorem reload_agrees_setSelectionMode {params : Parameters} {env : Environment ω}
    {clock clock' : ω × List Rpc → Time} {s : NodeState (ω × List Rpc)}
    (hphase : s.ctl.phase ≠ .busy)
    (hgui : s.ctl.selectionMode = .gui → s.ctl.lastGuiSelection.topics ≠ []) :
    Agrees Eq SameButTimes
      ((Response.success <$>
        Transcript.handleReloadSelection params (env.recording clock) "" true) s)
      ((Response.success <$>
        Transcript.handleSetSelectionMode params (env.recording clock')
          (modeToString s.ctl.selectionMode) "" true) s) := by
  have hbodies : Agrees SameToCaller SameButTimes
      (reapply params (env.recording clock) "Failed to infer types: " s.ctl s)
      (reapply params (env.recording clock') "" s.ctl s) := reapply_related s s (.refl s)
  rw [← switchMode_reapply hphase hgui] at hbodies
  have hreload : (Response.success <$>
      handleReloadSelection params (env.recording clock) "" true) s =
      (Response.success <$> answerReload (env.recording clock) true
        (reapply params (env.recording clock) "Failed to infer types: " s.ctl)) s := by
    simp only [Functor.map, EStateM.map, handleReloadSelection_reapply hphase hgui]
  rw [Transcript.handleReloadSelection_eq, Transcript.handleSetSelectionMode_eq, hreload,
    handleSetSelectionMode, parseMode_modeToString, answerReload, map_bind]
  dsimp only
  rw [map_bind]
  refine hbodies.attempt_bind (fun _ _ => SameToCaller.caught) (fun _ _ _ _ h => ?_)
    fun _ _ _ h => .ok h
  -- the reload stores the text, the switch does not
  exact .ok ⟨h.env, h.ctl⟩

/-- Both apply the cached gui selection to freshly started sinks, with nine requests. -/
theorem reload_agrees_setSelectionMode_gui :
    ∃ s : NodeState (World × List Rpc),
      (∃ t, (Response.success <$> Transcript.handleReloadSelection Setting.default.params
        ((Setting.default.environment {}).recording fun _ => 1) "" true) s = .ok true t ∧
          t.env.2.length = 9) ∧
      Agrees Eq SameButTimes
        ((Response.success <$> Transcript.handleReloadSelection Setting.default.params
          ((Setting.default.environment {}).recording fun _ => 1) "" true) s)
        ((Response.success <$> Transcript.handleSetSelectionMode Setting.default.params
          ((Setting.default.environment {}).recording fun _ => 2)
            (modeToString s.ctl.selectionMode) "" true) s) := by
  let s : NodeState (World × List Rpc) :=
    ⟨{ lastGuiSelection := { topics := [{ topic := ⟨"/a", "std_msgs/msg/String"⟩ }] } },
      ⟨.fresh, []⟩, []⟩
  refine ⟨s, ?_, reload_agrees_setSelectionMode nofun fun _ => List.cons_ne_nil _ _⟩
  have hrun : (match (Response.success <$> Transcript.handleReloadSelection
      Setting.default.params ((Setting.default.environment {}).recording fun _ => 1) "" true) s with
    | .ok success t => some (success, t.env.2.length)
    | .error _ _ => none) = some (true, 9) := by decide +kernel
  split at hrun
  next success t hresult =>
    obtain ⟨rfl, hlength⟩ := Prod.mk.inj (Option.some.inj hrun)
    exact ⟨t, hresult, hlength⟩
  next => cases hrun

end Proof

end Ros2Dispatcher
