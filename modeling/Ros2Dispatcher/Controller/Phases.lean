import Ros2Dispatcher.Controller.Simulation

/-!
# Which handlers look at the phase

Every handler refuses to run while the phase is `BUSY`, and none tells `IDLE` and `ERROR`
apart: started in either, an operation makes the same requests and gives the same answer,
and the two nodes afterwards differ in the phase at most, namely where the operation has not
set it (`Operation.run_rephased`). So an operation itself sets the phase to `ERROR` exactly
if, started in `IDLE`, it ends in `ERROR`.
-/

namespace Ros2Dispatcher

open Procedure

variable {ω α : Type} {params : Parameters} {env : Environment ω} {phase : ControllerPhase}

/-- The node in another phase. -/
def NodeState.withPhase (phase : ControllerPhase) (s : NodeState ω) : NodeState ω :=
  { s with ctl := { s.ctl with phase := phase } }

/-- The second node is the first one in the phase `phase`, or in its own. -/
def Rephased (phase : ControllerPhase) (s t : NodeState ω) : Prop :=
  t = s.withPhase phase ∨ t = s

/-- Writing other members, without a look at the phase. -/
theorem rewrites_rephased {f : ω → Controller → Controller}
    (hf : ∀ w ctl, f w { ctl with phase := phase } = { f w ctl with phase := phase }) :
    Rewrites (Rephased phase) f f := by
  rintro s t (rfl | rfl)
  · refine .inl ?_
    rw [NodeState.withPhase, NodeState.withPhase, hf]
  · exact .inr rfl

/-- Writing the phase makes the nodes equal. -/
theorem setPhase_rephased {f : ω → Controller → Controller}
    (hf : ∀ w ctl, f w { ctl with phase := phase } = f w ctl) :
    Rewrites (Rephased phase) f f := by
  rintro s t (rfl | rfl)
  · refine .inr ?_
    rw [NodeState.withPhase, hf]
  · exact .inr rfl

theorem alike_rephased {f : ω → α × ω} : Alike (Rephased phase) f f := by
  rintro s t (rfl | rfl)
  · exact ⟨rfl, .inl rfl⟩
  · exact ⟨rfl, .inr rfl⟩

/-- The controller carries the relation along. -/
theorem simulates_rephased : Simulates env env (Rephased phase) where
  getState _ := alike_rephased
  changeState _ _ := alike_rephased
  setSubscriptionsYaml _ _ := alike_rephased
  loadNode _ := alike_rephased
  unloadNode _ := alike_rephased
  introspectionAvailable := alike_rephased
  requestTopics := alike_rephased
  introspectionEnabled _ := alike_rephased
  loadFile := by rintro path s t (rfl | rfl) <;> rfl
  tools := by rintro s t (rfl | rfl) <;> rfl
  setTools _ := rewrites_rephased fun _ _ => rfl
  setPhase _ := setPhase_rephased fun _ _ => rfl
  record _ _ := rewrites_rephased fun _ _ => rfl
  cacheFile _ _ := rewrites_rephased fun _ _ => rfl
  cacheAll _ _ := rewrites_rephased fun _ _ => rfl

/-- Reading members other than the phase. -/
theorem members_rephased {k : Controller → Controlled ω α}
    (hk : ∀ ctl, k { ctl with phase := phase } = k ctl)
    (h : ∀ ctl, Lockstep (Rephased phase) (k ctl) (k ctl)) :
    Lockstep (Rephased phase) (members >>= k) (members >>= k) := by
  rintro s t (rfl | rfl)
  · have hrun := h s.ctl s (s.withPhase phase) (.inl rfl)
    rwa [show k s.ctl (s.withPhase phase) = (members >>= k) (s.withPhase phase) from
      (congrFun (hk s.ctl) _).symm] at hrun
  · exact h t.ctl t t (.inr rfl)

theorem explain_rephased {message : String} :
    Lockstep (Rephased phase) (explain env message) (explain env message) :=
  stamp_lockstep (rewrites_rephased fun _ _ => rfl) .pure

/-! ### Handlers -/

section Handlers

/-- `m` does the same in another phase. -/
abbrev SameInPhase (phase : ControllerPhase) (m : Controlled ω α) (s : NodeState ω) : Prop :=
  Agrees Eq (Rephased phase) (m s) (m (s.withPhase phase))

variable {s : NodeState ω}

/-- Procedures that carry the relation along do the same in another phase. -/
theorem SameInPhase.of_lockstep {m : Controlled ω α}
    (h : Lockstep (Rephased phase) m m) : SameInPhase phase m s :=
  h s _ (.inl rfl)

theorem SameInPhase.members {k : Controller → Controlled ω α}
    (hk : ∀ ctl, k { ctl with phase := phase } = k ctl)
    (h : SameInPhase phase (k s.ctl) s) : SameInPhase phase (members >>= k) s := by
  unfold SameInPhase at h ⊢
  rwa [show (Ros2Dispatcher.members >>= k) (s.withPhase phase) = k s.ctl (s.withPhase phase) from
    congrFun (hk s.ctl) _]

variable (hphase : phase ≠ .busy) (hs : s.ctl.phase ≠ .busy)
include hphase hs

/-- The guard of every handler lets it pass in either phase. -/
theorem SameInPhase.unlessBusy {refuse : Controlled ω α} {k : Controller → Controlled ω α}
    (hk : ∀ ctl, k { ctl with phase := phase } = k ctl)
    (h : SameInPhase phase (k s.ctl) s) :
    SameInPhase phase
      (Ros2Dispatcher.members >>= fun ctl => if ctl.phase = .busy then refuse else k ctl) s := by
  have hrun : ∀ t : NodeState ω, t.ctl.phase ≠ .busy →
      (Ros2Dispatcher.members >>= fun ctl => if ctl.phase = .busy then refuse else k ctl) t =
        (Ros2Dispatcher.members >>= k) t := fun t ht => congrFun (if_neg ht) t
  unfold SameInPhase
  rw [hrun s hs, hrun (s.withPhase phase) hphase]
  exact SameInPhase.members hk h

theorem switchMode_rephased {newMode : SelectionMode} {path : String} {applyNow : Bool} :
    SameInPhase phase (switchMode params env newMode path applyNow) s := by
  have hsim : Simulates env env (Rephased phase) := simulates_rephased
  refine SameInPhase.unlessBusy hphase hs (fun _ => rfl) (SameInPhase.of_lockstep ?_)
  refine update_lockstep (rewrites_rephased fun _ _ => rfl) ?_
  refine members_rephased (fun _ => rfl) fun ctl => .ite ?_ .pure
  cases newMode with
  | gui => exact .ite .pure hsim.commitSelection
  | file =>
    exact .ite fail_lockstep (.bind (hsim.refreshFileSelection (fun _ => rfl) fun _ => rfl)
      fun _ => hsim.commitSelection)
  | all => exact .bind hsim.refreshAllSelection fun _ => hsim.commitSelection

theorem handleApplySelection_rephased {topics : List TopicInfo} :
    SameInPhase phase (handleApplySelection params env topics) s := by
  have hsim : Simulates env env (Rephased phase) := simulates_rephased
  refine SameInPhase.unlessBusy hphase hs (fun _ => rfl)
    (SameInPhase.of_lockstep (.ite .pure (.bind ?_ ?_)))
  · exact .attempt hsim.inferMissingTypes
  intro answer
  cases answer with
  | error message => exact explain_rephased
  | ok selection =>
    dsimp only
    split
    · exact explain_rephased
    · refine .bind (.attempt hsim.applyInPhase) fun applied => ?_
      cases applied with
      | error message => exact explain_rephased
      | ok _ => exact stamp_lockstep (rewrites_rephased fun _ _ => rfl) .pure

theorem handleReloadSelection_rephased {path : String} {applyNow : Bool} :
    SameInPhase phase (handleReloadSelection params env path applyNow) s := by
  have hsim : Simulates env env (Rephased phase) := simulates_rephased
  have hanswer : ∀ {m : Controlled ω PUnit}, Lockstep (Rephased phase) m m →
      Lockstep (Rephased phase) (answerReload env applyNow m) (answerReload env applyNow m) :=
    fun hm => .bind (.attempt hm) fun answer => by
      cases answer with
      | error message => exact explain_rephased
      | ok _ => exact .pure
  refine SameInPhase.unlessBusy hphase hs (fun _ => rfl) ?_
  dsimp only
  split
  · exact SameInPhase.of_lockstep (hanswer (.bind
      (hsim.refreshFileSelection (fun _ => rfl) fun _ => rfl) fun _ => hsim.commitSelection))
  · exact SameInPhase.of_lockstep
      (hanswer (.bind hsim.refreshAllSelection fun _ => hsim.commitSelection))
  · exact SameInPhase.of_lockstep (.ite .pure (hanswer hsim.commitSelection))

theorem handleStopStreaming_rephased {reset : Bool} :
    SameInPhase phase (handleStopStreaming params env reset) s := by
  have hsim : Simulates env env (Rephased phase) := simulates_rephased
  refine SameInPhase.unlessBusy hphase hs (fun _ => rfl)
    (SameInPhase.of_lockstep (.bind (.attempt hsim.stopPipeline) fun answer => ?_))
  cases answer with
  | error message => exact update_lockstep (setPhase_rephased fun _ _ => rfl) explain_rephased
  | ok _ =>
    refine .bind (.ite (write_lockstep (rewrites_rephased fun _ _ => rfl)) .pure) fun _ => ?_
    exact update_lockstep (setPhase_rephased fun _ _ => rfl) .pure

/-- Calling `switch_mode` and going on without a look at the phase. -/
theorem tryCall_switchMode_rephased {newMode : SelectionMode} {path : String}
    {applyNow : Bool} {k : Except String PUnit → Controlled ω α}
    (hk : ∀ answer, Lockstep (Rephased phase) (k answer) (k answer)) :
    SameInPhase phase (tryCall (switchMode params env newMode path applyNow) >>= k) s :=
  .bind (.attempt (switchMode_rephased hphase hs)) hk

theorem handleSetSelectionMode_rephased {mode path : String} {applyNow : Bool} :
    SameInPhase phase (handleSetSelectionMode params env mode path applyNow) s := by
  unfold handleSetSelectionMode
  split
  · exact SameInPhase.of_lockstep .pure
  · refine tryCall_switchMode_rephased hphase hs fun answer => ?_
    cases answer with
    | error message => exact .pure
    | ok _ => exact update_lockstep (rewrites_rephased fun _ _ => rfl) .pure

theorem onParamChange_rephased {batch : List ParameterUpdate} :
    SameInPhase phase (onParamChange params env batch) s := by
  refine SameInPhase.members (fun _ => rfl) ?_
  split
  · exact SameInPhase.of_lockstep .pure
  next staged _ =>
    cases staged.newMode with
    | none => exact SameInPhase.of_lockstep .pure
    | some newMode =>
      refine tryCall_switchMode_rephased hphase hs fun answer => ?_
      cases answer with
      | error message => exact .pure
      | ok _ => exact update_lockstep (rewrites_rephased fun _ _ => rfl) .pure

theorem onStartupTimer_rephased : SameInPhase phase (onStartupTimer params env) s := by
  have hstartup : SameInPhase phase (startupApply params env) s := by
    refine SameInPhase.unlessBusy hphase hs (fun _ => rfl) ?_
    split
    · exact SameInPhase.of_lockstep .pure
    · split
      · exact SameInPhase.of_lockstep .pure
      · refine tryCall_switchMode_rephased hphase hs fun answer => ?_
        cases answer with
        | error message => exact .bind explain_rephased fun _ => .pure
        | ok _ => exact .pure
  refine SameInPhase.members (fun _ => rfl) ?_
  split
  · exact hstartup.bind fun _ => write_lockstep (rewrites_rephased fun _ _ => rfl)
  · exact SameInPhase.of_lockstep .pure

/-- No operation but the status query, whose answer reports `BUSY`, looks at the phase once
it runs. -/
theorem Operation.run_rephased {op : Operation} (hop : op ≠ .getStatus) :
    SameInPhase phase (op.run params env) s := by
  cases op with
  | applySelection topics => exact (handleApplySelection_rephased hphase hs).map
  | reloadSelection path applyNow => exact (handleReloadSelection_rephased hphase hs).map
  | stopStreaming reset => exact (handleStopStreaming_rephased hphase hs).map
  | getStatus => exact absurd rfl hop
  | setSelectionMode mode path applyNow =>
    exact (handleSetSelectionMode_rephased hphase hs).map
  | paramChange batch => exact (onParamChange_rephased hphase hs).map
  | startupTimer => exact (onStartupTimer_rephased hphase hs).map

end Handlers

end Ros2Dispatcher
