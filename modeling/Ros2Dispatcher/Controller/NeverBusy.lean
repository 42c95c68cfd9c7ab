import Ros2Dispatcher.Controller.ModeChanges
import Ros2Dispatcher.Controller.Outcomes
import Ros2Dispatcher.Library.Fallible

/-!
# The controller is never found busy

The phase is `BUSY` only while a handler holds `mutex_`. In every run, whatever is asked of the
node and whatever the services, files and clocks around it do, the phase is `IDLE` or `ERROR`
between two operations, no answer is the refusal of a busy controller, and `get_status` does
not report that the node is reconciling (`never_busy`).
-/

namespace Ros2Dispatcher

open Procedure Fallible

/-! ### The texts of other failures -/

/-- Not the refusal of a busy controller. -/
def Failure.NotBusy (failure : Failure) : Prop :=
  failure ≠ .error "Controller busy"

/-- A text with another first letter. -/
theorem Failure.NotBusy.of_head {c : Char} {message : String}
    (hhead : message.toList.head? = some c) (hc : c ≠ 'C') : (Failure.error message).NotBusy := by
  intro heq
  have hfirst : some c = some 'C' := by
    rw [← hhead, Failure.error.inj heq]
    rfl
  exact hc (Option.some.inj hfirst)

theorem ensureTopicLimits_notBusy {params : Parameters} {selection : List TopicSelection}
    {message : String} (h : ensureTopicLimits params selection = .error message) :
    (Failure.error message).NotBusy := by
  unfold ensureTopicLimits at h
  split at h
  · cases h
    exact .of_head (c := 'S') (by simp) (by decide)
  · cases h

/-- The one text with the same first letter has another second one. -/
theorem completeTypes_notBusy {answer : List TopicInfo} {subs : List TopicSelection}
    {message : String} (h : completeTypes answer subs = .error message) :
    (Failure.error message).NotBusy := by
  unfold completeTypes at h
  dsimp only at h
  split at h
  · cases h
  · cases h
    intro heq
    have hsecond := congrArg (fun text => text.toList.take 2) (Failure.error.inj heq)
    simp at hsecond

instance : Covers Failure.NotBusy where
  plain message h := by
    obtain ⟨c, hhead, -, hc⟩ := h
    exact .of_head hhead hc
  types _ _ _ h := completeTypes_notBusy h
  plan _ _ h := by
    rcases buildTopicToolsPlan_message h with rfl | rfl
    · exact .of_head (c := 'S') (by simp) (by decide)
    · exact .of_head (c := 't') (by simp) (by decide)

section Loader

variable {cpp : YamlCpp} {node : Yaml}

/-- An exception is no refusal. -/
theorem thrown_notBusy {what : String} : (Failure.thrown what).NotBusy := fun h => by cases h

theorem orThrow_notBusy {α : Type} {value : Option α} :
    Fails Failure.NotBusy (Yaml.orThrow value) := by
  cases value with
  | none => exact thrown_notBusy
  | some a => exact trivial

theorem field_notBusy {key : String} : Fails Failure.NotBusy (node.field key) := by
  cases node with
  | scalar text => exact thrown_notBusy
  | null => exact trivial
  | sequence items => exact trivial
  | map entries => exact trivial

theorem stringFieldOr_notBusy {key default : String} :
    Fails Failure.NotBusy (stringFieldOr cpp node key default) := by
  refine .bind field_notBusy fun value => ?_
  cases value with
  | none => exact .pure
  | some value => exact orThrow_notBusy

theorem stringFieldAlias_notBusy {key «alias» : String} :
    Fails Failure.NotBusy (stringFieldAlias cpp node key «alias») := by
  refine .bind field_notBusy fun value => ?_
  cases value with
  | none => exact stringFieldOr_notBusy
  | some value => exact orThrow_notBusy

theorem loadParameters_notBusy : Fails Failure.NotBusy (loadParameters cpp node) := by
  have hparse : ∀ name value, Fails Failure.NotBusy (parseParameterValue cpp name value) := by
    intro name value
    have hmessage : (Failure.error ("Unsupported parameter value for " ++ name)).NotBusy :=
      .of_head (c := 'U') (by simp) (by decide)
    unfold parseParameterValue
    extract_lets parsed
    cases parsed with
    | none => exact hmessage
    | some value => exact trivial
  have hload : ∀ entry, Fails Failure.NotBusy (loadParameter cpp entry) := fun entry =>
    .bind orThrow_notBusy fun name => hparse name entry.2
  have hmessage : (Failure.error "topic_tools.parameters must be a map").NotBusy :=
    .of_head (c := 't') (by simp) (by decide)
  refine .bind field_notBusy fun value => ?_
  cases value with
  | none => exact .pure
  | some value =>
    cases value with
    | map entries => exact .bind (.mapM hload entries) fun _ => .pure
    | null => exact hmessage
    | scalar text => exact hmessage
    | sequence items => exact hmessage

theorem loadTopicTools_notBusy {topicName : String} :
    Fails Failure.NotBusy (loadTopicTools cpp topicName node) := by
  refine .bind field_notBusy fun flag => ?_
  extract_lets proceed
  have hproceed : ∀ enabled, Fails Failure.NotBusy (proceed enabled) := by
    intro enabled
    refine .ite ?_ .pure
    refine .bind stringFieldOr_notBusy fun _ => .bind stringFieldOr_notBusy fun pluginName =>
      .bind stringFieldOr_notBusy fun _ => .bind stringFieldOr_notBusy fun explicitOutput =>
        .bind field_notBusy fun outputName => ?_
    extract_lets finish
    have hfinish : ∀ outputTopic, Fails Failure.NotBusy (finish outputTopic) := fun _ =>
      .bind stringFieldOr_notBusy fun _ => .bind loadParameters_notBusy fun _ => .ite
        (Failure.NotBusy.of_head (c := 't') (by simp) (by decide)) .pure
    cases outputName with
    | none => exact .bind .pure hfinish
    | some value =>
      exact .ite (.bind orThrow_notBusy fun _ => .bind .pure hfinish) (.bind .pure hfinish)
  cases flag with
  | none => exact .bind .pure hproceed
  | some value => exact .bind orThrow_notBusy hproceed

theorem loadEntry_notBusy : Fails Failure.NotBusy (loadEntry cpp node) := by
  have hmessage : (Failure.error "topic_tools must be a map").NotBusy :=
    .of_head (c := 't') (by simp) (by decide)
  refine .bind stringFieldAlias_notBusy fun name => .bind stringFieldAlias_notBusy fun type => ?_
  refine .ite (Failure.NotBusy.of_head (c := 'S') (by simp) (by decide)) ?_
  refine .bind field_notBusy fun value => ?_
  cases value with
  | none => exact .pure
  | some value =>
    cases value with
    | map entries => exact .bind loadTopicTools_notBusy fun _ => .pure
    | null => exact hmessage
    | scalar text => exact hmessage
    | sequence items => exact hmessage

/-- `load_file_selection`. -/
theorem loadFileSelection_notBusy {path : String} {file : Except String Yaml} :
    Fails Failure.NotBusy (loadFileSelection cpp path file) := by
  have hmessage : (Failure.error "Selection file must be a YAML sequence").NotBusy :=
    .of_head (c := 'S') (by simp) (by decide)
  refine .ite (Failure.NotBusy.of_head (c := 's') (by simp) (by decide)) ?_
  cases file with
  | error what => exact Failure.NotBusy.of_head (c := 'F') (by simp) (by decide)
  | ok doc =>
    cases doc with
    | sequence items => exact .mapM (fun _ => loadEntry_notBusy) items
    | null => exact hmessage
    | scalar text => exact hmessage
    | map entries => exact hmessage

end Loader

/-! ### Runs -/

section Running

variable {ω : Type}

/-- An operation, and the outside while it runs. -/
structure Occurrence (ω : Type) where
  operation : Operation
  env : Environment ω

variable {params : Parameters} {s s' : NodeState ω} {o : Occurrence ω}

/-- The node after an operation, whether its handler has returned or thrown. -/
def Occurrence.step (params : Parameters) (s : NodeState ω) (o : Occurrence ω) :
    Option (NodeState ω) :=
  some (final (o.operation.run params o.env) s)

/-- The phase is `IDLE` or `ERROR`. -/
def NodeState.Free (s : NodeState ω) : Prop :=
  s.ctl.phase = .idle ∨ s.ctl.phase = .error

theorem NodeState.free_iff : s.Free ↔ BusyIs Failure.NotBusy s := by
  unfold NodeState.Free BusyIs Failure.NotBusy
  cases s.ctl.phase <;> simp

/-- An operation of a ready node answers without a sign of a busy one, and leaves it ready. -/
theorem NodeState.Free.run_yields (h : s.Free) (op : Operation) (env : Environment ω) :
    wp (op.run params env) (fun answer s' => answer.Within Failure.NotBusy ∧ s'.Free)
      (fun _ s' => s'.Free) s := by
  have hchecks : CoversChecks params env Failure.NotBusy :=
    { limit := fun _ _ hlimit => ensureTopicLimits_notBusy hlimit
      file := fun path w failure hfailure => by
        have hload : Fails Failure.NotBusy
            (loadFileSelection env.yaml path (env.loadFile path w)) := loadFileSelection_notBusy
        rwa [hfailure] at hload }
  refine wp_mono (op.run_yields hchecks s (NodeState.free_iff.mp h))
    (fun _ _ h' => ⟨h'.1, NodeState.free_iff.mpr h'.2⟩) fun _ _ h' => NodeState.free_iff.mpr h'.2

theorem NodeState.Free.step (h : s.Free) (hstep : o.step params s = some s') : s'.Free := by
  rw [← Option.some.inj hstep]
  exact of_wp_final (wp_mono (h.run_yields o.operation o.env) (fun _ _ h' => h'.2) fun _ _ h' => h')

end Running

/-- A refusal because the controller is busy, or a report that it is. -/
def Answer.ShowsBusy : Answer → Prop
  | .response r => r.success = false ∧ r.message = "Controller busy"
  | .status st => st.reconciling = true
  | .nothing => False

theorem Answer.Within.not_showsBusy {answer : Answer} (h : answer.Within Failure.NotBusy) :
    ¬answer.ShowsBusy := by
  intro hbusy
  cases answer with
  | response r => exact h hbusy.1 (congrArg Failure.error hbusy.2)
  | status st => exact h hbusy rfl
  | nothing => exact hbusy

/-- **Never busy.** After any operations, under any outcomes of their requests, the node is ready,
and none of the operations it can be given next shows that it is busy. -/
theorem never_busy {ω : Type} {params : Parameters} {mode filePath : String} {autoApply : Bool}
    {w : ω} {s : NodeState ω}
    (hrun : Runs (Occurrence.step params) (fun _ _ => True)
      ⟨.initial mode filePath autoApply, w⟩ s) :
    (s.ctl.phase = .idle ∨ s.ctl.phase = .error) ∧
      ∀ (o : Occurrence ω) answer s', o.operation.run params o.env s = .ok answer s' →
        ¬answer.ShowsBusy := by
  have hfree : s.Free := hrun.invariant (fun _ _ _ h _ hstep => h.step hstep) (.inl rfl)
  exact ⟨hfree, fun o answer s' hanswer =>
    (of_wp_ok (hfree.run_yields o.operation o.env) hanswer).1.not_showsBusy⟩

/-- A selection that cannot be applied, since no service answers, and the status after it. -/
theorem never_busy_failed :
    ∃ s st s', Runs (Occurrence.step {}) (fun _ _ => True) ⟨.initial "gui" "" true, ()⟩ s ∧
      s.ctl.phase = .error ∧
      Operation.run {} Environment.silent .getStatus s = .ok (.status st) s' ∧
      ¬(Answer.status st).ShowsBusy := by
  have hrun : Runs (Occurrence.step {}) (fun _ _ => True)
      (⟨.initial "gui" "" true, ()⟩ : NodeState Unit) _ :=
    .single (i := ⟨.applySelection [⟨"/a", "T"⟩], .silent⟩) trivial rfl
  exact ⟨_, _, _, hrun, rfl, rfl, (never_busy hrun).2 ⟨.getStatus, .silent⟩ _ _ rfl⟩

end Ros2Dispatcher
