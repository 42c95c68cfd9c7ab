import Ros2Dispatcher.Controller.Handlers
import Ros2Dispatcher.Library.Relational

/-!
# Two runs of the controller

The procedures below the handlers look at few members, and write the others without looking
at them. So a relation between two nodes that requests and writes respect, and that fixes
the members which are read, is carried along by two runs of the same procedure: both make
the same requests and end alike (`Simulates`). The relations used are those between nodes in
different phases, and between nodes that remember different times.
-/

namespace Ros2Dispatcher

open Procedure

variable {ω ω' α : Type} {params : Parameters} {env : Environment ω} {env' : Environment ω'}
variable {R : NodeState ω → NodeState ω' → Prop}

/-- Related nodes get the same answer and are still related. -/
def Alike (R : NodeState ω → NodeState ω' → Prop) (f : ω → α × ω) (f' : ω' → α × ω') : Prop :=
  ∀ s t, R s t → (f s.env).1 = (f' t.env).1 ∧
    R { s with env := (f s.env).2 } { t with env := (f' t.env).2 }

/-- Related nodes are still related after both wrote their members, by functions that may
look at the outside. -/
def Rewrites (R : NodeState ω → NodeState ω' → Prop) (f : ω → Controller → Controller)
    (f' : ω' → Controller → Controller) : Prop :=
  ∀ s t, R s t → R { s with ctl := f s.env s.ctl } { t with ctl := f' t.env t.ctl }

/-- What is to be shown of a relation between nodes for the controller to carry it along. -/
structure Simulates (env : Environment ω) (env' : Environment ω')
    (R : NodeState ω → NodeState ω' → Prop) : Prop where
  getState : ∀ sink, Alike R (env.getState sink) (env'.getState sink)
  changeState : ∀ sink transition,
    Alike R (env.changeState sink transition) (env'.changeState sink transition)
  setSubscriptionsYaml : ∀ sink subs,
    Alike R (env.setSubscriptionsYaml sink subs) (env'.setSubscriptionsYaml sink subs)
  loadNode : ∀ component, Alike R (env.loadNode component) (env'.loadNode component)
  unloadNode : ∀ id, Alike R (env.unloadNode id) (env'.unloadNode id)
  introspectionAvailable : Alike R env.introspectionAvailable env'.introspectionAvailable
  requestTopics : Alike R env.requestTopics env'.requestTopics
  introspectionEnabled : ∀ enabled,
    Alike R (env.setIntrospectionEnabled enabled) (env'.setIntrospectionEnabled enabled)
  loadFile : ∀ path s t, R s t → loadFileSelection env.yaml path (env.loadFile path s.env) =
    loadFileSelection env'.yaml path (env'.loadFile path t.env)
  tools : ∀ s t, R s t → s.ctl.activeTopicTools = t.ctl.activeTopicTools
  setTools : ∀ change : Std.TreeMap String ActiveTopicTool → Std.TreeMap String ActiveTopicTool,
    Rewrites R (fun _ ctl => { ctl with activeTopicTools := change ctl.activeTopicTools })
      fun _ ctl => { ctl with activeTopicTools := change ctl.activeTopicTools }
  setPhase : ∀ phase, Rewrites R (fun _ ctl => { ctl with phase := phase })
    fun _ ctl => { ctl with phase := phase }
  record : ∀ topics sinkTopics,
    Rewrites R (fun w ctl => { ctl with appliedSelection := ⟨topics, sinkTopics, env.now w⟩ })
      fun w ctl => { ctl with appliedSelection := ⟨topics, sinkTopics, env'.now w⟩ }
  cacheFile : ∀ topics sinkTopics,
    Rewrites R (fun w ctl => { ctl with lastFileSelection := ⟨topics, sinkTopics, env.now w⟩ })
      fun w ctl => { ctl with lastFileSelection := ⟨topics, sinkTopics, env'.now w⟩ }
  cacheAll : ∀ topics sinkTopics,
    Rewrites R (fun w ctl => { ctl with lastAllSelection := ⟨topics, sinkTopics, env.now w⟩ })
      fun w ctl => { ctl with lastAllSelection := ⟨topics, sinkTopics, env'.now w⟩ }

/-! ### Parts -/

theorem request_lockstep {f : ω → α × ω} {f' : ω' → α × ω'} (h : Alike R f f') :
    Lockstep R (request f) (request f') := by
  intro s t hR
  obtain ⟨hanswer, hR'⟩ := h s t hR
  unfold request
  rw [hanswer]
  exact .ok hR'

theorem fail_lockstep {message : String} :
    Lockstep R (fail message : Controlled ω α) (fail message) :=
  .throw rfl

theorem ofExcept_lockstep {x : Except String α} :
    Lockstep R (ofExcept x : Controlled ω α) (ofExcept x) := by
  cases x
  · exact fail_lockstep
  · exact .pure

/-- Both write. -/
theorem write_lockstep {f f' : Controller → Controller}
    (hf : Rewrites R (fun _ => f) fun _ => f') : Lockstep R (update f) (update f') :=
  fun s t h => .ok (hf s t h)

/-- Both write, and go on. -/
theorem update_lockstep {f f' : Controller → Controller} {m : Controlled ω α}
    {m' : Controlled ω' α} (hf : Rewrites R (fun _ => f) fun _ => f') (hm : Lockstep R m m') :
    Lockstep R (update f >>= fun _ => m) (update f' >>= fun _ => m') := fun s t h =>
  hm _ _ (hf s t h)

/-- Both write what the time is, and go on. -/
theorem stamp_lockstep {f f' : Time → Controller → Controller} {m : Controlled ω α}
    {m' : Controlled ω' α} (hf : Rewrites R (fun w => f (env.now w)) fun w => f' (env'.now w))
    (hm : Lockstep R m m') :
    Lockstep R (now env >>= fun stamp => update (f stamp) >>= fun _ => m)
      (now env' >>= fun stamp => update (f' stamp) >>= fun _ => m') := fun s t h =>
  hm _ _ (hf s t h)

theorem shouldSkipUnavailableSink_lockstep {sink : Sink} :
    Lockstep R (shouldSkipUnavailableSink params sink)
      (shouldSkipUnavailableSink params sink) :=
  .ite .pure fail_lockstep

namespace Simulates

/-! ### Sinks -/

theorem getSinkState (h : Simulates env env' R) {sink : Sink} :
    Lockstep R (getSinkState params env sink) (getSinkState params env' sink) :=
  .ite (.bind (request_lockstep (h.getState sink)) fun result => by
    cases result <;> exact .pure) .pure

theorem changeSinkState (h : Simulates env env' R) {sink : Sink} {transition : Transition} :
    Lockstep R (changeSinkState params env sink transition)
      (changeSinkState params env' sink transition) := by
  refine .ite (.bind (request_lockstep (h.changeState sink transition)) fun result => ?_)
    fail_lockstep
  cases result with
  | unavailable => exact fail_lockstep
  | timeout => exact fail_lockstep
  | reply success => exact .ite .pure fail_lockstep

theorem setSinkSubscriptionsYaml (h : Simulates env env' R) {sink : Sink}
    {subs : List TopicInfo} :
    Lockstep R (setSinkSubscriptionsYaml params env sink subs)
      (setSinkSubscriptionsYaml params env' sink subs) := by
  refine .ite (.bind (request_lockstep (h.setSubscriptionsYaml sink subs)) fun result => ?_)
    shouldSkipUnavailableSink_lockstep
  cases result with
  | unavailable => exact shouldSkipUnavailableSink_lockstep
  | timeout => exact fail_lockstep
  | reply results =>
    dsimp only
    split
    · exact fail_lockstep
    · exact .pure

theorem deactivateSink (h : Simulates env env' R) {sink : Sink} :
    Lockstep R (deactivateSink params env sink) (deactivateSink params env' sink) := by
  refine .ite .pure (.bind h.getSinkState fun state => ?_)
  cases state with
  | none => exact shouldSkipUnavailableSink_lockstep
  | some state => exact .ite h.changeSinkState .pure

theorem leaveActive (h : Simulates env env' R) {sink : Sink} :
    Lockstep R (leaveActive params env sink) (leaveActive params env' sink) := by
  refine .bind h.changeSinkState fun _ => .bind h.getSinkState fun state => ?_
  cases state with
  | none => exact fail_lockstep
  | some state => exact .pure

theorem quiesceSink (h : Simulates env env' R) {sink : Sink} {state : LifecycleState} :
    Lockstep R (quiesceSink params env sink state) (quiesceSink params env' sink state) :=
  .bind (.ite h.leaveActive .pure) fun _ => .ite h.changeSinkState .pure

theorem applySelectionToSink (h : Simulates env env' R) {sink : Sink} {subs : List TopicInfo} :
    Lockstep R (applySelectionToSink params env sink subs)
      (applySelectionToSink params env' sink subs) := by
  refine .ite .pure (.bind h.getSinkState fun state => ?_)
  cases state with
  | none => exact shouldSkipUnavailableSink_lockstep
  | some state =>
    exact .bind h.quiesceSink fun _ =>
      .bind h.setSinkSubscriptionsYaml fun _ => h.changeSinkState

/-! ### Tools -/

theorem deactivateAndUnloadTool (h : Simulates env env' R) {tool : ActiveTopicTool} :
    Lockstep R (deactivateAndUnloadTool env tool) (deactivateAndUnloadTool env' tool) := by
  refine .bind (request_lockstep (h.unloadNode tool.uniqueId)) fun result => ?_
  cases result with
  | unavailable => exact fail_lockstep
  | timeout => exact fail_lockstep
  | reply success => exact .ite .pure fail_lockstep

theorem clearActiveTopicTools (h : Simulates env env' R) :
    Lockstep R (clearActiveTopicTools env) (clearActiveTopicTools env') := by
  let unloadAll {ω : Type} (env : Environment ω) (tools : List ActiveTopicTool) :
      Controlled ω PUnit := do
    forM tools (Ros2Dispatcher.deactivateAndUnloadTool env)
    update fun ctl => { ctl with activeTopicTools := ∅ }
  have hunload : ∀ tools, Lockstep R (unloadAll env tools) (unloadAll env' tools) := fun tools =>
    .bind (.forM (fun _ => h.deactivateAndUnloadTool) _) fun _ =>
      write_lockstep (h.setTools fun _ => ∅)
  intro s t hR
  have htools : s.ctl.trackedTools = t.ctl.trackedTools :=
    congrArg Registry.values (h.tools s t hR)
  have hrun := hunload s.ctl.trackedTools s t hR
  rw [show Ros2Dispatcher.clearActiveTopicTools env' t =
    unloadAll env' t.ctl.trackedTools t from rfl, ← htools]
  exact hrun

theorem loadAndRecordTool (h : Simulates env env' R) {tool : ResolvedTopicTool} :
    Lockstep R (loadAndRecordTool params env tool) (loadAndRecordTool params env' tool) := by
  refine .bind (.bind (request_lockstep (h.loadNode _)) fun result => ?_) fun active =>
    write_lockstep (h.setTools fun tools => tools.insert tool.inputTopic active)
  cases result with
  | unavailable => exact fail_lockstep
  | timeout => exact fail_lockstep
  | reply response => exact .ite .pure fail_lockstep

theorem reconcileTopicTools (h : Simulates env env' R) {plan : TopicToolsPlan} :
    Lockstep R (reconcileTopicTools params env plan) (reconcileTopicTools params env' plan) :=
  .bind h.clearActiveTopicTools fun _ => .forM (fun _ => h.loadAndRecordTool) _

/-! ### Selections -/

theorem inferMissingTypes (h : Simulates env env' R) {subs : List TopicSelection} :
    Lockstep R (inferMissingTypes env subs) (inferMissingTypes env' subs) := by
  refine .ite (.bind (request_lockstep h.introspectionAvailable) fun _ => .ite
    (.bind (request_lockstep h.requestTopics) fun answer => ?_) fail_lockstep) .pure
  cases answer with
  | none => exact fail_lockstep
  | some topics => exact ofExcept_lockstep

theorem setIntrospectionEnabled (h : Simulates env env' R) {enabled : Bool} :
    Lockstep R (setIntrospectionEnabled env enabled) (setIntrospectionEnabled env' enabled) := by
  refine .bind (request_lockstep (h.introspectionEnabled enabled)) fun result => ?_
  cases result with
  | unavailable => exact fail_lockstep
  | timeout => exact fail_lockstep
  | reply results =>
    dsimp only
    split
    · exact fail_lockstep
    · exact .pure

theorem discoverAllTopics (h : Simulates env env' R) :
    Lockstep R (discoverAllTopics params env) (discoverAllTopics params env') := by
  refine .bind (request_lockstep h.introspectionAvailable) fun _ => .ite
    (.bind (.attempt h.setIntrospectionEnabled) fun _ =>
      .bind (request_lockstep h.requestTopics) fun answer => ?_) fail_lockstep
  cases answer with
  | none => exact fail_lockstep
  | some topics => exact .bind ofExcept_lockstep fun _ => .pure

theorem readSelectionFile (h : Simulates env env' R) {path : String} :
    Lockstep R (readSelectionFile env path) (readSelectionFile env' path) := by
  intro s t hR
  unfold Ros2Dispatcher.readSelectionFile
  rw [h.loadFile path s t hR]
  cases loadFileSelection env'.yaml path (env'.loadFile path t.env) with
  | ok loaded => exact .ok hR
  | error failure => exact .error rfl hR

/-- What is loaded from a file; the caller's prefix of a failed type inference may differ. -/
theorem refreshFileSelection (h : Simulates env env' R) {path : String}
    {Φ : Failure → Failure → Prop} {inferPrefix inferPrefix' : String}
    (hrefl : ∀ failure, Φ failure failure)
    (hinfer : ∀ message, Φ (.error (inferPrefix ++ message)) (.error (inferPrefix' ++ message))) :
    Related Φ R (refreshFileSelection env inferPrefix path)
      (refreshFileSelection env' inferPrefix' path) := by
  have hweaken : ∀ failure failure' : Failure, failure = failure' → Φ failure failure' := by
    rintro failure _ rfl
    exact hrefl failure
  refine .bind (h.readSelectionFile.mono hweaken) fun loaded =>
    .bind ((Related.attempt h.inferMissingTypes).mono hweaken) fun answer => ?_
  cases answer with
  | error message => exact .throw (hinfer message)
  | ok selection =>
    exact .bind (ofExcept_lockstep.mono hweaken) fun plan =>
      (stamp_lockstep (h.cacheFile selection plan.sinkTopics) .pure).mono hweaken

theorem refreshAllSelection (h : Simulates env env' R) :
    Lockstep R (refreshAllSelection params env) (refreshAllSelection params env') :=
  .bind h.discoverAllTopics fun selection => .bind ofExcept_lockstep fun plan =>
    stamp_lockstep (h.cacheAll selection plan.sinkTopics) .pure

/-! ### Whole procedures -/

theorem prepareSelection (h : Simulates env env' R) {topics : List TopicSelection} :
    Lockstep R (prepareSelection params env topics) (prepareSelection params env' topics) := by
  refine .ite fail_lockstep (.bind h.getSinkState fun state => ?_)
  cases state with
  | none => exact fail_lockstep
  | some state =>
    exact .bind (.ite h.inferMissingTypes .pure) fun _ => .bind ofExcept_lockstep fun _ => .pure

theorem recordApplied (h : Simulates env env' R) {validated : List TopicSelection}
    {plan : TopicToolsPlan} :
    Lockstep R (recordApplied params env validated plan)
      (recordApplied params env' validated plan) :=
  stamp_lockstep (h.record validated plan.sinkTopics)
    (.ite (.bind (.attempt h.setIntrospectionEnabled) fun _ => .pure) .pure)

theorem applySelection (h : Simulates env env' R) {topics : List TopicSelection} :
    Lockstep R (applySelection params env topics) (applySelection params env' topics) :=
  .bind h.prepareSelection fun _ => .bind h.quiesceSink fun _ =>
    .bind h.reconcileTopicTools fun _ => .bind h.setSinkSubscriptionsYaml fun _ =>
      .bind h.changeSinkState fun _ => .bind h.applySelectionToSink fun _ => h.recordApplied

theorem stopPipeline (h : Simulates env env' R) :
    Lockstep R (stopPipeline params env) (stopPipeline params env') :=
  .bind h.deactivateSink fun _ => .bind h.deactivateSink fun _ => h.clearActiveTopicTools

theorem applyInPhase (h : Simulates env env' R) {selection : List TopicSelection} :
    Lockstep R (applyInPhase params env selection) (applyInPhase params env' selection) := by
  refine update_lockstep (h.setPhase .busy) (.bind (.attempt h.applySelection) fun answer => ?_)
  cases answer with
  | error message => exact update_lockstep (h.setPhase .error) fail_lockstep
  | ok _ => exact write_lockstep (h.setPhase .idle)

theorem commitSelection (h : Simulates env env' R) {selection : List TopicSelection}
    {sinkTopics : List TopicInfo} {applyNow : Bool} :
    Lockstep R (commitSelection params env selection sinkTopics applyNow)
      (commitSelection params env' selection sinkTopics applyNow) :=
  .bind (.ite (.bind ofExcept_lockstep fun _ => .pure) .pure) fun _ =>
    .bind ofExcept_lockstep fun _ => .ite h.applyInPhase .pure

end Simulates

end Ros2Dispatcher
