import Ros2Dispatcher.Fleet.Operations
import Ros2Dispatcher.Introspection.Manager

/-!
# What discovery finds

The controller turns the introspection manager off after each apply, and on again right before
it asks for the topics. Turning it on starts a monitor with a fresh event and reads nothing, so
the answer is the snapshot from before it was turned off, and discovery finds the topics of the
graph exactly if that snapshot still has them (`discovered_iff`). Over a run they are the same
if the graph only changes while introspection is enabled (`discovery_fresh`).

The graph changes between operations, and the manager comes to rest before the next one.
-/

namespace Ros2Dispatcher

open Procedure Introspection

/-! ### The controller next to the manager -/

/-- The system and the introspection manager. -/
structure Watched where
  sys : System
  manager : Manager

/-- The server has performed the request. -/
def Outcome.performed : Outcome → Bool
  | answered => true
  | rejected => false
  | unavailable => false
  | timeout performed => performed

/-- What a request of the controller does to the manager. -/
def serveManager (manager : Manager) (event : Event) : Manager :=
  match event.rpc with
  | .setIntrospectionEnabled enabled =>
    -- after a timeout the controller does not know whether the manager has done it
    if event.outcome.performed then manager.setIntrospectionEnabled enabled else manager
  | _ => manager

/-- A graph change, or an operation and what the outside does during it. -/
inductive Watched.Input
  | change (graph : TopicMap)
  | operate (round : Round)

namespace Watched

/-- The round in which `get_topics` is answered by the manager. -/
def answered (x : Watched) (round : Round) : Round :=
  { round with pattern := { round.pattern with topics := fun _ => x.manager.handleGetTopics } }

/-- The system and the manager after a step. -/
def step (cfg : Setting) (x : Watched) : Watched.Input → Option Watched
  | .change graph => some { x with manager := (x.manager.changeGraph graph).round }
  | .operate round =>
    (cfg.step x.sys (x.answered round)).map fun sys =>
      ⟨sys, (cfg.requests x.sys (x.answered round)).foldl serveManager x.manager⟩

/-- A controller and a manager that have just been started. -/
def boot (mode filePath : String) (autoApply : Bool) (fleet : Fleet)
    (publishOnChange filterHidden introspectionEnabled : Bool) (graph : TopicMap) : Watched where
  sys := .boot mode filePath autoApply fleet
  manager := .boot publishOnChange filterHidden introspectionEnabled graph

end Watched

/-! ### The manager during an operation -/

/-- Requests leave an idle manager idle, with its snapshot. -/
theorem serveManager_idle {manager : Manager} (events : List Event) (h : manager.Idle) :
    (events.foldl serveManager manager).Idle ∧
      manager.SameTopics (events.foldl serveManager manager) := by
  induction events generalizing manager with
  | nil => exact ⟨h, rfl, rfl, rfl⟩
  | cons event events ih =>
    have hserved : (serveManager manager event).Idle ∧
        manager.SameTopics (serveManager manager event) := by
      unfold serveManager
      split
      · split
        · exact h.setIntrospectionEnabled _
        · exact ⟨h, rfl, rfl, rfl⟩
      · exact ⟨h, rfl, rfl, rfl⟩
    obtain ⟨hidle, hsame⟩ := ih hserved.1
    exact ⟨hidle, hsame.graph.trans hserved.2.graph,
      hsame.filterHidden.trans hserved.2.filterHidden,
      hsame.activeTopics.trans hserved.2.activeTopics⟩

/-! ### Operations in all mode -/

/-- A `reload_selection` in all mode, or a `set_selection_mode` to it. -/
def Operation.IsAll (ctl : Controller) : Operation → Prop
  | .reloadSelection _ _ => ctl.selectionMode = .all
  | .setSelectionMode mode _ _ => parseMode mode = some .all
  | _ => False

/-- Whether such an operation asks for the topics: a mode switch that does not apply does
not. -/
def Operation.discovers : Operation → Bool
  | .reloadSelection _ _ => true
  | .setSelectionMode _ _ applyNow => applyNow
  | _ => false

/-- The operation is answered with success. -/
def Answer.succeeded : Answer → Bool
  | .response answer => answer.success
  | .status _ => false
  | .nothing => false

section Operations

variable {cfg : Setting} {pattern : Pattern} {s : NodeState World} {answer : List TopicInfo}

theorem lastAllSelection_outsidePipeline :
    OutsidePipeline fun ctl : Controller => ctl.lastAllSelection.topics :=
  fun _ _ => rfl

/-- The last selection of all mode is the one discovered in `answer`. -/
def HasDiscovered (cfg : Setting) (answer : List TopicInfo) (s : NodeState World) : Prop :=
  s.ctl.lastAllSelection.topics = cfg.params.discovered answer

/-- A refresh of all mode stores what it discovers. -/
theorem wp_refreshAllSelection_discovered (hanswer : ∀ n, pattern.topics n = answer) :
    wp (refreshAllSelection cfg.params (cfg.environment pattern))
      (fun _ => HasDiscovered cfg answer) (fun _ _ => True) s := by
  rw [refreshAllSelection, wp_bind]
  refine wp_discoverAllTopics (fun n s' _ _ => ?_) fun _ _ _ => trivial
  refine wp_bind.mpr (wp_ofExcept.mpr ⟨fun plan _ => ?_, fun _ _ => trivial⟩)
  exact congrArg cfg.params.discovered (hanswer n)

/-- So does a refresh that goes on to commit. -/
theorem wp_refreshAndCommit (hanswer : ∀ n, pattern.topics n = answer) (applyNow : Bool) :
    wp (do
      let (selection, sinkTopics) ← refreshAllSelection cfg.params (cfg.environment pattern)
      commitSelection cfg.params (cfg.environment pattern) selection sinkTopics applyNow)
      (fun _ => HasDiscovered cfg answer) (fun _ _ => True) s := by
  rw [wp_bind]
  refine wp_mono (wp_refreshAllSelection_discovered hanswer) (fun _ s' hs' => ?_) fun _ _ h => h
  exact wp_mono (commitSelection_keepsMember lastAllSelection_outsidePipeline s' hs')
    (fun _ _ h => h) fun _ _ _ => trivial

theorem wp_handleReloadSelection_discovered {path : String} {applyNow : Bool}
    (hanswer : ∀ n, pattern.topics n = answer) (hall : s.ctl.selectionMode = .all) :
    wp (handleReloadSelection cfg.params (cfg.environment pattern) path applyNow)
      (fun response s' => response.success = true → HasDiscovered cfg answer s')
      (fun _ _ => True) s := by
  rw [handleReloadSelection, wp_bind, wp_members, hall]
  refine wp_ite.mpr ⟨fun _ h => Bool.noConfusion h, fun _ => ?_⟩
  dsimp only
  rw [answerReload, wp_bind]
  refine wp_tryCall (wp_mono (wp_refreshAndCommit hanswer applyNow) (fun _ _ hs' _ => hs')
    fun _ _ _ => ⟨fun _ _ h => Bool.noConfusion h, fun _ _ => trivial⟩)

theorem wp_handleSetSelectionMode_discovered {mode path : String} {applyNow : Bool}
    (hanswer : ∀ n, pattern.topics n = answer) (hall : parseMode mode = some .all) :
    wp (handleSetSelectionMode cfg.params (cfg.environment pattern) mode path applyNow)
      (fun response s' => response.success = true → if applyNow = true then
        HasDiscovered cfg answer s'
        else s'.ctl.lastAllSelection.topics = s.ctl.lastAllSelection.topics)
      (fun _ _ => True) s := by
  have hswitch : wp (switchMode cfg.params (cfg.environment pattern) .all path applyNow)
      (fun _ s' => if applyNow = true then HasDiscovered cfg answer s'
        else s'.ctl.lastAllSelection.topics = s.ctl.lastAllSelection.topics)
      (fun _ _ => True) s := by
    rw [switchMode, wp_bind, wp_members]
    refine wp_ite.mpr ⟨fun _ => trivial, fun _ => ?_⟩
    rw [wp_bind, wp_update, wp_bind, wp_members]
    refine wp_ite.mpr ⟨fun happly => ?_, fun hnot => ?_⟩
    · simp only [if_pos happly]
      exact wp_refreshAndCommit hanswer true
    -- without `apply_now` the mode is set and nothing is discovered
    · rw [wp_pure, if_neg hnot]
  unfold handleSetSelectionMode
  rw [hall]
  dsimp only
  rw [wp_bind]
  exact wp_tryCall (wp_mono hswitch (fun _ _ hs' _ => hs')
    fun _ _ _ => ⟨fun _ _ h => Bool.noConfusion h, fun _ _ => trivial⟩)

/-- What a successful operation in all mode leaves as the last selection of all mode. -/
theorem wp_run_discovered (cfg : Setting) (pattern : Pattern) {op : Operation}
    (hanswer : ∀ n, pattern.topics n = answer)
    (hall : op.IsAll s.ctl) :
    wp (op.run cfg.params (cfg.environment pattern))
      (fun result s' => result.succeeded = true → s'.ctl.lastAllSelection.topics =
        if op.discovers then cfg.params.discovered answer else s.ctl.lastAllSelection.topics)
      (fun _ _ => True) s := by
  cases op with
  | reloadSelection path applyNow =>
    exact wp_map.mpr (wp_handleReloadSelection_discovered hanswer hall)
  | setSelectionMode mode path applyNow =>
    refine wp_map.mpr (wp_mono (wp_handleSetSelectionMode_discovered hanswer hall)
      (fun response s' hs' hsuccess => ?_) fun _ _ h => h)
    have hs := hs' hsuccess
    unfold Operation.discovers
    cases applyNow with
    | true => exact hs
    | false => exact hs
  | applySelection topics => exact hall.elim
  | stopStreaming resetCached => exact hall.elim
  | getStatus => exact hall.elim
  | paramChange batch => exact hall.elim
  | startupTimer => exact hall.elim

end Operations

/-! ### Rounds and runs -/

namespace Watched

variable {cfg : Setting} {x x' : Watched} {round : Round}

/-- The round is one of all mode, succeeds, and leads to `x'`. -/
structure Succeeds (cfg : Setting) (x : Watched) (round : Round) (x' : Watched) : Prop where
  isAll : round.operation.IsAll x.sys.ctl
  step : x.step cfg (.operate round) = some x'
  answer : ∃ answer, cfg.answer x.sys (x.answered round) = some answer ∧ answer.succeeded = true

/-- The last selection of all mode. -/
def lastAll (x : Watched) : List TopicSelection :=
  x.sys.ctl.lastAllSelection.topics

/-- What there is to discover in the graph. -/
def present (cfg : Setting) (x : Watched) : List TopicSelection :=
  cfg.params.discovered x.manager.graphTopics.infos

/-- What there is to discover in the manager's snapshot. -/
def cached (cfg : Setting) (x : Watched) : List TopicSelection :=
  cfg.params.discovered x.manager.activeTopics.infos

/-- A round that discovers takes what is in the snapshot. -/
theorem Succeeds.lastAll (h : x.Succeeds cfg round x') :
    x'.lastAll = if round.operation.discovers then x.cached cfg else x.lastAll := by
  obtain ⟨hall, hstep, result, hanswer, hsuccess⟩ := h
  obtain ⟨sys', hsys, rfl⟩ := Option.map_eq_some_iff.mp hstep
  obtain ⟨result', s, hperform, rfl⟩ := Setting.exists_perform_of_step hsys
  rw [Setting.answer, hperform] at hanswer
  cases hanswer
  have hrun := wp_run_discovered cfg (x.answered round).pattern (s := x.sys.start)
    (fun _ => rfl) hall
  exact of_wp_ok hrun hperform hsuccess

/-- A step that does not change the topics of the graph while introspection is disabled. -/
def Watches (x : Watched) : Watched.Input → Prop
  | .change graph => x.manager.runGraphMonitor = true ∨
      x.manager.filterHiddenTopics graph = x.manager.graphTopics
  | .operate _ => True

/-- The manager is idle, with the topics of the graph in its snapshot. -/
structure UpToDate (x : Watched) : Prop where
  idle : x.manager.Idle
  activeTopics : x.manager.activeTopics = x.manager.graphTopics

/-- Operations and the changes that are watched keep the snapshot up to date. -/
theorem UpToDate.step {input : Watched.Input} (h : x.UpToDate) (hwatches : x.Watches input)
    (hstep : x.step cfg input = some x') : x'.UpToDate := by
  cases input with
  | change graph =>
    cases hstep
    obtain ⟨hidle, hsame⟩ := h.idle.round_changeGraph graph
    refine ⟨hidle, ?_⟩
    rw [← hsame.activeTopics, ← hsame.graphTopics]
    -- both sides are read off the manager after the change
    show (if x.manager.runGraphMonitor = true then x.manager.filterHiddenTopics graph
      else x.manager.activeTopics) = x.manager.filterHiddenTopics graph
    by_cases hrun : x.manager.runGraphMonitor = true
    · rw [if_pos hrun]
    · rw [if_neg hrun, h.activeTopics]
      exact (hwatches.resolve_left hrun).symm
  | operate round =>
    obtain ⟨sys', -, rfl⟩ := Option.map_eq_some_iff.mp hstep
    obtain ⟨hidle, hsame⟩ := serveManager_idle (cfg.requests x.sys (x.answered round)) h.idle
    exact ⟨hidle, hsame.activeTopics.trans (h.activeTopics.trans hsame.graphTopics.symm)⟩

theorem UpToDate.runs (h : x.UpToDate) (hruns : Runs (Watched.step cfg) Watches x x') :
    x'.UpToDate :=
  hruns.invariant (I := UpToDate) (fun _ _ _ hx hwatches hstep => hx.step hwatches hstep) h

/-- A started system in all mode, with one topic in the graph. -/
def ofTopic (name : String) : Watched :=
  .boot "all" "" true .fresh true false true (.single name "std_msgs/msg/String")

/-- Discover and apply. -/
def reloading : Round := ⟨.reloadSelection "" true, {}⟩

/-- A concrete run that ends with a successful reload, read off its values. -/
theorem exists_succeeds {α : Type} (x₀ : Watched) (inputs : List Watched.Input)
    (value : Watched → Watched → α) {a : α}
    (h : (inputs.foldlM (Watched.step .default) x₀).bind (fun x =>
      (x.step .default (.operate reloading)).map fun x' => (x.sys.ctl.selectionMode,
        (Setting.default.answer x.sys (x.answered reloading)).map Answer.succeeded,
        value x x')) = some (.all, some true, a)) :
    ∃ x x', inputs.foldlM (Watched.step .default) x₀ = some x ∧
      x.Succeeds .default reloading x' ∧ value x x' = a := by
  obtain ⟨x, hrun, hx⟩ := Option.bind_eq_some_iff.mp h
  obtain ⟨x', hstep, hx'⟩ := Option.map_eq_some_iff.mp hx
  simp only [Prod.mk.injEq] at hx'
  obtain ⟨hmode, hanswer, hvalue⟩ := hx'
  exact ⟨x, x', hrun, ⟨hmode, hstep, Option.map_eq_some_iff.mp hanswer⟩, hvalue⟩

/-- **Discovery** finds the topics of the graph exactly if it takes place and the snapshot of
the manager has them. Over a run in which the graph changes only while introspection is
enabled, every operation that discovers finds them. -/
theorem discovery_fresh (cfg : Setting) :
    (∀ (x : Watched) round x', x.Succeeds cfg round x' → (x'.lastAll = x.present cfg ↔
      (if round.operation.discovers then x.cached cfg else x.lastAll) = x.present cfg)) ∧
    ∀ mode filePath autoApply fleet publishOnChange filterHidden introspectionEnabled graph x,
      Runs (Watched.step cfg) Watches (.boot mode filePath autoApply fleet publishOnChange
        filterHidden introspectionEnabled graph) x →
      ∀ round x', x.Succeeds cfg round x' → round.operation.discovers = true →
        x'.lastAll = x.present cfg := by
  refine ⟨fun x round x' h => by rw [h.lastAll], ?_⟩
  intro mode filePath autoApply fleet publishOnChange filterHidden introspectionEnabled graph x
    hruns round x' h hdiscovers
  have hboot : (Watched.boot mode filePath autoApply fleet publishOnChange filterHidden
      introspectionEnabled graph).UpToDate := ⟨Manager.boot_idle.1, Manager.boot_idle.2⟩
  rw [h.lastAll, if_pos hdiscovers, cached, (hboot.runs hruns).activeTopics]
  rfl

/-- A topic that replaces another before the first apply is discovered. -/
theorem discovery_fresh_before_apply :
    ∃ x x', [Watched.Input.change (.single "/b" "std_msgs/msg/String")].foldlM
        (Watched.step .default) (ofTopic "/a") = some x ∧ x.Succeeds .default reloading x' ∧
      x'.lastAll = [⟨⟨"/b", "std_msgs/msg/String"⟩, none⟩] := by
  obtain ⟨x, x', hrun, hsucceeds, hpresent⟩ := exists_succeeds
    (ofTopic "/a") [.change (.single "/b" "std_msgs/msg/String")] (fun x _ => x.present .default)
    (a := [⟨⟨"/b", "std_msgs/msg/String"⟩, none⟩]) (by decide +kernel)
  refine ⟨x, x', hrun, hsucceeds, ?_⟩
  rw [← hpresent]
  refine (discovery_fresh .default).2 "all" "" true .fresh true false true
    (.single "/a" "std_msgs/msg/String") x ?_ reloading x' hsucceeds rfl
  cases hrun
  exact .single (i := .change (.single "/b" "std_msgs/msg/String")) (.inl rfl) rfl

/-- A topic that replaces another after an apply is not discovered: the reload finds the old
one. -/
theorem discovery_stale :
    ∃ x x', [Watched.Input.operate reloading,
        .change (.single "/b" "std_msgs/msg/String")].foldlM (Watched.step .default)
          (ofTopic "/a") = some x ∧ x.Succeeds .default reloading x' ∧
      (x'.lastAll, x.present .default) = ([⟨⟨"/a", "std_msgs/msg/String"⟩, none⟩],
        [⟨⟨"/b", "std_msgs/msg/String"⟩, none⟩]) :=
  exists_succeeds _ _ (fun x x' => (x'.lastAll, x.present .default)) (by decide +kernel)

end Watched

end Ros2Dispatcher
