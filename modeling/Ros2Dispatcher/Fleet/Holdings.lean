import Ros2Dispatcher.Fleet.Operations

/-!
# The selections the controller holds

Between operations the controller remembers four selections: the last one of each mode, and
the one it applied. Each was completed, planned or sized by another handler, in another
order. `Admits.wp_run` is one rule for all of them: a property `Ok` of selections that holds
of everything an operation can take in (a request, a file, an introspection answer, each
after the checks its handler makes before it stores the selection) holds of all four
selections after the operation, and every list sent to a sink comes from the plan of a
selection with that property.
-/

namespace Ros2Dispatcher

open Procedure

/-! ### What is held and what is sent -/

/-- The selections the controller remembers. -/
def Controller.snapshots (ctl : Controller) : List SelectionSnapshot :=
  [ctl.lastGuiSelection, ctl.lastFileSelection, ctl.lastAllSelection, ctl.appliedSelection]

/-- Every selection the controller remembers is `Ok`. -/
def Controller.Holds (Ok : List TopicSelection → Prop) (ctl : Controller) : Prop :=
  ∀ snapshot ∈ ctl.snapshots, Ok snapshot.topics

/-- Every selection held is `Ok`, and every list sent to a sink so far satisfies `Sent`. -/
structure Holding (Ok : List TopicSelection → Prop) (Sent : List TopicInfo → Prop)
    (s : NodeState World) : Prop where
  holds : s.ctl.Holds Ok
  sent : ∀ event ∈ s.env.log, ∀ sink subs,
    event.rpc = .setSubscriptionsYaml sink subs → Sent subs

/-- The file an operation loads, if it loads one; a reload does so even where it is not to
apply it. -/
def Operation.loadedFile (ctl : Controller) : Operation → Option String
  | .reloadSelection path _ => if ctl.selectionMode = .file then some (ctl.filePath path) else none
  | op => op.appliedFile ctl

/-- The query of the operation's first type inference gets an answer. -/
def Pattern.Asks (pattern : Pattern) : Prop :=
  pattern.outcome .introspection 0 ≠ .unavailable ∧
    (pattern.outcome .getTopics 0).replies = true

/-- The operation's first type inference completes `loaded` to `selection`. -/
def Pattern.Infers (pattern : Pattern) (loaded selection : List TopicSelection) : Prop :=
  (needsLookup loaded = true → pattern.Asks) ∧
    inferWith (pattern.topics 0) loaded = .ok selection

/-- What is to be shown of `Ok` and `Sent` for an operation to keep to them. -/
structure Admits (cfg : Setting) (pattern : Pattern) (op : Operation) (ctl : Controller)
    (Ok : List TopicSelection → Prop) (Sent : List TopicInfo → Prop) : Prop where
  empty : Ok []
  completed : ∀ answer selection completed, Ok selection →
    completeTypes answer selection = .ok completed → Ok completed
  sendable : ∀ subs, Sendable Ok subs → Sent subs
  requested : ∀ topics answer selection, op = .applySelection topics →
    inferWith answer (topics.map fun topic => { topic }) = .ok selection →
    ensureTopicLimits cfg.params selection = .ok () → Ok selection
  discovered : ∀ n, ensureTopicLimits cfg.params (cfg.params.discovered (pattern.topics n)) =
    .ok () → Ok (cfg.params.discovered (pattern.topics n))
  loaded : ∀ path loaded selection plan, op.loadedFile ctl = some path →
    loadFileSelection cfg.yaml path (pattern.files path) = .ok loaded →
    pattern.Infers loaded selection → buildTopicToolsPlan selection = .ok plan → Ok selection

section Handlers

variable {cfg : Setting} {pattern : Pattern} {op : Operation} {ctl : Controller}
variable {fleet : Fleet} {Ok : List TopicSelection → Prop} {Sent : List TopicInfo → Prop}
variable {s s' : NodeState World}

theorem Controller.holds_iff :
    ctl.Holds Ok ↔ Ok ctl.lastGuiSelection.topics ∧ Ok ctl.lastFileSelection.topics ∧
      Ok ctl.lastAllSelection.topics ∧ Ok ctl.appliedSelection.topics := by
  simp [Controller.Holds, Controller.snapshots]

/-! ### Steps that keep to it -/

namespace Holding

theorem start (h : ctl.Holds Ok) : Holding Ok Sent ⟨ctl, ⟨fleet, []⟩⟩ :=
  ⟨h, fun _ hevent => absurd hevent List.not_mem_nil⟩

/-- Writing other members changes nothing that is held. -/
theorem write {f : Controller → Controller} (h : Holding Ok Sent s)
    (hf : (f s.ctl).snapshots = s.ctl.snapshots) :
    Holding Ok Sent { s with ctl := f s.ctl } := by
  refine ⟨fun snapshot hmem => h.holds snapshot ?_, h.sent⟩
  rwa [← hf]

/-- One more request, which sends an admitted list if it sends one. -/
theorem record {rpc : Rpc} {outcome : Outcome} {fleet : Fleet} (h : Holding Ok Sent s)
    (hrpc : ∀ sink subs, rpc = .setSubscriptionsYaml sink subs → Sent subs) :
    Holding Ok Sent (s.record rpc outcome fleet) := by
  refine ⟨h.holds, fun event hevent sink subs heq => ?_⟩
  rcases List.mem_append.mp hevent with hevent | hevent
  · exact h.sent event hevent sink subs heq
  · rw [List.mem_singleton.mp hevent] at heq
    exact hrpc sink subs heq

theorem exchange {α : Type} {rpc : Rpc} {serve : Fleet → α × Fleet} {refuse : Fleet → α}
    (hrpc : ∀ sink subs, rpc = .setSubscriptionsYaml sink subs → Sent subs) :
    Spares (Holding Ok Sent) (World.exchange pattern rpc serve refuse) := by
  intro s h
  unfold World.exchange
  cases s.env.next pattern rpc.service <;> exact h.record hrpc

/-- Discovery sends nothing to a sink. -/
theorem quiet (h : Holding Ok Sent s) (hs : Quiet Service.IsDiscovery s s') :
    Holding Ok Sent s' := by
  obtain ⟨events, hlog, hevents⟩ := hs.calls
  refine ⟨by rw [hs.ctl]; exact h.holds, fun event hevent sink subs heq => ?_⟩
  rw [hlog] at hevent
  rcases List.mem_append.mp hevent with hevent | hevent
  · exact h.sent event hevent sink subs heq
  · have hservice := hevents event hevent
    rw [heq] at hservice
    rcases hservice with h' | h' | h' <;> cases h'

end Holding

namespace Admits

/-- Applying and stopping keep to it. -/
theorem respects (h : Admits cfg pattern op ctl Ok Sent) :
    Respects (cfg.environment pattern) Ok (Holding Ok Sent) where
  completed := h.completed
  getState _ := Holding.exchange nofun
  changeState _ _ := Holding.exchange nofun
  setSubscriptionsYaml sink subs hsubs :=
    Holding.exchange fun _ _ heq => by cases heq; exact h.sendable subs hsubs
  loadNode _ := Holding.exchange nofun
  unloadNode _ := Holding.exchange nofun
  introspectionAvailable _ hs := hs.record nofun
  requestTopics _ hs := hs.record nofun
  introspectionEnabled _ := Holding.exchange nofun
  activeTopicTools _ _ hs := hs.write (f := fun ctl => { ctl with activeTopicTools := _ }) rfl
  appliedSelection s snapshot hok hs := by
    have hholds := Controller.holds_iff.mp hs.holds
    exact ⟨Controller.holds_iff.mpr ⟨hholds.1, hholds.2.1, hholds.2.2.1, hok⟩, hs.sent⟩

variable {α : Type}

/-- `m` keeps to it, whether it returns or fails. -/
abbrev Upholds (Ok : List TopicSelection → Prop) (Sent : List TopicInfo → Prop)
    (m : Controlled World α) (s : NodeState World) : Prop :=
  wp m (fun _ => Holding Ok Sent) (fun _ => Holding Ok Sent) s

theorem explain {message : String} (hs : Holding Ok Sent s) :
    Upholds Ok Sent (Ros2Dispatcher.explain (cfg.environment pattern) message) s :=
  hs.write (f := fun ctl => { ctl with
    lastError := message, lastErrorStamp := (cfg.environment pattern).now s.env }) rfl

theorem applyInPhase (h : Admits cfg pattern op ctl Ok Sent) {selection : List TopicSelection}
    (hok : Ok selection) (hs : Holding Ok Sent s) :
    Upholds Ok Sent (applyInPhase cfg.params (cfg.environment pattern) selection) s := by
  have hphase : ∀ (phase : ControllerPhase) (s' : NodeState World), Holding Ok Sent s' →
      Holding Ok Sent { s' with ctl := { s'.ctl with phase := phase } } := fun phase s' hs' =>
    hs'.write (f := fun ctl => { ctl with phase := phase }) rfl
  rw [Upholds, Ros2Dispatcher.applyInPhase, wp_bind, wp_update, wp_bind]
  refine wp_tryCall ?_
  refine wp_mono (h.respects.applySelection (Φ := Failure.IsOwn) hok _ (hphase .busy s hs))
    (fun _ s' hs' => ?_) fun e s' hs' => ?_
  · exact hphase .idle s' hs'
  · exact ⟨fun _ _ => hphase .error s' hs'.2, fun _ _ => hs'.2⟩

theorem commitSelection (h : Admits cfg pattern op ctl Ok Sent)
    {selection : List TopicSelection} {sinkTopics : List TopicInfo} {applyNow : Bool}
    (hok : Ok selection) (hs : Holding Ok Sent s) :
    Upholds Ok Sent
      (commitSelection cfg.params (cfg.environment pattern) selection sinkTopics applyNow) s := by
  have hlimited : Upholds Ok Sent (do
      ofExcept (ensureTopicLimits cfg.params selection)
      if applyNow then Ros2Dispatcher.applyInPhase cfg.params (cfg.environment pattern) selection
      else pure ⟨⟩) s := by
    refine wp_bind.mpr (wp_ofExcept.mpr ⟨fun _ _ => ?_, fun _ _ => hs⟩)
    exact wp_ite.mpr ⟨fun _ => h.applyInPhase hok hs, fun _ => hs⟩
  refine wp_bind.mpr (wp_ite.mpr ⟨fun _ => ?_, fun _ => hlimited⟩)
  exact wp_map.mpr (wp_ofExcept.mpr ⟨fun _ _ => hlimited, fun _ _ => hs⟩)

/-- A selection file is read before any other request, so its types come from the first
query. -/
theorem refreshFileSelection (h : Admits cfg pattern op ctl Ok Sent) {inferPrefix path : String}
    (hpath : op.loadedFile ctl = some path) (hlog : s.env.log = []) (hs : Holding Ok Sent s) :
    wp (refreshFileSelection (cfg.environment pattern) inferPrefix path)
      (fun result s' => Ok result.1 ∧ Holding Ok Sent s') (fun _ => Holding Ok Sent) s := by
  have hcount : ∀ service, s.env.count service = 0 := fun service => by
    rw [World.count, hlog, List.countP_nil]
  rw [Ros2Dispatcher.refreshFileSelection, wp_bind]
  refine wp_ofFailure.mpr ⟨fun loaded hloaded => ?_, fun _ _ => hs⟩
  rw [wp_bind]
  refine wp_tryCall (wp_inferMissingTypes_asks (fun selection s' hs' hasks hinfer => ?_)
    fun _ s' hs' _ => ⟨fun _ _ => hs.quiet hs', fun _ h => by cases h⟩)
  have hquiet := hs.quiet hs'
  refine wp_bind.mpr (wp_ofExcept.mpr ⟨fun plan hplan => ?_, fun _ _ => hquiet⟩)
  have hinfers : pattern.Infers loaded selection := by
    rw [hcount] at hinfer
    refine ⟨fun hneeds => ?_, hinfer⟩
    have hasked := hasks hneeds
    rwa [NodeState.Asks, NodeState.next, NodeState.next, World.next, World.next, hcount,
      hcount] at hasked
  have hok := h.loaded path loaded selection plan hpath hloaded hinfers hplan
  have hholds := Controller.holds_iff.mp hquiet.holds
  exact ⟨hok, Controller.holds_iff.mpr ⟨hholds.1, hok, hholds.2.2⟩, hquiet.sent⟩

theorem refreshAllSelection (h : Admits cfg pattern op ctl Ok Sent) (hs : Holding Ok Sent s) :
    wp (refreshAllSelection cfg.params (cfg.environment pattern))
      (fun result s' => Ok result.1 ∧ Holding Ok Sent s') (fun _ => Holding Ok Sent) s := by
  rw [Ros2Dispatcher.refreshAllSelection, wp_bind]
  refine wp_discoverAllTopics (fun n s' hs' hlimit => ?_) fun _ s' hs' => hs.quiet hs'
  have hquiet := hs.quiet hs'
  refine wp_bind.mpr (wp_ofExcept.mpr ⟨fun plan _ => ?_, fun _ _ => hquiet⟩)
  have hok := h.discovered n hlimit
  have hholds := Controller.holds_iff.mp hquiet.holds
  exact ⟨hok, Controller.holds_iff.mpr ⟨hholds.1, hholds.2.1, hok, hholds.2.2.2⟩, hquiet.sent⟩

/-! ### The handlers -/

theorem switchMode (h : Admits cfg pattern op ctl Ok Sent) (hctl : ctl.Holds Ok)
    {newMode : SelectionMode} {path : String} {applyNow : Bool}
    (hfile : applyNow = true → newMode = .file → op.loadedFile ctl = some (ctl.filePath path)) :
    Upholds Ok Sent (switchMode cfg.params (cfg.environment pattern) newMode path applyNow)
      ⟨ctl, ⟨fleet, []⟩⟩ := by
  have hstart : Holding Ok Sent ⟨ctl, ⟨fleet, []⟩⟩ := .start hctl
  have hswitched := hstart.write (f := fun ctl => { ctl with
    selectionMode := newMode, selectionFilePath := ctl.filePath path }) rfl
  rw [Upholds, Ros2Dispatcher.switchMode, wp_bind, wp_members]
  refine wp_ite.mpr ⟨fun _ => hstart, fun _ => ?_⟩
  rw [wp_bind, wp_update, wp_bind, wp_members]
  refine wp_ite.mpr ⟨fun happly => ?_, fun _ => hswitched⟩
  cases newMode with
  | gui =>
    have hgui := (Controller.holds_iff.mp hctl).1
    exact wp_ite.mpr ⟨fun _ => hswitched, fun _ => h.commitSelection hgui hswitched⟩
  | file =>
    refine wp_ite.mpr ⟨fun _ => hswitched, fun _ => wp_bind.mpr ?_⟩
    exact wp_mono (h.refreshFileSelection (hfile happly rfl) rfl hswitched)
      (fun result s' hs' => h.commitSelection hs'.1 hs'.2) fun _ _ hs' => hs'
  | all =>
    exact wp_bind.mpr (wp_mono (h.refreshAllSelection hswitched)
      (fun result s' hs' => h.commitSelection hs'.1 hs'.2) fun _ _ hs' => hs')

private theorem handleApplySelection {topics : List TopicInfo}
    (h : Admits cfg pattern (.applySelection topics) ctl Ok Sent) (hctl : ctl.Holds Ok) :
    Upholds Ok Sent (handleApplySelection cfg.params (cfg.environment pattern) topics)
      ⟨ctl, ⟨fleet, []⟩⟩ := by
  have hstart : Holding Ok Sent ⟨ctl, ⟨fleet, []⟩⟩ := .start hctl
  rw [Upholds, Ros2Dispatcher.handleApplySelection, wp_bind, wp_members]
  refine wp_ite.mpr ⟨fun _ => hstart, fun _ => wp_ite.mpr ⟨fun _ => hstart, fun _ => ?_⟩⟩
  rw [wp_bind]
  refine wp_tryCall (wp_inferMissingTypes (fun selection s' hs' hinfer => ?_)
    fun _ s' hs' _ => ⟨fun _ _ => explain (hstart.quiet hs'), fun _ h => by cases h⟩)
  have hquiet := hstart.quiet hs'
  dsimp only
  split
  next => exact explain hquiet
  next hlimit =>
    have hok := h.requested topics _ selection rfl hinfer hlimit
    rw [wp_bind]
    refine wp_tryCall (wp_mono (h.applyInPhase hok hquiet) (fun _ s'' hs'' => ?_)
      fun e s'' hs'' => ⟨fun _ _ => explain hs'', fun _ _ => hs''⟩)
    have hholds := Controller.holds_iff.mp hs''.holds
    exact ⟨Controller.holds_iff.mpr ⟨hok, hholds.2⟩, hs''.sent⟩

private theorem answerReload {applyNow : Bool} {m : Controlled World PUnit}
    (hm : Upholds Ok Sent m s) :
    Upholds Ok Sent (answerReload (cfg.environment pattern) applyNow m) s :=
  wp_bind.mpr (wp_tryCall (wp_mono hm (fun _ _ hs' => hs') fun _ _ hs' =>
    ⟨fun _ _ => explain hs', fun _ _ => hs'⟩))

private theorem handleReloadSelection {path : String} {applyNow : Bool}
    (h : Admits cfg pattern (.reloadSelection path applyNow) ctl Ok Sent)
    (hctl : ctl.Holds Ok) :
    Upholds Ok Sent (handleReloadSelection cfg.params (cfg.environment pattern) path applyNow)
      ⟨ctl, ⟨fleet, []⟩⟩ := by
  have hstart : Holding Ok Sent ⟨ctl, ⟨fleet, []⟩⟩ := .start hctl
  rw [Upholds, Ros2Dispatcher.handleReloadSelection, wp_bind, wp_members]
  refine wp_ite.mpr ⟨fun _ => hstart, fun _ => ?_⟩
  dsimp only
  split
  next hmode =>
    refine answerReload (wp_bind.mpr ?_)
    exact wp_mono (h.refreshFileSelection (if_pos hmode) rfl hstart)
      (fun result s' hs' => h.commitSelection hs'.1 hs'.2) fun _ _ hs' => hs'
  next =>
    refine answerReload (wp_bind.mpr ?_)
    exact wp_mono (h.refreshAllSelection hstart)
      (fun result s' hs' => h.commitSelection hs'.1 hs'.2) fun _ _ hs' => hs'
  next =>
    have hgui := (Controller.holds_iff.mp hctl).1
    exact wp_ite.mpr ⟨fun _ => hstart, fun _ => answerReload (h.commitSelection hgui hstart)⟩

private theorem handleStopStreaming {reset : Bool}
    (h : Admits cfg pattern (.stopStreaming reset) ctl Ok Sent) (hctl : ctl.Holds Ok) :
    Upholds Ok Sent (handleStopStreaming cfg.params (cfg.environment pattern) reset)
      ⟨ctl, ⟨fleet, []⟩⟩ := by
  have hstart : Holding Ok Sent ⟨ctl, ⟨fleet, []⟩⟩ := .start hctl
  rw [Upholds, Ros2Dispatcher.handleStopStreaming, wp_bind, wp_members]
  refine wp_ite.mpr ⟨fun _ => hstart, fun _ => wp_bind.mpr ?_⟩
  refine wp_tryCall (wp_mono (h.respects.stopPipeline (Φ := Failure.IsOwn) _ hstart)
    (fun _ s' hs' => ?_) fun e s' hs' => ?_)
  · have hholds := Controller.holds_iff.mp hs'.holds
    refine wp_bind.mpr (wp_ite.mpr ⟨fun _ => ?_, fun _ => ?_⟩)
    · exact ⟨Controller.holds_iff.mpr ⟨h.empty, h.empty, h.empty, h.empty⟩, hs'.sent⟩
    · exact ⟨Controller.holds_iff.mpr ⟨hholds.1, hholds.2.1, hholds.2.2.1, h.empty⟩, hs'.sent⟩
  · refine ⟨fun _ _ => ?_, fun _ _ => hs'.2⟩
    exact explain (hs'.2.write (f := fun ctl => { ctl with phase := .error }) rfl)

private theorem handleGetStatus (h : Admits cfg pattern .getStatus ctl Ok Sent)
    (hctl : ctl.Holds Ok) :
    Upholds Ok Sent (handleGetStatus cfg.params (cfg.environment pattern))
      ⟨ctl, ⟨fleet, []⟩⟩ := by
  have hkeeps : Preserves (Holding Ok Sent)
      (Ros2Dispatcher.handleGetStatus cfg.params (cfg.environment pattern)) :=
    .bind h.respects.getSinkState fun _ => .bind (.ite .pure h.respects.getSinkState) fun _ =>
      .bind (fun _ hs => hs) fun _ => .pure
  exact wp_mono (hkeeps _ (.start hctl)) (fun _ _ hs' => hs') fun _ _ hs' => hs'.2

private theorem handleSetSelectionMode {mode path : String} {applyNow : Bool}
    (h : Admits cfg pattern (.setSelectionMode mode path applyNow) ctl Ok Sent)
    (hctl : ctl.Holds Ok) :
    Upholds Ok Sent
      (handleSetSelectionMode cfg.params (cfg.environment pattern) mode path applyNow)
      ⟨ctl, ⟨fleet, []⟩⟩ := by
  unfold Ros2Dispatcher.handleSetSelectionMode
  split
  next => exact .start hctl
  next newMode hmode =>
    have hswitch : Upholds Ok Sent
        (Ros2Dispatcher.switchMode cfg.params (cfg.environment pattern) newMode path applyNow)
        ⟨ctl, ⟨fleet, []⟩⟩ :=
      h.switchMode hctl fun happly hnew => if_pos ⟨hnew ▸ hmode, happly⟩
    refine wp_bind.mpr (wp_tryCall (wp_mono hswitch (fun _ s' hs' => ?_) fun _ s' hs' =>
      ⟨fun _ _ => hs', fun _ _ => hs'⟩))
    exact hs'.write (f := fun ctl => { ctl with selectionFilePath := ctl.filePath path }) rfl

private theorem onParamChange {batch : List ParameterUpdate}
    (h : Admits cfg pattern (.paramChange batch) ctl Ok Sent) (hctl : ctl.Holds Ok) :
    Upholds Ok Sent (onParamChange cfg.params (cfg.environment pattern) batch)
      ⟨ctl, ⟨fleet, []⟩⟩ := by
  have hstart : Holding Ok Sent ⟨ctl, ⟨fleet, []⟩⟩ := .start hctl
  refine wp_onParamChange_staged (fun _ => hstart) hstart
    fun newMode path requestApply newAutoApply hstaged => ?_
  have hswitch : Upholds Ok Sent
      (Ros2Dispatcher.switchMode cfg.params (cfg.environment pattern) newMode path requestApply)
      ⟨ctl, ⟨fleet, []⟩⟩ := h.switchMode hctl fun happly hnew => by
    simp [Operation.loadedFile, Operation.appliedFile, hstaged, happly, hnew]
  refine wp_mono hswitch (fun _ s' hs' => ?_) fun _ s' hs' => ⟨fun _ _ => hs', fun _ _ => hs'⟩
  exact hs'.write (f := fun ctl => { ctl with
    selectionFilePath := path
    autoApplyOnModeChange := newAutoApply.getD ctl.autoApplyOnModeChange }) rfl

private theorem onStartupTimer (h : Admits cfg pattern .startupTimer ctl Ok Sent)
    (hctl : ctl.Holds Ok) :
    Upholds Ok Sent (onStartupTimer cfg.params (cfg.environment pattern))
      ⟨ctl, ⟨fleet, []⟩⟩ := by
  have hstart : Holding Ok Sent ⟨ctl, ⟨fleet, []⟩⟩ := .start hctl
  rw [Upholds, Ros2Dispatcher.onStartupTimer, wp_bind, wp_members]
  refine wp_ite.mpr ⟨fun (htimer : ctl.startupApplyTimer = true) => ?_, fun _ => hstart⟩
  have hstartup : Upholds Ok Sent (startupApply cfg.params (cfg.environment pattern))
      ⟨ctl, ⟨fleet, []⟩⟩ := by
    rw [Upholds, startupApply, wp_bind, wp_members]
    refine wp_ite.mpr ⟨fun _ => hstart, fun _ => wp_ite.mpr ⟨fun _ => hstart, fun hmode => ?_⟩⟩
    refine wp_ite.mpr ⟨fun _ => hstart, fun _ => ?_⟩
    have hfile : ctl.selectionMode = .file := not_not.mp hmode
    have hswitch : Upholds Ok Sent
        (Ros2Dispatcher.switchMode cfg.params (cfg.environment pattern) ctl.selectionMode
          ctl.selectionFilePath true) ⟨ctl, ⟨fleet, []⟩⟩ := h.switchMode hctl fun _ _ => by
      simp [Operation.loadedFile, Operation.appliedFile, Controller.filePath, htimer, hfile]
    exact wp_bind.mpr (wp_tryCall (wp_mono hswitch (fun _ _ hs' => hs') fun _ _ hs' =>
      ⟨fun _ _ => wp_map.mpr (explain hs'), fun _ _ => hs'⟩))
  refine wp_bind.mpr (wp_mono hstartup (fun _ s' hs' => ?_) fun _ _ hs' => hs')
  exact hs'.write (f := fun ctl => { ctl with startupApplyTimer := false }) rfl

/-- **What the controller holds** and sends keeps to what an operation can take in. -/
theorem wp_run (h : Admits cfg pattern op ctl Ok Sent) (hctl : ctl.Holds Ok) :
    Upholds Ok Sent (op.run cfg.params (cfg.environment pattern)) ⟨ctl, ⟨fleet, []⟩⟩ := by
  cases op with
  | applySelection topics => exact wp_map.mpr (h.handleApplySelection hctl)
  | reloadSelection path applyNow => exact wp_map.mpr (h.handleReloadSelection hctl)
  | stopStreaming reset => exact wp_map.mpr (h.handleStopStreaming hctl)
  | getStatus => exact wp_map.mpr (h.handleGetStatus hctl)
  | setSelectionMode mode path applyNow => exact wp_map.mpr (h.handleSetSelectionMode hctl)
  | paramChange batch => exact wp_map.mpr (h.onParamChange hctl)
  | startupTimer => exact wp_map.mpr (h.onStartupTimer hctl)

end Admits

end Handlers

/-! ### Rounds and runs -/

section Runs

variable {cfg : Setting} {sys sys' : System} {round : Round}
variable {Ok : List TopicSelection → Prop} {Sent : List TopicInfo → Prop}

/-- The constructor leaves empty snapshots behind. -/
theorem Controller.initial_holds {mode filePath : String} {autoApply : Bool} (h : Ok []) :
    (Controller.initial mode filePath autoApply).Holds Ok :=
  Controller.holds_iff.mpr ⟨h, h, h, h⟩

/-- What is held after a round. -/
theorem Setting.step_holds (h : Admits cfg round.pattern round.operation sys.ctl Ok Sent)
    (hsys : sys.ctl.Holds Ok) (hstep : cfg.step sys round = some sys') : sys'.ctl.Holds Ok := by
  have hrun : Admits.Upholds Ok Sent
      (round.operation.run cfg.params (cfg.environment round.pattern)) sys.start := h.wp_run hsys
  obtain ⟨answer, s, hperform, rfl⟩ := Setting.exists_perform_of_step hstep
  exact (of_wp_ok hrun hperform).holds

/-- What is sent during a round. -/
theorem Setting.requests_sent (h : Admits cfg round.pattern round.operation sys.ctl Ok Sent)
    (hsys : sys.ctl.Holds Ok) : ∀ event ∈ cfg.requests sys round, ∀ sink subs,
      event.rpc = .setSubscriptionsYaml sink subs → Sent subs := by
  have hrun : Admits.Upholds Ok Sent
      (round.operation.run cfg.params (cfg.environment round.pattern)) sys.start := h.wp_run hsys
  rw [Setting.requests, Setting.perform]
  cases hresult : round.operation.run cfg.params (cfg.environment round.pattern) sys.start with
  | ok answer s => exact (of_wp_ok hrun hresult).sent
  | error failure s => exact (of_wp_error hrun hresult).sent

end Runs

end Ros2Dispatcher
