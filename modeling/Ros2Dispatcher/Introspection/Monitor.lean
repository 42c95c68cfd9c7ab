import Ros2Dispatcher.Introspection.Manager
import Ros2Dispatcher.Library.Runs

/-!
# Graph changes and the monitor

The monitor clears its event before it reads the graph, so a change in between only means
another round. But it fetches a new event after the read, and the old one is dropped with
whatever was set on it meanwhile: a change that falls between the read and the fetch is lost.

`Manager.Tracks` is what holds at each point of the monitor if no such change happens. With
it the snapshot is that of the graph whenever the monitor waits for an event that is not set
(`monitor_fresh`).
-/

namespace Ros2Dispatcher.Introspection

/-- A graph change, or the next step of the monitor. -/
inductive Input
  | change (graph : TopicMap)
  | monitor

namespace Manager

variable {m m' : Manager}

/-- The manager after a step. -/
def step (m : Manager) : Input → Option Manager
  | .change graph => some (m.changeGraph graph)
  | .monitor => m.monitorStep

/-- The monitor is about to wait for an event that is not set. -/
def AboutToWait (m : Manager) : Prop :=
  m.monitor = some .waiting ∧ m.graphEvent = false

/-- The snapshot is that of the graph whenever the monitor is about to wait for an event that
is not set. -/
def Fresh (m : Manager) : Prop :=
  m.AboutToWait → m.activeTopics = m.graphTopics

/-- The monitor has read the graph and not fetched a new event yet. -/
def InGap (m : Manager) : Prop :=
  ∃ point, m.monitor = some point ∧ point ≠ .waiting ∧ point ≠ .checking ∧ point ≠ .reading

/-- The three points of the gap. -/
theorem InGap.cases (h : m.InGap) :
    (∃ topics changed, m.monitor = some (.storing topics changed)) ∨
      (∃ topics changed, m.monitor = some (.publishing topics changed)) ∨
      m.monitor = some .fetching := by
  obtain ⟨point, hpoint, hwaiting, hchecking, hreading⟩ := h
  cases point with
  | waiting => exact absurd rfl hwaiting
  | checking => exact absurd rfl hchecking
  | reading => exact absurd rfl hreading
  | storing topics changed => exact .inl ⟨topics, changed, hpoint⟩
  | publishing topics changed => exact .inr (.inl ⟨topics, changed, hpoint⟩)
  | fetching => exact .inr (.inr hpoint)

/-- A step that does not change the topics of the graph in the gap. -/
def Spares (m : Manager) : Input → Prop
  | .change graph => m.InGap → m.filterHiddenTopics graph = m.graphTopics
  | .monitor => True

/-- What holds when the monitor is at a point. -/
def TracksAt (m : Manager) : MonitorAt → Prop
  | .waiting => m.graphEvent = false → m.activeTopics = m.graphTopics
  | .checking => m.graphEvent = false → m.activeTopics = m.graphTopics
  | .reading => True
  | .storing topics _ => topics = m.graphTopics
  | .publishing _ _ => m.activeTopics = m.graphTopics
  | .fetching => m.activeTopics = m.graphTopics

/-- The invariant of the monitor, while introspection is enabled. -/
structure Tracks (m : Manager) : Prop where
  enabled : m.runGraphMonitor = true
  running : ∃ point, m.monitor = some point ∧ m.TracksAt point

theorem Tracks.fresh (h : m.Tracks) : m.Fresh := by
  rintro ⟨hwaiting, hunset⟩
  obtain ⟨point, hpoint, htracks⟩ := h.running
  rw [hwaiting] at hpoint
  cases hpoint
  exact htracks hunset

/-- A change keeps the invariant if it spares the gap. -/
theorem Tracks.changeGraph {graph : TopicMap} (h : m.Tracks) (hspares : m.Spares (.change graph)) :
    (m.changeGraph graph).Tracks := by
  obtain ⟨henabled, point, hpoint, htracks⟩ := h
  refine ⟨henabled, point, hpoint, ?_⟩
  have hsame : m.InGap → (m.changeGraph graph).graphTopics = m.graphTopics := hspares
  cases point with
  -- the change has set the event
  | waiting => exact fun hunset => Bool.noConfusion hunset
  | checking => exact fun hunset => Bool.noConfusion hunset
  | reading => trivial
  -- the graph has been read, so only a change of the topics would be missed
  | storing topics changed =>
    exact htracks.trans (hsame ⟨_, hpoint, by simp⟩).symm
  | publishing topics changed =>
    exact htracks.trans (hsame ⟨_, hpoint, by simp⟩).symm
  | fetching =>
    exact htracks.trans (hsame ⟨_, hpoint, by simp⟩).symm

/-- The monitor keeps the invariant. -/
theorem Tracks.monitorStep (h : m.Tracks) (hstep : m.monitorStep = some m') : m'.Tracks := by
  obtain ⟨henabled, point, hpoint, htracks⟩ := h
  rw [Manager.monitorStep, hpoint, Option.map_some, Option.some_inj] at hstep
  subst hstep
  cases point with
  | waiting => exact ⟨henabled, _, rfl, htracks⟩
  | checking =>
    by_cases hset : m.graphEvent = true
    · rw [if_pos hset]
      exact ⟨henabled, _, rfl, trivial⟩
    · rw [if_neg hset]
      exact ⟨henabled, .waiting, if_pos henabled, htracks⟩
  | reading => exact ⟨henabled, _, rfl, rfl⟩
  | storing topics changed => exact ⟨henabled, _, rfl, htracks⟩
  | publishing topics changed => exact ⟨henabled, _, rfl, htracks⟩
  | fetching => exact ⟨henabled, .waiting, if_pos henabled, fun _ => htracks⟩

/-- The invariant holds in the state the constructor leaves. -/
theorem tracks_initial {publishOnChange filterHidden : Bool} {graph : TopicMap} :
    (initial publishOnChange filterHidden true graph).Tracks :=
  ⟨rfl, .fetching, rfl, rfl⟩

/-- A run whose steps spare the gap keeps the invariant. -/
theorem Tracks.runs (h : m.Tracks) (hruns : Runs step Spares m m') : m'.Tracks :=
  hruns.invariant (I := Tracks) (fun m input m'' htracks hspares hstep => by
    cases input with
    | change graph =>
      cases hstep
      exact htracks.changeGraph hspares
    | monitor => exact htracks.monitorStep hstep) h

/-! ### Changes in the gap -/

/-- The topics the snapshot has when the monitor comes from a point to the wait. -/
def heldAt (m : Manager) : MonitorAt → TopicMap
  | .waiting => m.activeTopics
  | .checking => m.activeTopics
  | .reading => m.graphTopics
  | .storing topics _ => topics
  | .publishing _ _ => m.activeTopics
  | .fetching => m.activeTopics

/-- A run of the monitor alone. -/
abbrev MonitorRuns : Manager → Manager → Prop :=
  Runs step fun _ input => input = .monitor

theorem MonitorRuns.head {m'' : Manager} (hstep : m.monitorStep = some m')
    (h : MonitorRuns m' m'') : MonitorRuns m m'' :=
  Runs.trans (Runs.single (i := Input.monitor) rfl hstep) h

/-- From the fetch the monitor goes to the wait, with the snapshot as it is. -/
theorem runs_of_fetching (henabled : m.runGraphMonitor = true)
    (hpoint : m.monitor = some .fetching) :
    ∃ m', MonitorRuns m m' ∧ m'.AboutToWait ∧ m'.activeTopics = m.activeTopics ∧
      m'.graphTopics = m.graphTopics := by
  refine ⟨m.getGraphEvent.iterate, .head ?_ .refl, ⟨if_pos henabled, rfl⟩, rfl, rfl⟩
  rw [monitorStep, hpoint]
  rfl

theorem runs_of_publishing {topics : TopicMap} {changed : Bool}
    (henabled : m.runGraphMonitor = true) (hpoint : m.monitor = some (.publishing topics changed)) :
    ∃ m', MonitorRuns m m' ∧ m'.AboutToWait ∧ m'.activeTopics = m.activeTopics ∧
      m'.graphTopics = m.graphTopics := by
  obtain ⟨m₁, hstep, hrun, hfetching, hactive, hgraph⟩ : ∃ m₁, m.monitorStep = some m₁ ∧
      m₁.runGraphMonitor = m.runGraphMonitor ∧ m₁.monitor = some .fetching ∧
      m₁.activeTopics = m.activeTopics ∧ m₁.graphTopics = m.graphTopics := by
    rw [monitorStep, hpoint]
    exact ⟨_, rfl, rfl, rfl, rfl, rfl⟩
  obtain ⟨m₂, hruns, hwait, hactive', hgraph'⟩ :=
    runs_of_fetching (hrun.trans henabled) hfetching
  exact ⟨m₂, hruns.head hstep, hwait, hactive'.trans hactive, hgraph'.trans hgraph⟩

/-- From the gap the monitor goes to the wait, with the topics it has read. -/
theorem runs_of_inGap (henabled : m.runGraphMonitor = true) (hgap : m.InGap) :
    ∃ m' point, m.monitor = some point ∧ MonitorRuns m m' ∧ m'.AboutToWait ∧
      m'.activeTopics = m.heldAt point ∧ m'.graphTopics = m.graphTopics := by
  obtain ⟨topics, changed, hpoint⟩ | ⟨topics, changed, hpoint⟩ | hpoint := hgap.cases
  · have hstep : m.monitorStep = some { m with
        activeTopics := topics, monitor := some (.publishing topics changed) } := by
      rw [monitorStep, hpoint]
      rfl
    obtain ⟨m', hruns, hwait, hactive, hgraph⟩ := runs_of_publishing (m := { m with
      activeTopics := topics, monitor := some (.publishing topics changed) }) henabled rfl
    exact ⟨m', _, hpoint, hruns.head hstep, hwait, hactive, hgraph⟩
  · obtain ⟨m', hruns, hwait, hactive, hgraph⟩ := runs_of_publishing henabled hpoint
    exact ⟨m', _, hpoint, hruns, hwait, hactive, hgraph⟩
  · obtain ⟨m', hruns, hwait, hactive, hgraph⟩ := runs_of_fetching henabled hpoint
    exact ⟨m', _, hpoint, hruns, hwait, hactive, hgraph⟩

/-- A change of the topics in the gap is lost: the monitor goes to the wait without it. -/
theorem Tracks.loses {graph : TopicMap} (h : m.Tracks) (hchange : ¬m.Spares (.change graph)) :
    ∃ m', MonitorRuns (m.changeGraph graph) m' ∧ ¬m'.Fresh := by
  obtain ⟨hgap, hdiffers⟩ := Classical.not_imp.mp hchange
  have hgap' : (m.changeGraph graph).InGap := hgap
  obtain ⟨m', point, hpoint, hruns, hwait, hactive, hgraph⟩ :=
    runs_of_inGap (m := m.changeGraph graph) h.enabled hgap'
  obtain ⟨point', hpoint', htracks⟩ := h.running
  have hsame : point = point' := Option.some_inj.mp (hpoint.symm.trans hpoint')
  subst hsame
  refine ⟨m', hruns, fun hfresh => hdiffers ?_⟩
  -- what the monitor has read is the graph before the change
  have hheld : (m.changeGraph graph).heldAt point = m.graphTopics := by
    have hmonitor : m.monitor = some point := hpoint
    obtain ⟨topics, changed, hstoring⟩ | ⟨topics, changed, hpublishing⟩ | hfetching := hgap.cases
    · cases Option.some_inj.mp (hstoring.symm.trans hmonitor)
      exact htracks
    · cases Option.some_inj.mp (hpublishing.symm.trans hmonitor)
      exact htracks
    · cases Option.some_inj.mp (hfetching.symm.trans hmonitor)
      exact htracks
  calc m.filterHiddenTopics graph = (m.changeGraph graph).graphTopics := rfl
    _ = m'.graphTopics := hgraph.symm
    _ = m'.activeTopics := (hfresh hwait).symm
    _ = (m.changeGraph graph).heldAt point := hactive
    _ = m.graphTopics := hheld

/-- **No graph change is lost** if none changes the topics between the monitor's read and its
fetch of a new event: whenever the monitor is about to wait for an event that is not set, the
snapshot and the answer of `get_topics` are those of the graph. Any change of the topics there
is lost, if the monitor comes to the wait before the next one. -/
theorem monitor_fresh {publishOnChange filterHidden : Bool} {graph : TopicMap} {m : Manager}
    (hruns : Runs step Spares (initial publishOnChange filterHidden true graph) m) :
    (m.AboutToWait → m.activeTopics = m.graphTopics ∧
      m.handleGetTopics = m.graphTopics.infos) ∧
    ∀ graph', ¬m.Spares (.change graph') →
      ∃ m', MonitorRuns (m.changeGraph graph') m' ∧ ¬m'.Fresh := by
  have htracks : m.Tracks := tracks_initial.runs hruns
  refine ⟨fun hwait => ⟨htracks.fresh hwait, ?_⟩, fun graph' => htracks.loses⟩
  rw [handleGetTopics, htracks.fresh hwait]

/-- A graph of one topic. -/
abbrev graphOf (name : String) : TopicMap :=
  .single name "std_msgs/msg/String"

/-- A topic that appears while the monitor waits is in the next answer. -/
theorem monitor_fresh_after_change :
    ∃ m, Runs step Spares (initial true false true .empty) m ∧ m.AboutToWait ∧
      m.handleGetTopics = [⟨"/a", "std_msgs/msg/String"⟩] := by
  obtain ⟨m₁, hfetch, hwaiting, hround⟩ : ∃ m₁,
      step (initial true false true .empty) .monitor = some m₁ ∧ m₁.monitor = some .waiting ∧
      (List.replicate 6 Input.monitor).foldlM step (m₁.changeGraph (graphOf "/a")) =
        some { initial true false true (graphOf "/a") with
          monitor := some .waiting, topicsInfo := [(graphOf "/a").infos] } :=
    ⟨_, rfl, rfl, rfl⟩
  have hspares : m₁.Spares (.change (graphOf "/a")) := fun hgap => by
    obtain ⟨point, hpoint, hne, _⟩ := hgap
    exact absurd (Option.some_inj.mp (hpoint.symm.trans hwaiting)) hne
  have hruns := ((Runs.single (i := Input.monitor) trivial hfetch).trans
    (Runs.single hspares rfl)).trans (Runs.of_foldlM (C := Spares) hround fun input hinput _ => by
      rw [List.eq_of_mem_replicate hinput]
      trivial)
  exact ⟨_, hruns, ⟨rfl, rfl⟩, ((monitor_fresh hruns).1 ⟨rfl, rfl⟩).2⟩

/-- A second topic that appears between the monitor's read and its fetch of a new event is not
in the snapshot when the monitor waits again, with its event unset. -/
theorem monitor_loses_change :
    ∃ m, [.monitor, .change (graphOf "/a"), .monitor, .monitor, .monitor, .change (graphOf "/b"),
        .monitor, .monitor, .monitor].foldlM step (initial true false true .empty) = some m ∧
      m.AboutToWait ∧ m.graphTopics = graphOf "/b" ∧ m.activeTopics = graphOf "/a" :=
  ⟨_, rfl, ⟨rfl, rfl⟩, rfl, rfl⟩

end Manager

end Ros2Dispatcher.Introspection
