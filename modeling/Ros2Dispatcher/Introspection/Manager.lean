import Ros2Dispatcher.Controller.Types
import Mathlib.Data.List.Sort

/-!
# The introspection manager

The manager keeps a snapshot of the topics of the ROS graph. A thread of its own waits for
the graph to change, reads it and stores what it read; `get_topics` answers from the snapshot.
Other threads see the thread at the points `MonitorAt`, and `Manager.monitorStep` is what it
does from one to the next.

The graph is part of the state: what `get_topic_names_and_types` returns at the moment. An
event object is a flag. The manager holds one, which every graph change sets; the object it
replaces by `get_graph_event` has no other owner and is gone.
-/

namespace Ros2Dispatcher.Introspection

/-! ### Topic maps -/

/-- `std::map` from topic names to type names: its entries in the order of the names. -/
structure TopicMap where
  entries : List (String × List String)
  ordered : entries.Pairwise fun entry entry' => entry.1 < entry'.1
deriving DecidableEq

/-- The map without entries. -/
def TopicMap.empty : TopicMap := ⟨[], .nil⟩

/-- The map of one topic with one type. -/
def TopicMap.single (name typeName : String) : TopicMap where
  entries := [(name, [typeName])]
  ordered := List.pairwise_singleton _ _

/-- The entries whose names satisfy a test. -/
def TopicMap.filter (test : String → Bool) (topics : TopicMap) : TopicMap where
  entries := topics.entries.filter fun entry => test entry.1
  ordered := topics.ordered.filter _

/-- One `TopicInfo` for each type of each topic, as `publish_topics_info` and
`handle_get_topics` list them. -/
def TopicMap.infos (topics : TopicMap) : List TopicInfo :=
  topics.entries.flatMap fun entry => entry.2.map fun typeName => ⟨entry.1, typeName⟩

/-- `is_topic_hidden` from a position on: the token up to the next slash is tested, and the
scan goes on behind that slash. -/
def isTopicHiddenFrom (name : List Char) : Bool :=
  if name.isEmpty then false
  else if (name.takeWhile (· ≠ '/')).head? = some '_' then true
  else
    let fromSlash := name.dropWhile (· ≠ '/')
    -- no further slash, and the last token does not begin with an underscore
    if fromSlash.isEmpty then false else isTopicHiddenFrom fromSlash.tail
termination_by name.length
decreasing_by
  rename_i hname _ _
  have hpos : 0 < name.length := List.length_pos_iff.mpr (by simpa using hname)
  have hlength := (List.dropWhile_sublist (· ≠ '/') (l := name)).length_le
  rw [List.length_tail]
  omega

/-- `is_topic_hidden`. -/
def isTopicHidden (topicName : String) : Bool :=
  isTopicHiddenFrom topicName.toList

/-! ### The node -/

/-- What the monitor thread does next: wait, `check_and_clear`, read the graph in
`update_topics`, store what it read, publish it and keep it for the next comparison, or fetch
a new event. -/
inductive MonitorAt
  | waiting
  | checking
  | reading
  | storing (topics : TopicMap) (changed : Bool)
  | publishing (topics : TopicMap) (changed : Bool)
  | fetching
deriving DecidableEq

/-- The node next to the graph it watches. `graphEvent` is whether its event is set, `monitor`
is none when there is no monitor thread. -/
structure Manager where
  graph : TopicMap
  publishOnChange : Bool
  filterHidden : Bool
  activeTopics : TopicMap
  previousTopics : TopicMap
  graphEvent : Bool
  runGraphMonitor : Bool
  monitor : Option MonitorAt
  topicsInfo : List (List TopicInfo)
deriving DecidableEq

namespace Manager

/-- `filter_hidden_topics`. -/
def filterHiddenTopics (m : Manager) (topics : TopicMap) : TopicMap :=
  if m.filterHidden then topics.filter fun name => !isTopicHidden name else topics

/-- The topics of the graph that are not filtered out. -/
def graphTopics (m : Manager) : TopicMap :=
  m.filterHiddenTopics m.graph

/-- The answer of `handle_get_topics`. -/
def handleGetTopics (m : Manager) : List TopicInfo :=
  m.activeTopics.infos

/-- The graph changes. -/
def changeGraph (graph : TopicMap) (m : Manager) : Manager :=
  { m with graph := graph, graphEvent := true }

/-- `get_graph_event`. -/
def getGraphEvent (m : Manager) : Manager :=
  { m with graphEvent := false }

/-- The head of the loop of `monitor_graph`: one more round, or the end. -/
def iterate (m : Manager) : Manager :=
  { m with monitor := if m.runGraphMonitor then some .waiting else none }

/-- What the monitor thread does at a point. -/
def monitorStep (m : Manager) : Option Manager :=
  m.monitor.map fun
    -- an event that is set or 500 ms end the wait
    | .waiting => { m with monitor := some .checking }
    | .checking =>
      if m.graphEvent then { m with graphEvent := false, monitor := some .reading }
      -- the wait timed out, and the head of the loop looks at `run_graph_monitor_` again
      else m.iterate
    | .reading =>
      { m with monitor := some (.storing m.graphTopics (m.graphTopics ≠ m.previousTopics)) }
    | .storing topics changed =>
      { m with activeTopics := topics, monitor := some (.publishing topics changed) }
    | .publishing topics changed =>
      { m with
        topicsInfo := if changed && m.publishOnChange then m.topicsInfo ++ [topics.infos]
          else m.topicsInfo
        previousTopics := topics
        monitor := some .fetching }
    | .fetching => m.getGraphEvent.iterate

/-- The node as its constructor leaves it: the snapshot is taken, and with
`introspection_enabled` the event for the monitor is still to be fetched. -/
def initial (publishOnChange filterHidden introspectionEnabled : Bool) (graph : TopicMap) :
    Manager :=
  let m : Manager :=
    { graph := graph
      publishOnChange := publishOnChange
      filterHidden := filterHidden
      activeTopics := .empty
      previousTopics := .empty
      graphEvent := false
      runGraphMonitor := introspectionEnabled
      monitor := if introspectionEnabled then some .fetching else none
      topicsInfo := [] }
  { m with activeTopics := m.graphTopics, previousTopics := m.graphTopics }

/-- At most `n` steps of the monitor thread. -/
def runMonitor : ℕ → Manager → Manager
  | 0, m => m
  | n + 1, m =>
    match m.monitorStep with
    | some m' => runMonitor n m'
    | none => m

/-- One round of the monitor's loop, from the wait back to its head. -/
def round (m : Manager) : Manager :=
  runMonitor 6 m

/-- The branch of the parameter callback for `introspection_enabled`; turning it off joins the
thread, which first ends its round. -/
def setIntrospectionEnabled (enable : Bool) (m : Manager) : Manager :=
  -- asking for what is the case already changes nothing
  if enable && !m.runGraphMonitor then
    { m.getGraphEvent with runGraphMonitor := true, monitor := some .waiting }
  else if !enable && m.runGraphMonitor then round { m with runGraphMonitor := false }
  else m

/-! ### The idle manager -/

/-- Nothing is left to do: the monitor waits for an event that is not set, or there is no
monitor. -/
def Idle (m : Manager) : Prop :=
  (m.runGraphMonitor = true ∧ m.monitor = some .waiting ∧ m.graphEvent = false) ∨
    (m.runGraphMonitor = false ∧ m.monitor = none)

/-- The two managers watch the same graph, filter it in the same way and have the same
snapshot. -/
structure SameTopics (m m' : Manager) : Prop where
  graph : m'.graph = m.graph
  filterHidden : m'.filterHidden = m.filterHidden
  activeTopics : m'.activeTopics = m.activeTopics

variable {m : Manager}

theorem SameTopics.graphTopics {m' : Manager} (h : m.SameTopics m') :
    m'.graphTopics = m.graphTopics := by
  unfold Manager.graphTopics filterHiddenTopics
  rw [h.graph, h.filterHidden]

/-- A monitor that is left in peace after a graph change has the topics of the new graph; a
change nobody watches leaves the snapshot alone. -/
theorem Idle.round_changeGraph (h : m.Idle) (graph : TopicMap) :
    (m.changeGraph graph).round.Idle ∧ (m.changeGraph graph).round.SameTopics
      { m with
        graph := graph
        activeTopics := if m.runGraphMonitor then m.filterHiddenTopics graph
          else m.activeTopics } := by
  obtain ⟨_, publishOnChange, filterHidden, activeTopics, previousTopics, graphEvent,
    runGraphMonitor, monitor, topicsInfo⟩ := m
  rcases h with ⟨hrun, hmonitor, hevent⟩ | ⟨hrun, hmonitor⟩
  · dsimp only at hrun hmonitor hevent
    subst hrun hmonitor hevent
    exact ⟨.inl ⟨rfl, rfl, rfl⟩, rfl, rfl, rfl⟩
  · dsimp only at hrun hmonitor
    subst hrun hmonitor
    exact ⟨.inr ⟨rfl, rfl⟩, rfl, rfl, rfl⟩

/-- Turning introspection on or off leaves the snapshot alone. -/
theorem Idle.setIntrospectionEnabled (h : m.Idle) (enable : Bool) :
    (m.setIntrospectionEnabled enable).Idle ∧
      m.SameTopics (m.setIntrospectionEnabled enable) := by
  obtain ⟨_, publishOnChange, filterHidden, activeTopics, previousTopics, graphEvent,
    runGraphMonitor, monitor, topicsInfo⟩ := m
  rcases h with ⟨hrun, hmonitor, hevent⟩ | ⟨hrun, hmonitor⟩
  · dsimp only at hrun hmonitor hevent
    subst hrun hmonitor hevent
    cases enable with
    | true => exact ⟨.inl ⟨rfl, rfl, rfl⟩, rfl, rfl, rfl⟩
    | false => exact ⟨.inr ⟨rfl, rfl⟩, rfl, rfl, rfl⟩
  · dsimp only at hrun hmonitor
    subst hrun hmonitor
    cases enable with
    | true => exact ⟨.inl ⟨rfl, rfl, rfl⟩, rfl, rfl, rfl⟩
    | false => exact ⟨.inr ⟨rfl, rfl⟩, rfl, rfl, rfl⟩

/-- The node when its constructor has returned and its monitor, if it has one, waits. -/
def boot (publishOnChange filterHidden introspectionEnabled : Bool) (graph : TopicMap) : Manager :=
  runMonitor 1 (initial publishOnChange filterHidden introspectionEnabled graph)

/-- A node that has just started is idle and has the topics of the graph. -/
theorem boot_idle {publishOnChange filterHidden introspectionEnabled : Bool} {graph : TopicMap} :
    (boot publishOnChange filterHidden introspectionEnabled graph).Idle ∧
      (boot publishOnChange filterHidden introspectionEnabled graph).activeTopics =
        (boot publishOnChange filterHidden introspectionEnabled graph).graphTopics := by
  cases introspectionEnabled with
  | true => exact ⟨.inl ⟨rfl, rfl, rfl⟩, rfl⟩
  | false => exact ⟨.inr ⟨rfl, rfl⟩, rfl⟩

end Manager

end Ros2Dispatcher.Introspection
