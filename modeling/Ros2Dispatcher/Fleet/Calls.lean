import Ros2Dispatcher.Fleet.World

/-!
# The controller's requests in the fleet

One rule per procedure that makes a request, giving its weakest precondition in the fleet:
what the outcome drawn from the pattern does to the fleet and whether the procedure returns
or fails. The proofs about whole operations use these rules and never unfold the servers.

`Calls S s s'` says that only services in `S` were called between two states, and `Quiet`
that besides nothing changed; the request counters of all other services are then where
they were (`Calls.count_eq`), which is how a proof knows which outcome comes next.
-/

namespace Ros2Dispatcher

open Procedure

/-! ### The request log -/

/-- The state after a request that left the fleet as `fleet`. -/
def NodeState.record (s : NodeState World) (rpc : Rpc) (outcome : Outcome) (fleet : Fleet) :
    NodeState World :=
  { s with env := s.env.record rpc outcome fleet }

section Record

variable {s : NodeState World} {rpc : Rpc} {outcome : Outcome} {fleet : Fleet}

@[simp]
theorem NodeState.record_fleet : (s.record rpc outcome fleet).env.fleet = fleet := rfl

@[simp]
theorem NodeState.record_log :
    (s.record rpc outcome fleet).env.log = s.env.log ++ [⟨rpc, outcome, s.env.fleet⟩] := rfl

@[simp]
theorem NodeState.count_record {service : Service} :
    (s.record rpc outcome fleet).env.count service =
      s.env.count service + if rpc.service = service then 1 else 0 := by
  simp [World.count, List.countP_append, List.countP_singleton]

end Record

/-- Between `s` and `s'` only services in `S` were called. -/
def Calls (S : Service → Prop) (s s' : NodeState World) : Prop :=
  ∃ events, s'.env.log = s.env.log ++ events ∧ ∀ event ∈ events, S event.rpc.service

namespace Calls

variable {S T : Service → Prop} {s s' s'' : NodeState World}

protected theorem refl : Calls S s s :=
  ⟨[], by simp, by simp⟩

protected theorem trans (h : Calls S s s') (h' : Calls S s' s'') : Calls S s s'' := by
  obtain ⟨events, hlog, hS⟩ := h
  obtain ⟨events', hlog', hS'⟩ := h'
  refine ⟨events ++ events', by rw [hlog', hlog, List.append_assoc], fun event he => ?_⟩
  exact (List.mem_append.mp he).elim (hS event) (hS' event)

protected theorem mono (h : Calls S s s') (hST : ∀ service, S service → T service) :
    Calls T s s' := by
  obtain ⟨events, hlog, hS⟩ := h
  exact ⟨events, hlog, fun event he => hST _ (hS event he)⟩

protected theorem record {rpc : Rpc} {outcome : Outcome} {fleet : Fleet} (h : S rpc.service) :
    Calls S s (s.record rpc outcome fleet) :=
  ⟨[⟨rpc, outcome, s.env.fleet⟩], rfl, by simpa using h⟩

/-- Services outside `S` have been called as often as before. -/
theorem count_eq (h : Calls S s s') {service : Service} (hs : ¬S service) :
    s'.env.count service = s.env.count service := by
  obtain ⟨events, hlog, hS⟩ := h
  have hzero : events.countP (fun event => event.rpc.service = service) = 0 := by
    refine List.countP_eq_zero.mpr fun event he => ?_
    simp only [decide_eq_true_eq]
    exact fun heq => hs (heq ▸ hS event he)
  rw [World.count, hlog, List.countP_append, hzero, Nat.add_zero, World.count]

end Calls

/-- The unload requests between `s` and `s'` are for components in `ids`, and each was made
while the fleet satisfied `P`. -/
def Unloads (ids : List Nat) (P : Fleet → Prop) (s s' : NodeState World) : Prop :=
  ∃ events, s'.env.log = s.env.log ++ events ∧
    ∀ event ∈ events, ∀ id, event.rpc = .unloadNode id → id ∈ ids ∧ P event.fleet

section Unloads

variable {ids : List Nat} {P : Fleet → Prop} {s s' s'' : NodeState World}

protected theorem Unloads.trans (h : Unloads ids P s s') (h' : Unloads ids P s' s'') :
    Unloads ids P s s'' := by
  obtain ⟨events, hlog, hP⟩ := h
  obtain ⟨events', hlog', hP'⟩ := h'
  refine ⟨events ++ events', by rw [hlog', hlog, List.append_assoc], fun event he => ?_⟩
  exact (List.mem_append.mp he).elim (hP event) (hP' event)

/-- Calls of other services make no unload request. -/
theorem Calls.unloads {S : Service → Prop} (h : Calls S s s') (hS : ¬S .unloadNode) :
    Unloads ids P s s' := by
  obtain ⟨events, hlog, hevents⟩ := h
  refine ⟨events, hlog, fun event he id hid => absurd (hevents event he) ?_⟩
  rw [hid]
  exact hS

end Unloads

/-- Between `s` and `s'` only services in `S` were called, and neither the controller nor
the fleet changed. -/
structure Quiet (S : Service → Prop) (s s' : NodeState World) : Prop where
  ctl : s'.ctl = s.ctl
  fleet : s'.env.fleet = s.env.fleet
  calls : Calls S s s'

namespace Quiet

variable {S : Service → Prop} {s s' s'' : NodeState World}

protected theorem refl : Quiet S s s :=
  ⟨rfl, rfl, .refl⟩

protected theorem trans (h : Quiet S s s') (h' : Quiet S s' s'') : Quiet S s s'' :=
  ⟨h'.ctl.trans h.ctl, h'.fleet.trans h.fleet, h.calls.trans h'.calls⟩

protected theorem mono {T : Service → Prop} (h : Quiet S s s')
    (hST : ∀ service, S service → T service) : Quiet T s s' :=
  ⟨h.ctl, h.fleet, h.calls.mono hST⟩

protected theorem record {rpc : Rpc} {outcome : Outcome} (h : S rpc.service) :
    Quiet S s (s.record rpc outcome s.env.fleet) :=
  ⟨rfl, rfl, .record h⟩

end Quiet

/-! ### One request -/

/-- No request to a service has an effect although its answer comes too late. -/
def Pattern.NeverLate (pattern : Pattern) (service : Service) : Prop :=
  ∀ n, pattern.outcome service n ≠ .timeout true

variable {cfg : Setting} {pattern : Pattern} {sink : Sink} {s : NodeState World}
variable {E : Failure → NodeState World → Prop}

/-- The outcome the pattern has for the next request to a service. -/
abbrev NodeState.next (s : NodeState World) (pattern : Pattern) (service : Service) : Outcome :=
  s.env.next pattern service

/-- The rule for a request, one premise for each way it can end. -/
theorem wp_exchange {α : Type} {rpc : Rpc} {serve : Fleet → α × Fleet} {refuse : Fleet → α}
    {Q : RpcResult α → NodeState World → Prop}
    (hanswered : s.next pattern rpc.service = .answered →
      Q (.reply (serve s.env.fleet).1) (s.record rpc .answered (serve s.env.fleet).2))
    (hrejected : s.next pattern rpc.service = .rejected →
      Q (.reply (refuse s.env.fleet)) (s.record rpc .rejected s.env.fleet))
    (hunavailable : s.next pattern rpc.service = .unavailable →
      Q .unavailable (s.record rpc .unavailable s.env.fleet))
    (htimeout : ∀ performed, s.next pattern rpc.service = .timeout performed →
      Q .timeout (s.record rpc (.timeout performed)
        (if performed then (serve s.env.fleet).2 else s.env.fleet))) :
    wp (request (World.exchange pattern rpc serve refuse)) Q E s := by
  rw [wp_request]
  unfold World.exchange
  cases hnext : s.env.next pattern rpc.service with
  | answered => exact hanswered hnext
  | rejected => exact hrejected hnext
  | unavailable => exact hunavailable hnext
  | timeout performed => exact htimeout performed hnext

/-! ### Rules for the sinks -/

/-- A state query sees the state as it is, or nothing. -/
theorem wp_getSinkState {Q : Option LifecycleState → NodeState World → Prop}
    (hclients : cfg.params.hasClients sink = true)
    (hreply : ∀ outcome, s.next pattern (.getState sink) = outcome → outcome.replies = true →
      Q (some (s.env.fleet.sink sink).state.primary)
        (s.record (.getState sink) outcome s.env.fleet))
    (hnone : ∀ outcome, s.next pattern (.getState sink) = outcome → outcome.replies = false →
      Q none (s.record (.getState sink) outcome s.env.fleet)) :
    wp (getSinkState cfg.params (cfg.environment pattern) sink) Q E s := by
  rw [getSinkState, if_pos hclients, wp_bind]
  refine wp_exchange (fun h => hreply _ h rfl) (fun h => hreply _ h rfl)
    (fun h => hnone _ h rfl) fun performed h => ?_
  rw [ite_self]
  exact hnone _ h rfl

theorem Fleet.serveTransition_some {fleet : Fleet} {transition : Transition} {node : SinkNode}
    (h : (fleet.sink sink).transition transition = some node) :
    Fleet.serveTransition sink transition fleet = (true, fleet.setSink node sink) := by
  rw [Fleet.serveTransition, h]

theorem Fleet.serveTransition_none {fleet : Fleet} {transition : Transition}
    (h : (fleet.sink sink).transition transition = none) :
    Fleet.serveTransition sink transition fleet = (false, fleet) := by
  rw [Fleet.serveTransition, h]

/-- A transition request returns exactly when it is answered and the state has the
transition; a late one may still have been performed. -/
theorem wp_changeSinkState {transition : Transition} {Q : PUnit → NodeState World → Prop}
    (hclients : cfg.params.hasClients sink = true)
    (hok : s.next pattern (.changeState sink) = .answered →
      ∀ node, (s.env.fleet.sink sink).transition transition = some node →
        Q ⟨⟩ (s.record (.changeState sink transition) .answered
          (s.env.fleet.setSink node sink)))
    (herr : ∀ message outcome, s.next pattern (.changeState sink) = outcome →
      (outcome = .answered → (s.env.fleet.sink sink).transition transition = none) →
        E (.error message) (s.record (.changeState sink transition) outcome s.env.fleet))
    (hlate : s.next pattern (.changeState sink) = .timeout true →
      ∀ message node, (s.env.fleet.sink sink).transition transition = some node →
        E (.error message) (s.record (.changeState sink transition) (.timeout true)
          (s.env.fleet.setSink node sink))) :
    wp (changeSinkState cfg.params (cfg.environment pattern) sink transition) Q E s := by
  rw [changeSinkState, if_pos hclients, wp_bind]
  refine wp_exchange (fun h => ?_) (fun h => herr _ _ h nofun) (fun h => herr _ _ h nofun)
    fun performed h => ?_
  · cases hnode : (s.env.fleet.sink sink).transition transition with
    | some node =>
      rw [Fleet.serveTransition_some hnode]
      exact hok h node hnode
    | none =>
      rw [Fleet.serveTransition_none hnode]
      exact herr _ _ h fun _ => hnode
  · cases performed with
    | false => exact herr _ _ h nofun
    | true =>
      cases hnode : (s.env.fleet.sink sink).transition transition with
      | some node =>
        rw [Fleet.serveTransition_some hnode]
        exact hlate h _ node hnode
      | none =>
        rw [Fleet.serveTransition_none hnode]
        exact herr _ _ h nofun

/-- The sink takes the list exactly when it is not active. -/
theorem Fleet.serveSubscriptions_of_not_active {fleet : Fleet} {subs : List TopicInfo}
    (h : ¬(fleet.sink sink).IsActive) :
    Fleet.serveSubscriptions sink subs fleet =
      ([⟨true, ""⟩], fleet.setSink { fleet.sink sink with subscriptions := subs } sink) := by
  rw [Fleet.serveSubscriptions]
  cases hstate : (fleet.sink sink).state with
  | active running => exact absurd ⟨running, hstate⟩ h
  | unconfigured => rfl
  | inactive => rfl
  | finalized => rfl

/-- A sink that is not active takes the list when it answers. Where missing sinks are
allowed, the request also succeeds, without effect, when the service is not found. -/
theorem wp_setSinkSubscriptionsYaml {subs : List TopicInfo}
    {Q : PUnit → NodeState World → Prop} (hclients : cfg.params.hasClients sink = true)
    (hactive : ¬(s.env.fleet.sink sink).IsActive)
    (hok : s.next pattern (.setParameters sink) = .answered →
      Q ⟨⟩ (s.record (.setSubscriptionsYaml sink subs) .answered
        (s.env.fleet.setSink { s.env.fleet.sink sink with subscriptions := subs } sink)))
    (hskip : s.next pattern (.setParameters sink) = .unavailable →
      cfg.params.allowMissingSinks = true →
        Q ⟨⟩ (s.record (.setSubscriptionsYaml sink subs) .unavailable s.env.fleet))
    (herr : ∀ message outcome, s.next pattern (.setParameters sink) = outcome →
      outcome ≠ .answered → (outcome = .unavailable → cfg.params.allowMissingSinks = false) →
        E (.error message) (s.record (.setSubscriptionsYaml sink subs) outcome s.env.fleet))
    (hlate : s.next pattern (.setParameters sink) = .timeout true → ∀ message,
      E (.error message) (s.record (.setSubscriptionsYaml sink subs) (.timeout true)
        (s.env.fleet.setSink { s.env.fleet.sink sink with subscriptions := subs } sink))) :
    wp (setSinkSubscriptionsYaml cfg.params (cfg.environment pattern) sink subs) Q E s := by
  have hserve : Fleet.serveSubscriptions sink subs s.env.fleet = _ :=
    Fleet.serveSubscriptions_of_not_active hactive
  rw [setSinkSubscriptionsYaml, if_pos hclients, wp_bind]
  refine wp_exchange (fun h => ?_) (fun h => herr _ _ h nofun nofun) (fun h => ?_)
    fun performed h => ?_
  · rw [hserve]
    exact hok h
  · simp only [shouldSkipUnavailableSink]
    cases hallow : cfg.params.allowMissingSinks with
    | true => exact hskip h hallow
    | false => exact herr _ _ h nofun fun _ => hallow
  · cases performed with
    | true =>
      rw [hserve]
      exact hlate h _
    | false => exact herr _ _ h nofun nofun

/-! ### Rules for the container -/

/-- The fleet after the container loaded a component. -/
abbrev Fleet.withLoaded (fleet : Fleet) (ids : IdSource) (component : LoadNodeRequest) : Fleet :=
  { fleet with container := fleet.container.load ids component }

/-- The fleet after the container unloaded an id. -/
abbrev Fleet.withUnloaded (fleet : Fleet) (id : Nat) : Fleet :=
  { fleet with container := fleet.container.unload id }

/-- An unload request returns exactly when it is answered and the id is alive. -/
theorem wp_deactivateAndUnloadTool {tool : ActiveTopicTool} {Q : PUnit → NodeState World → Prop}
    (hok : s.next pattern .unloadNode = .answered →
      tool.uniqueId ∈ s.env.fleet.container.liveIds →
        Q ⟨⟩ (s.record (.unloadNode tool.uniqueId) .answered
          (s.env.fleet.withUnloaded tool.uniqueId)))
    (herr : ∀ message outcome, s.next pattern .unloadNode = outcome →
      (outcome = .answered → tool.uniqueId ∉ s.env.fleet.container.liveIds) →
        E (.error message) (s.record (.unloadNode tool.uniqueId) outcome s.env.fleet))
    (hlate : s.next pattern .unloadNode = .timeout true → ∀ message,
      E (.error message) (s.record (.unloadNode tool.uniqueId) (.timeout true)
        (s.env.fleet.withUnloaded tool.uniqueId))) :
    wp (deactivateAndUnloadTool (cfg.environment pattern) tool) Q E s := by
  rw [deactivateAndUnloadTool, wp_bind]
  refine wp_exchange (fun h => ?_) (fun h => herr _ _ h nofun) (fun h => herr _ _ h nofun)
    fun performed h => ?_
  · rw [Fleet.serveUnload]
    by_cases hlive : tool.uniqueId ∈ s.env.fleet.container.liveIds
    · rw [if_pos hlive]
      exact hok h hlive
    · rw [if_neg hlive]
      exact herr _ _ h fun _ => hlive
  · cases performed with
    | false => exact herr _ _ h nofun
    | true =>
      rw [if_pos rfl, Fleet.serveUnload]
      by_cases hlive : tool.uniqueId ∈ s.env.fleet.container.liveIds
      · rw [if_pos hlive]
        exact hlate h _
      · rw [if_neg hlive]
        exact herr _ _ h nofun

/-- The request `load_and_activate_topic_tool` makes for a tool. -/
def ResolvedTopicTool.loadRequest (tool : ResolvedTopicTool) (params : Parameters) :
    LoadNodeRequest :=
  { packageName := tool.packageName
    pluginName := tool.pluginName
    nodeName := tool.nodeName
    nodeNamespace := params.nodeNamespace
    parameters := tool.parameters }

/-- The record of a tool loaded under an id. -/
def ResolvedTopicTool.loaded (tool : ResolvedTopicTool) (params : Parameters) (id : Nat) :
    ActiveTopicTool :=
  { uniqueId := id
    fullNodeName := fullyQualifiedName params.nodeNamespace tool.nodeName
    config := tool }

/-- A load request returns exactly when it is answered, with a fresh id. -/
theorem wp_loadAndActivateTopicTool {tool : ResolvedTopicTool}
    {Q : ActiveTopicTool → NodeState World → Prop}
    (hok : s.next pattern .loadNode = .answered →
      Q (tool.loaded cfg.params (cfg.ids.pick s.env.fleet.container.issued))
        (s.record (.loadNode (tool.loadRequest cfg.params)) .answered
          (s.env.fleet.withLoaded cfg.ids (tool.loadRequest cfg.params))))
    (herr : ∀ message outcome, s.next pattern .loadNode = outcome → outcome ≠ .answered →
      E (.error message) (s.record (.loadNode (tool.loadRequest cfg.params)) outcome s.env.fleet))
    (hlate : s.next pattern .loadNode = .timeout true → ∀ message,
      E (.error message) (s.record (.loadNode (tool.loadRequest cfg.params)) (.timeout true)
        (s.env.fleet.withLoaded cfg.ids (tool.loadRequest cfg.params)))) :
    wp (loadAndActivateTopicTool cfg.params (cfg.environment pattern) tool) Q E s := by
  rw [loadAndActivateTopicTool, wp_bind]
  refine wp_exchange (fun h => hok h) (fun h => herr _ _ h nofun) (fun h => herr _ _ h nofun)
    fun performed h => ?_
  cases performed with
  | false => exact herr _ _ h nofun
  | true => exact hlate h _

end Ros2Dispatcher
