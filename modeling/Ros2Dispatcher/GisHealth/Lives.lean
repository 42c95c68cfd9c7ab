import Ros2Dispatcher.GisHealth.Sessions

/-!
# The lives of a health node

The `ledger` of a life says what its steps call for: an activation for a greeting, each firing of
the timer for pings, by the parameters of the last configuration. `Coherent` is what holds of the
node between any two steps, in terms of its ledger and its primary state; each callback has a
lemma that says where it leads, and `Coherent.step` puts them together.

* `reports_delivered_in_order`: over every life of the node, whatever its threads, librdkafka and
  the fleet manager's parameters do, each of its producers was sent what was due, and librdkafka
  got it in order; no exception ends the process.
* `health_resources_follow_lifecycle`: the timer and the producer follow the primary state,
  exactly as long as no activation throws.
-/

namespace Ros2Dispatcher.GisHealth

open Json KafkaClient Procedure
open Lifecycle (CallbackReturn State Managed callbackResult callbackResult_of_wp)

variable {F : Type} {codec : Codec} {period : Period F}

/-! ### What the node has to report -/

/-- The reports that are due from a producer, which is made for the parameters. -/
structure Duty (F : Type) where
  parameters : Parameters F
  beats : List Beat := []

def Duty.add (duty : Duty F) (beats : List Beat) : Duty F :=
  { duty with beats := duty.beats ++ beats }

/-- What is due from the producer at work, if there is one, and what was due from each one that
was stopped. -/
structure Ledger (F : Type) where
  current : Duty F
  closed : List (Duty F) := []

/-- What a step adds: a configuration begins with the parameters that are stored by then, an
activation calls for a greeting, the timer for pings, and the end of a configuration closes the
account. -/
def Ledger.record (ledger : Ledger F) (step : System F × Event F) : Ledger F :=
  match step.2 with
  | .managed (.transition .configure _) =>
    { ledger with current := { parameters := step.1.node.stored } }
  | .managed (.transition .activate _) =>
    { ledger with current := ledger.current.add (greeting ledger.current.parameters.robotList) }
  | .timer _ =>
    { ledger with current := ledger.current.add (pings ledger.current.parameters.robotList) }
  | .managed (.transition .cleanup _) => { ledger with closed := ledger.closed ++ [ledger.current] }
  | .managed (.transition .shutdown _) =>
    if step.1.state = .unconfigured then ledger
    else { ledger with closed := ledger.closed ++ [ledger.current] }
  | _ => ledger

/-- The ledger of a life. -/
def ledger (thirty : F) (steps : List (System F × Event F)) : Ledger F :=
  steps.foldl Ledger.record { current := { parameters := { healthPeriodS := thirty } } }

/-! ### What the node is doing -/

/-- The producer of the node was made for the node's parameters, and was sent rounds of reports,
the last of them up to `more`. -/
structure Node.Speaking (codec : Codec) (node : Node F) (beats more : List Beat) : Prop where
  serving : node.Serving codec beats node
  robots : node.parameters.robotList ≠ []
  rounds : Rounds node.parameters.robotList (beats ++ more)

/-- What the members are in a primary state, if the reports are due. -/
def Node.InPhase (codec : Codec) (node : Node F) (due : List Beat) : State → Prop
  | .unconfigured => node.producer = none ∧ node.healthTimer = none
  | .inactive => node.healthTimer = none ∧ node.Speaking codec due []
  | .active => node.healthTimer.isSome = true ∧ (node.Speaking codec due [] ∧ due ≠ []) ∧
      ∀ robotId ∈ node.parameters.robotList, Registrable node.parameters robotId
  | .finalized => node.healthTimer = none ∧
      (node.producer = none ∨ ∃ beats more, due = beats ++ more ∧
        more <:+ greeting node.parameters.robotList ∧ node.Speaking codec beats more)

/-- What a producer was sent, and that librdkafka accepts it in order. -/
structure Producer.Reported (codec : Codec) (producer : Producer F) (beats : List Beat) :
    Prop where
  carries : producer.Carries codec beats
  announced : Announced beats
  inSentOrder : producer.machine.producer.InSentOrder

/-- A producer that was stopped: its thread is gone, and it was sent what was due. -/
structure Producer.Retired (codec : Codec) (producer : Producer F) (duty : Duty F) : Prop where
  stopped : producer.machine.Stopped
  pollThread : producer.machine.pollThread = .absent
  parameters : producer.parameters = duty.parameters
  reported : producer.Reported codec duty.beats

/-- What holds between two steps. -/
structure System.Coherent (codec : Codec) (ledger : Ledger F) (s : System F) : Prop where
  alive : s.terminated = false
  parameters : s.node.parameters = ledger.current.parameters
  inPhase : s.node.InPhase codec ledger.current.beats s.state
  retired : List.Forall₂ (Producer.Retired codec) s.node.stopped ledger.closed

variable {s s' : System F} {node : Node F} {beats more : List Beat}

theorem Producer.Session.reported {producer : Producer F} (h : producer.Session codec beats)
    (hannounced : Announced beats) : producer.Reported codec beats :=
  ⟨h.carries, hannounced, h.serves.inSentOrder⟩

theorem Producer.Session.retired {producer : Producer F} {duty : Duty F}
    (h : producer.Session codec duty.beats) (hparameters : producer.parameters = duty.parameters)
    (hannounced : Announced duty.beats) : producer.stop.Retired codec duty := by
  have hstop : producer.stop.machine =
      { producer := stopLocked { producer.machine.producer with running := false } } :=
    h.serves.stop_eq
  refine ⟨?_, ?_, hparameters, ?_, hannounced, ?_⟩
  · rw [hstop]
    exact ⟨rfl, rfl⟩
  · rw [hstop]
  · rw [Carries, hstop]
    exact h.carries
  · rw [hstop]
    exact ⟨h.serves.inSentOrder.accepted, fun _ _ w hw => absurd hw List.not_mem_nil⟩

/-! ### Where the callbacks lead -/

/-- A node that is configured has robots. -/
theorem robotList_ne_nil {parameters : Parameters F} (h : parameters.error? period = none) :
    parameters.robotList ≠ [] := by
  intro hrobots
  rw [Parameters.error?, if_pos hrobots] at h
  split at h <;> cases h

/-- `on_configure` of a node without a producer: a new one, or none. -/
theorem configure_leads (codec : Codec) (period : Period F) (outside : Outside)
    (hproducer : node.producer = none) (htimer : node.healthTimer = none) :
    let result := callbackResult (onConfigure period outside) node
    result.2.stopped = node.stopped ∧ result.2.parameters = node.stored ∧
      (result.1 = .success ∧ result.2.InPhase codec [] .inactive ∨
        result.1 = .failure ∧ result.2.InPhase codec [] .unconfigured) := by
  refine callbackResult_of_wp (Φ := fun result (node' : Node F) =>
    node'.stopped = node.stopped ∧ node'.parameters = node.stored ∧
      (result = .success ∧ node'.InPhase codec [] .inactive ∨
        result = .failure ∧ node'.InPhase codec [] .unconfigured)) ?_
  rw [onConfigure, wp_bind, loadParameters, wp_bind, wp_modify, wp_bind, wp_get, wp_pure]
  dsimp only
  cases herror : node.stored.error? period with
  | some error => exact ⟨rfl, rfl, .inr ⟨rfl, hproducer, htimer⟩⟩
  | none =>
    dsimp only
    rw [wp_bind, startProducer, wp_bind, wp_get]
    dsimp only
    cases hstarted : Machine.started node.stored.producerConfig outside.start with
    | none => exact ⟨rfl, rfl, .inr ⟨rfl, rfl, htimer⟩⟩
    | some machine =>
      have hcarries : (⟨node.stored, machine⟩ : Producer F).Carries codec [] := by
        rw [Producer.Carries, Machine.started_sent hstarted]
        exact .nil
      exact ⟨rfl, rfl, .inl ⟨rfl, htimer, ⟨_, rfl, rfl, .start hstarted, hcarries⟩,
        robotList_ne_nil herror, .configured⟩⟩

/-- The producer of a node that speaks. -/
theorem Node.Speaking.exists_producer (h : node.Speaking codec beats more) :
    ∃ producer, node.producer = some producer ∧ producer.parameters = node.parameters ∧
      producer.Session codec beats := by
  obtain ⟨producer, hnode, hparameters, hsession⟩ := h.serving
  refine ⟨producer, ?_, hparameters, hsession⟩
  rw [hnode]

theorem greeting_ne_nil {robots : List Text} (h : robots ≠ []) : greeting robots ≠ [] := by
  obtain ⟨robotId, others, rfl⟩ := List.exists_cons_of_ne_nil h
  exact List.cons_ne_nil _ _

/-- No activation throws that could build a registration for every robot, and a timer. -/
def Node.Registers (node : Node F) (outside : Outside) : Prop :=
  (∀ robotId ∈ node.parameters.robotList, Registrable node.parameters robotId) ∧
    outside.timerThrows = false

/-- `on_activate` of a configured node: a round more and a timer, or an exception in the midst of
the round. -/
theorem activate_leads (hcodec : codec.Lawful) (period : Period F) (outside : Outside)
    (hphase : node.InPhase codec beats .inactive) :
    let result := callbackResult (onActivate codec period outside) node
    let due := beats ++ greeting node.parameters.robotList
    result.2.stopped = node.stopped ∧ result.2.parameters = node.parameters ∧
      (result.1 = .success ∧ node.Registers outside ∧ result.2.InPhase codec due .active ∨
        result.1 = .error ∧ ¬node.Registers outside ∧ result.2.InPhase codec due .finalized ∧
          result.2.producer.isSome = true) := by
  refine callbackResult_of_wp (Φ := fun result (node' : Node F) =>
    node'.stopped = node.stopped ∧ node'.parameters = node.parameters ∧
      (result = .success ∧ node.Registers outside ∧
          node'.InPhase codec (beats ++ greeting node.parameters.robotList) .active ∨
        result = .error ∧ ¬node.Registers outside ∧
          node'.InPhase codec (beats ++ greeting node.parameters.robotList) .finalized ∧
          node'.producer.isSome = true)) ?_
  obtain ⟨htimer, hspeaking⟩ := hphase
  have hrounds := hspeaking.rounds
  rw [List.append_nil] at hrounds
  rw [onActivate, wp_bind, wp_get, wp_bind]
  refine wp_mono (wp_greet hcodec hspeaking.serving) (fun _ node₁ hgreeted => ?_)
    fun _ node₁ hthrown => ?_
  · obtain ⟨⟨producer, rfl, hparameters, hsession⟩, hregistrable⟩ := hgreeted
    have hspeaking' : ∀ timer, Node.Speaking codec
        { node with producer := some producer, healthTimer := timer }
        (beats ++ greeting node.parameters.robotList) [] := fun timer => by
      refine ⟨⟨producer, rfl, hparameters, hsession⟩, hspeaking.robots, ?_⟩
      rw [List.append_nil]
      exact .activated hrounds
    rw [wp_bind]
    cases hthrows : outside.timerThrows with
    | false =>
      refine ⟨rfl, rfl, .inl ⟨rfl, ⟨hregistrable, hthrows⟩, rfl, ⟨hspeaking' _, ?_⟩,
        hregistrable⟩⟩
      exact fun hnil => greeting_ne_nil hspeaking.robots (List.append_eq_nil_iff.mp hnil).2
    | true =>
      refine ⟨rfl, rfl, .inr ⟨rfl, fun hregisters => ?_, ⟨htimer, .inr ⟨_, [],
        (List.append_nil _).symm, List.nil_suffix, hspeaking' node.healthTimer⟩⟩, rfl⟩⟩
      exact Bool.noConfusion (hthrows.symm.trans hregisters.2)
  · obtain ⟨⟨part, more, hsplit, producer, rfl, hparameters, hsession⟩, hunregistrable⟩ := hthrown
    refine ⟨rfl, rfl, .inr ⟨rfl, fun hregisters => hunregistrable hregisters.1,
      ⟨htimer, .inr ⟨beats ++ part, more, ?_, ⟨part, hsplit.symm⟩, ?_⟩⟩, rfl⟩⟩
    · rw [hsplit, List.append_assoc]
    refine ⟨⟨producer, rfl, hparameters, hsession⟩, hspeaking.robots, ?_⟩
    rw [List.append_assoc, ← hsplit]
    exact .activated hrounds

/-- What is said of the producer is about the producer and the parameters only. -/
theorem Node.Speaking.congr {node' : Node F} (h : node.Speaking codec beats more)
    (hproducer : node'.producer = node.producer)
    (hparameters : node'.parameters = node.parameters) : node'.Speaking codec beats more := by
  obtain ⟨producer, hsome, hmade, hsession⟩ := h.exists_producer
  refine ⟨⟨producer, ?_, hmade.trans hparameters.symm, hsession⟩, ?_, ?_⟩
  · rw [← hproducer.trans hsome]
  · rw [hparameters]
    exact h.robots
  · rw [hparameters]
    exact h.rounds

theorem Node.InPhase.congr {node' : Node F} {state : State} (h : node.InPhase codec beats state)
    (hproducer : node'.producer = node.producer) (hparameters : node'.parameters = node.parameters)
    (htimer : node'.healthTimer = node.healthTimer) : node'.InPhase codec beats state := by
  cases state with
  | unconfigured => exact ⟨hproducer.trans h.1, htimer.trans h.2⟩
  | inactive =>
    obtain ⟨hnone, hspeaking⟩ := h
    exact ⟨htimer.trans hnone, hspeaking.congr hproducer hparameters⟩
  | active =>
    obtain ⟨hsome, ⟨hspeaking, hbeats⟩, hregistrable⟩ := h
    refine ⟨htimer ▸ hsome, ⟨hspeaking.congr hproducer hparameters, hbeats⟩, ?_⟩
    rw [hparameters]
    exact hregistrable
  | finalized =>
    obtain ⟨hnone, hends⟩ := h
    refine ⟨htimer.trans hnone, ?_⟩
    rcases hends with hproducer' | ⟨sent, more, hdue, hbreaks, hspeaking⟩
    · exact .inl (hproducer.trans hproducer')
    · refine .inr ⟨sent, more, hdue, ?_, hspeaking.congr hproducer hparameters⟩
      rw [hparameters]
      exact hbreaks

/-- A producer was sent what is due, or, where an activation failed, the first part of it. -/
theorem Node.InPhase.exists_speaking {state : State} {producer : Producer F}
    (h : node.InPhase codec beats state) (hproducer : node.producer = some producer) :
    ∃ sent more, beats = sent ++ more ∧ more <:+ greeting node.parameters.robotList ∧
      (state ≠ .finalized → more = []) ∧ node.Speaking codec sent more := by
  have hall : node.Speaking codec beats [] → ∃ sent more, beats = sent ++ more ∧
      more <:+ greeting node.parameters.robotList ∧ (state ≠ .finalized → more = []) ∧
        node.Speaking codec sent more := fun hspeaking =>
    ⟨beats, [], (List.append_nil _).symm, List.nil_suffix, fun _ => rfl, hspeaking⟩
  cases state with
  | unconfigured => cases hproducer.symm.trans h.1
  | inactive => exact hall h.2
  | active => exact hall h.2.1.1
  | finalized =>
    rcases h.2 with hnone | ⟨sent, more, hdue, hbreaks, hspeaking⟩
    · cases hproducer.symm.trans hnone
    · exact ⟨sent, more, hdue, hbreaks, fun hne => absurd rfl hne, hspeaking⟩

theorem Node.release_of_none (h : node.producer = none) : node.release = node := by
  rw [Node.release, h]

/-- Stopping the producer of a node that speaks whole rounds. -/
theorem release_leads {duty : Duty F} {closed : List (Duty F)}
    (hspeaking : node.Speaking codec duty.beats [])
    (hparameters : node.parameters = duty.parameters)
    (hretired : List.Forall₂ (Producer.Retired codec) node.stopped closed) :
    node.release.producer = none ∧ node.release.healthTimer = node.healthTimer ∧
      node.release.parameters = node.parameters ∧
      List.Forall₂ (Producer.Retired codec) node.release.stopped (closed ++ [duty]) := by
  obtain ⟨producer, hproducer, hmade, hsession⟩ := hspeaking.exists_producer
  have hrounds := hspeaking.rounds
  rw [List.append_nil] at hrounds
  have hnew := hsession.retired (hmade.trans hparameters) hrounds.announced
  rw [Node.release, hproducer]
  exact ⟨rfl, rfl, rfl, List.rel_append hretired (.cons hnew .nil)⟩

/-! ### Runs -/

theorem coherent_boot (thirty : F) (stored : Parameters F) :
    (boot thirty stored).Coherent codec (ledger thirty []) where
  alive := rfl
  parameters := rfl
  inPhase := ⟨rfl, rfl⟩
  retired := .nil

/-- A callback leads to what its result means for the primary state. -/
theorem System.Coherent.callback {ledger : Ledger F} {transition : Lifecycle.Transition}
    (hcodec : codec.Lawful) (h : s.Coherent codec ledger) (outside : Outside)
    (hstart : transition.startsFrom s.state = true) :
    let result := callback codec period transition outside s.node
    System.Coherent codec (ledger.record (s, .managed (.transition transition outside)))
      ⟨Managed.stateAfter transition s.state result.1, result.2, false⟩ := by
  obtain ⟨state, node, terminated⟩ := s
  obtain ⟨-, hparameters, hphase, hretired⟩ := h
  dsimp only at hparameters hphase hretired hstart ⊢
  cases transition with
  | configure =>
    obtain rfl : state = .unconfigured := of_decide_eq_true hstart
    obtain ⟨hstopped, hloaded, hleads⟩ := configure_leads codec period outside hphase.1 hphase.2
    refine ⟨rfl, hloaded, ?_, hstopped ▸ hretired⟩
    rcases hleads with ⟨hresult, hleads⟩ | ⟨hresult, hleads⟩
    · exact hresult ▸ hleads
    · exact hresult ▸ hleads
  | activate =>
    obtain rfl : state = .inactive := of_decide_eq_true hstart
    obtain ⟨hstopped, hsame, hleads⟩ := activate_leads hcodec period outside hphase
    refine ⟨rfl, hsame.trans hparameters, ?_, hstopped ▸ hretired⟩
    rw [hparameters] at hleads
    rcases hleads with ⟨hresult, -, hleads⟩ | ⟨hresult, -, hleads, -⟩
    · exact hresult ▸ hleads
    · exact hresult ▸ hleads
  | deactivate =>
    obtain rfl : state = .active := of_decide_eq_true hstart
    obtain ⟨-, ⟨hspeaking, -⟩, -⟩ := hphase
    exact ⟨rfl, hparameters, ⟨rfl, hspeaking.congr rfl rfl⟩, hretired⟩
  | cleanup =>
    obtain rfl : state = .inactive := of_decide_eq_true hstart
    obtain ⟨hproducer, htimer, hsame, hstopped⟩ := release_leads hphase.2 hparameters hretired
    exact ⟨rfl, hsame.trans hparameters, ⟨hproducer, htimer.trans hphase.1⟩, hstopped⟩
  | shutdown =>
    have hcloses : node.Speaking codec ledger.current.beats [] →
        System.Coherent codec { ledger with closed := ledger.closed ++ [ledger.current] }
          ⟨.finalized, ({ node with healthTimer := none } : Node F).release, false⟩ := by
      intro hspeaking
      have hspeaking' : ({ node with healthTimer := none } : Node F).Speaking codec
          ledger.current.beats [] := hspeaking.congr rfl rfl
      obtain ⟨hproducer, htimer, hsame, hstopped⟩ := release_leads hspeaking' hparameters hretired
      exact ⟨rfl, hsame.trans hparameters, ⟨htimer, .inl hproducer⟩, hstopped⟩
    cases state with
    | unconfigured =>
      have hsame : ({ node with healthTimer := none } : Node F).release =
          { node with healthTimer := none } := Node.release_of_none hphase.1
      have hkept : System.Coherent codec ledger
          ⟨.finalized, ({ node with healthTimer := none } : Node F).release, false⟩ := by
        rw [hsame]
        exact ⟨rfl, hparameters, ⟨rfl, .inl hphase.1⟩, hretired⟩
      exact hkept
    | inactive => exact hcloses hphase.2
    | active => exact hcloses hphase.2.1.1
    | finalized => cases hstart

/-- The timer runs only in `ACTIVE`. -/
theorem Node.InPhase.active_of_timer {state : State} {ms : Int}
    (h : node.InPhase codec beats state) (htimer : node.healthTimer = some ms) :
    state = .active := by
  cases state with
  | unconfigured => cases htimer.symm.trans h.2
  | inactive => cases htimer.symm.trans h.1
  | active => rfl
  | finalized => cases htimer.symm.trans h.1

/-- A step of the poll thread between two callbacks. -/
theorem Node.Speaking.poll {producer : Producer F} {step : PollStep}
    (h : node.Speaking codec beats more) (hproducer : node.producer = some producer) :
    ({ node with producer := some (producer.poll step) } : Node F).Speaking codec beats more := by
  obtain ⟨producer', hsome, hmade, hsession⟩ := h.exists_producer
  obtain rfl : producer' = producer := Option.some.inj (hsome.symm.trans hproducer)
  exact ⟨⟨producer'.poll step, rfl, hmade, hsession.poll⟩, h.robots, h.rounds⟩

theorem Node.InPhase.poll {state : State} {producer : Producer F} {step : PollStep}
    (h : node.InPhase codec beats state) (hproducer : node.producer = some producer) :
    ({ node with producer := some (producer.poll step) } : Node F).InPhase codec beats
      state := by
  cases state with
  | unconfigured => cases hproducer.symm.trans h.1
  | inactive =>
    obtain ⟨hnone, hspeaking⟩ := h
    exact ⟨hnone, hspeaking.poll hproducer⟩
  | active =>
    obtain ⟨hsome, ⟨hspeaking, hbeats⟩, hregistrable⟩ := h
    exact ⟨hsome, ⟨hspeaking.poll hproducer, hbeats⟩, hregistrable⟩
  | finalized =>
    obtain ⟨hnone, hends⟩ := h
    rcases hends with habsent | ⟨sent, more, hdue, hbreaks, hspeaking⟩
    · cases hproducer.symm.trans habsent
    · exact ⟨hnone, .inr ⟨sent, more, hdue, hbreaks, hspeaking.poll hproducer⟩⟩

/-- The timer fires: another round, and no exception. -/
theorem timer_leads (hcodec : codec.Lawful) (ping : Nat → SendOutside)
    (hphase : node.InPhase codec beats .active) :
    ∃ node', onHealthTimer codec ping node = .ok ⟨⟩ node' ∧ node'.stopped = node.stopped ∧
      node'.parameters = node.parameters ∧
      node'.InPhase codec (beats ++ pings node.parameters.robotList) .active := by
  obtain ⟨htimer, ⟨hspeaking, hbeats⟩, hregistrable⟩ := hphase
  have hrounds := hspeaking.rounds
  rw [List.append_nil] at hrounds
  obtain ⟨⟨⟩, node', hrun, producer, rfl, hparameters, hsession⟩ := exists_ok_of_wp
    (wp_onHealthTimer hcodec ping hspeaking.serving fun robotId hrobot =>
      (hregistrable robotId hrobot).robotId)
  refine ⟨_, hrun, rfl, rfl, htimer, ⟨⟨⟨producer, rfl, hparameters, hsession⟩, hspeaking.robots,
    ?_⟩, ?_⟩, hregistrable⟩
  · rw [List.append_nil]
    exact .ticked hrounds hbeats
  · exact fun hnil => hbeats (List.append_eq_nil_iff.mp hnil).1

/-- **Step lemma.** -/
theorem System.Coherent.step {ledger : Ledger F} {event : Event F} (hcodec : codec.Lawful)
    (h : s.Coherent codec ledger) (hstep : s.step codec period event = some s') :
    s'.Coherent codec (ledger.record (s, event)) := by
  unfold System.step at hstep
  rw [h.alive] at hstep
  simp only [Bool.false_eq_true, if_false] at hstep
  cases event with
  | managed input =>
    obtain ⟨t, hmanaged, rfl⟩ := Option.map_eq_some_iff.mp hstep
    cases input with
    | parameters stored =>
      cases hmanaged
      exact ⟨rfl, h.parameters, h.inPhase.congr rfl rfl rfl, h.retired⟩
    | transition transition outside =>
      obtain ⟨hstart, rfl⟩ := Managed.trigger_eq (fun _ => rfl) hmanaged
      exact h.callback hcodec outside hstart
  | timer ping =>
    dsimp only at hstep
    cases htimer : s.node.healthTimer with
    | none =>
      rw [htimer] at hstep
      cases hstep
    | some ms =>
      have hactive : s.state = .active := h.inPhase.active_of_timer htimer
      have hphase : s.node.InPhase codec ledger.current.beats .active := hactive ▸ h.inPhase
      obtain ⟨node', hrun, hstopped, hsame, hphase'⟩ := timer_leads hcodec ping hphase
      rw [htimer, hrun] at hstep
      cases hstep
      refine ⟨rfl, hsame.trans h.parameters, ?_, hstopped ▸ h.retired⟩
      rw [h.parameters] at hphase'
      exact hactive ▸ hphase'
  | poll step =>
    obtain ⟨producer, hproducer, rfl⟩ := Option.map_eq_some_iff.mp hstep
    exact ⟨rfl, h.parameters, h.inPhase.poll hproducer, h.retired⟩

/-- **Reports arrive in order.** Over every life of the node, with every schedule of the poll
threads, every answer of librdkafka and every change of parameters: no exception leaves a timer
callback, and each producer was made with the parameters stored at its configuration and was sent
exactly the reports that were due since: one record each, on the topic of its kind under the
robot's key and readable for the fleet manager. Only the greeting of an activation that fails may
break off. No robot is reported as there before it was reported as registered, and librdkafka
accepts records in the order they were sent. -/
theorem reports_delivered_in_order (hcodec : codec.Lawful) {thirty : F} {stored : Parameters F}
    {steps : List (System F × Event F)}
    (hlife : Path (System.step codec period) (boot thirty stored) steps s) :
    s.terminated = false ∧
      List.Forall₂ (fun producer duty => producer.parameters = duty.parameters ∧
        producer.Reported codec duty.beats) s.node.stopped (ledger thirty steps).closed ∧
      ∀ producer, s.node.producer = some producer →
        producer.parameters = (ledger thirty steps).current.parameters ∧
          ∃ beats more, (ledger thirty steps).current.beats = beats ++ more ∧
            more <:+ greeting producer.parameters.robotList ∧
            (s.state ≠ .finalized → more = []) ∧ producer.Reported codec beats := by
  have hcoherent : s.Coherent codec (ledger thirty steps) :=
    hlife.foldl (fun _ _ _ _ h hstep => h.step hcodec hstep) (coherent_boot thirty stored)
  refine ⟨hcoherent.alive,
    hcoherent.retired.imp fun _ _ hretired => ⟨hretired.parameters, hretired.reported⟩,
    fun producer hproducer => ?_⟩
  obtain ⟨beats, more, hdue, hbreaks, hwhole, hspeaking⟩ :=
    hcoherent.inPhase.exists_speaking hproducer
  obtain ⟨producer', hsome, hmade, hsession⟩ := hspeaking.exists_producer
  obtain rfl : producer' = producer := Option.some.inj (hsome.symm.trans hproducer)
  rw [hmade]
  exact ⟨hcoherent.parameters, beats, more, hdue, hbreaks, hwhole,
    hsession.reported hspeaking.rounds.announced.of_append⟩

/-- Whole seconds. -/
def wholeSeconds : Period Int where
  nonPositive seconds := decide (seconds ≤ 0)
  milliseconds seconds := seconds * 1000

/-- The default parameters, with a robot. -/
def oneRobot (robotId : Text) : Parameters Int where
  robotList := [robotId]
  healthPeriodS := 30

/-- A robot is registered and reported twice, and the node is shut down. -/
theorem reports_delivered_in_order_leader :
    ∃ steps s, Path (System.step plain wholeSeconds) (boot 30 (oneRobot (bytes "leader"))) steps s ∧
      (ledger 30 steps).closed.map Duty.beats =
        [[.registration (bytes "leader"), .ping (bytes "leader"), .ping (bytes "leader")]] ∧
      List.Forall₂ (fun producer duty => producer.parameters = duty.parameters ∧
        producer.Reported plain duty.beats) s.node.stopped (ledger 30 steps).closed := by
  have hrun : ((boot 30 (oneRobot (bytes "leader"))).step plain wholeSeconds
      (.managed (.transition .configure {}))).bind (fun s₁ =>
        (s₁.step plain wholeSeconds (.managed (.transition .activate {}))).bind fun s₂ =>
          (s₂.step plain wholeSeconds (.timer fun _ => {})).bind fun s₃ =>
            (s₃.step plain wholeSeconds (.managed (.transition .shutdown {}))).map fun _ =>
              s₃.state) = some .active := by decide +kernel
  simp only [Option.bind_eq_some_iff, Option.map_eq_some_iff] at hrun
  obtain ⟨s₁, hconfigure, s₂, hactivate, s₃, htimer, s, hshutdown, hactive⟩ := hrun
  have hlife : Path (System.step plain wholeSeconds) (boot 30 (oneRobot (bytes "leader")))
      [(_, .managed (.transition .configure {})), (s₁, .managed (.transition .activate {})),
        (s₂, .timer fun _ => {}), (s₃, .managed (.transition .shutdown {}))] s :=
    ⟨rfl, s₁, hconfigure, rfl, s₂, hactivate, rfl, s₃, htimer, rfl, s, hshutdown, rfl⟩
  refine ⟨_, s, hlife, ?_, (reports_delivered_in_order plain_lawful hlife).2.1⟩
  simp [ledger, Ledger.record, Duty.add, boot, oneRobot, greeting, pings, hactive]

/-! ### Timer and producer -/

/-- The timer runs in `ACTIVE`, and there is a producer in `INACTIVE` and `ACTIVE`. -/
structure System.Held (s : System F) : Prop where
  timer : s.node.healthTimer.isSome = true ↔ s.state = .active
  producer : s.node.producer.isSome = true ↔ s.state = .inactive ∨ s.state = .active

/-- If the step is an activation, it throws nothing: every robot and the two topics are UTF-8,
and the timer can be created. -/
def Event.Smooth (s : System F) : Event F → Prop
  | .managed (.transition .activate outside) => s.node.Registers outside
  | _ => True

/-- A coherent node can only keep a producer that it should not have. -/
theorem Node.InPhase.held_iff {state : State} (h : node.InPhase codec beats state) :
    ((node.healthTimer.isSome = true ↔ state = .active) ∧
        (node.producer.isSome = true ↔ state = .inactive ∨ state = .active)) ↔
      (state = .finalized → node.producer = none) := by
  cases state with
  | unconfigured =>
    obtain ⟨hproducer, htimer⟩ := h
    simp [hproducer, htimer]
  | inactive =>
    obtain ⟨htimer, hspeaking⟩ := h
    obtain ⟨producer, hproducer, -⟩ := hspeaking.exists_producer
    simp [hproducer, htimer]
  | active =>
    obtain ⟨htimer, ⟨hspeaking, -⟩, -⟩ := h
    obtain ⟨producer, hproducer, -⟩ := hspeaking.exists_producer
    simp [hproducer, htimer]
  | finalized =>
    obtain ⟨htimer, -⟩ := h
    simp [htimer]

theorem System.Coherent.held_iff {ledger : Ledger F} (h : s.Coherent codec ledger) :
    s.Held ↔ (s.state = .finalized → s.node.producer = none) :=
  ⟨fun hheld => h.inPhase.held_iff.mp ⟨hheld.timer, hheld.producer⟩, fun hkept =>
    ⟨(h.inPhase.held_iff.mpr hkept).1, (h.inPhase.held_iff.mpr hkept).2⟩⟩

/-- Of the transitions, only an activation can lead to `FINALIZED` with a producer. -/
theorem callback_kept_iff {transition : Lifecycle.Transition} {state : State}
    (hcodec : codec.Lawful) (outside : Outside) (hstart : transition.startsFrom state = true)
    (hphase : node.InPhase codec beats state) :
    let result := callback codec period transition outside node
    (Managed.stateAfter transition state result.1 = .finalized → result.2.producer = none) ↔
      (transition = .activate → node.Registers outside) := by
  cases transition with
  | configure =>
    obtain rfl : state = .unconfigured := of_decide_eq_true hstart
    refine iff_of_true (fun hfinal => ?_) nofun
    obtain ⟨-, -, hleads⟩ := configure_leads codec period outside hphase.1 hphase.2
    change Managed.stateAfter .configure .unconfigured
      (callbackResult (onConfigure period outside) node).1 = .finalized at hfinal
    rcases hleads with ⟨hresult, -⟩ | ⟨hresult, -⟩
    · rw [hresult] at hfinal
      cases hfinal
    · rw [hresult] at hfinal
      cases hfinal
  | activate =>
    obtain rfl : state = .inactive := of_decide_eq_true hstart
    obtain ⟨-, -, hleads⟩ := activate_leads hcodec period outside hphase
    change (Managed.stateAfter .activate .inactive
        (callbackResult (onActivate codec period outside) node).1 = .finalized →
      (callbackResult (onActivate codec period outside) node).2.producer = none) ↔ _
    rcases hleads with ⟨hresult, hregisters, -⟩ | ⟨hresult, hregisters, -, hproducer⟩
    · rw [hresult]
      exact iff_of_true nofun fun _ => hregisters
    · rw [hresult]
      refine iff_of_false (fun hkept => ?_) fun hsmooth => hregisters (hsmooth rfl)
      rw [hkept rfl] at hproducer
      cases hproducer
  | deactivate => exact iff_of_true nofun nofun
  | cleanup => exact iff_of_true nofun nofun
  | shutdown =>
    refine iff_of_true (fun _ => ?_) nofun
    change ({ node with healthTimer := none } : Node F).release.producer = none
    unfold Node.release
    split
    · rfl
    · assumption

/-- A node that has no producer it should not have gets one exactly by an activation that
throws. -/
theorem System.Coherent.held_step_iff {ledger : Ledger F} {event : Event F}
    (hcodec : codec.Lawful) (h : s.Coherent codec ledger) (hheld : s.Held)
    (hstep : s.step codec period event = some s') : s'.Held ↔ event.Smooth s := by
  have hkept := h.held_iff.mp hheld
  rw [(h.step hcodec hstep).held_iff]
  unfold System.step at hstep
  rw [h.alive] at hstep
  simp only [Bool.false_eq_true, if_false] at hstep
  cases event with
  | managed input =>
    obtain ⟨t, hmanaged, rfl⟩ := Option.map_eq_some_iff.mp hstep
    cases input with
    | parameters stored =>
      cases hmanaged
      exact iff_of_true hkept trivial
    | transition transition outside =>
      obtain ⟨hstart, rfl⟩ := Managed.trigger_eq (fun _ => rfl) hmanaged
      refine (callback_kept_iff hcodec outside hstart h.inPhase).trans ?_
      cases transition with
      | activate => exact ⟨fun hsmooth => hsmooth rfl, fun hregisters _ => hregisters⟩
      | configure => exact iff_of_true nofun trivial
      | deactivate => exact iff_of_true nofun trivial
      | cleanup => exact iff_of_true nofun trivial
      | shutdown => exact iff_of_true nofun trivial
  | timer ping =>
    refine iff_of_true ?_ trivial
    cases htimer : s.node.healthTimer with
    | none =>
      rw [htimer] at hstep
      cases hstep
    | some ms =>
      have hactive : s.state = .active := h.inPhase.active_of_timer htimer
      rw [htimer] at hstep
      dsimp only at hstep
      split at hstep <;> cases hstep <;> exact fun hfinal => by cases hactive.symm.trans hfinal
  | poll step =>
    obtain ⟨producer, hproducer, rfl⟩ := Option.map_eq_some_iff.mp hstep
    exact iff_of_true (fun hfinal => by cases hproducer.symm.trans (hkept hfinal)) trivial

/-- **Timer and producer follow the lifecycle.** In every life of the node in which no activation
throws, the timer runs exactly in `ACTIVE` and there is a producer exactly in `INACTIVE` and
`ACTIVE`; the first activation that throws leaves a producer behind. The poll thread of a producer
that was stopped is gone in any case. -/
theorem health_resources_follow_lifecycle (hcodec : codec.Lawful) {thirty : F}
    {stored : Parameters F}
    (hrun : Runs (System.step codec period) (fun s event => event.Smooth s) (boot thirty stored)
      s) :
    s.Held ∧
      (∀ producer ∈ s.node.stopped,
        producer.machine.Stopped ∧ producer.machine.pollThread = .absent) ∧
      ∀ event s', s.step codec period event = some s' → (s'.Held ↔ event.Smooth s) := by
  have hheld : (∃ ledger, s.Coherent codec ledger) ∧ s.Held := by
    refine hrun.invariant (I := fun s => (∃ ledger, s.Coherent codec ledger) ∧ s.Held)
      (fun t event t' h hsmooth hstep => ?_) ⟨⟨_, coherent_boot thirty stored⟩, by simp [boot], ?_⟩
    · obtain ⟨⟨ledger, hcoherent⟩, hheld⟩ := h
      exact ⟨⟨_, hcoherent.step hcodec hstep⟩,
        (hcoherent.held_step_iff hcodec hheld hstep).mpr hsmooth⟩
    · simp [boot]
  obtain ⟨⟨ledger, hcoherent⟩, hheld⟩ := hheld
  have hretired : List.Forall₂ (fun producer duty =>
      (producer.machine.Stopped ∧ producer.machine.pollThread = .absent) ∧
        Producer.Retired codec producer duty) s.node.stopped ledger.closed :=
    hcoherent.retired.imp fun _ _ h => ⟨⟨h.stopped, h.pollThread⟩, h⟩
  exact ⟨hheld, ((List.forall₂_and_left _ _).mp hretired).1, fun event s' hstep =>
    hcoherent.held_step_iff hcodec hheld hstep⟩

/-- A node with one robot, after its activation. -/
theorem health_resources_follow_lifecycle_active :
    ∃ configured s, Runs (System.step plain wholeSeconds) (fun s event => event.Smooth s)
        (boot 30 (oneRobot (bytes "leader"))) configured ∧
      configured.step plain wholeSeconds (.managed (.transition .activate {})) = some s ∧
      s.state = .active ∧ s.Held := by
  obtain ⟨configured, hconfigured, hactivated⟩ := Option.bind_eq_some_iff.mp (show
    ((boot 30 (oneRobot (bytes "leader"))).step plain wholeSeconds
        (.managed (.transition .configure {}))).bind (fun configured =>
      (configured.step plain wholeSeconds (.managed (.transition .activate {}))).map fun s =>
        (s.state, configured.node.parameters)) =
      some (.active, oneRobot (bytes "leader")) by decide +kernel)
  obtain ⟨s, hstep, hs⟩ := Option.map_eq_some_iff.mp hactivated
  rw [Prod.mk.injEq] at hs
  have hconfigure : (Event.managed (.transition .configure {}) : Event Int).Smooth
      (boot 30 (oneRobot (bytes "leader"))) := trivial
  have hruns : Runs (System.step plain wholeSeconds) (fun s event => event.Smooth s)
      (boot 30 (oneRobot (bytes "leader"))) configured := .single hconfigure hconfigured
  have hsmooth : (Event.managed (.transition .activate {}) : Event Int).Smooth configured := by
    refine ⟨fun robotId hrobot => ?_, rfl⟩
    rw [hs.2] at hrobot ⊢
    rw [List.mem_singleton.mp hrobot]
    exact ⟨by simp, by simp [oneRobot], by simp [oneRobot]⟩
  exact ⟨configured, s, hruns, hstep, hs.1,
    (health_resources_follow_lifecycle plain_lawful (hruns.tail hsmooth hstep)).1⟩

/-- A robot whose name is not UTF-8 leaves the node finalized with its producer. -/
example : (List.foldlM (System.step plain wholeSeconds) (boot 30 (oneRobot [255]))
    [.managed (.transition .configure {}), .managed (.transition .activate {})]).map
      (fun s => (s.state, s.node.producer.isSome)) = some (.finalized, true) := by
  decide +kernel

end Ros2Dispatcher.GisHealth
