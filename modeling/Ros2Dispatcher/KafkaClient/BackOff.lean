import Mathlib.Data.List.Induction
import Ros2Dispatcher.KafkaClient.Sessions

/-!
# The back-off between reconnection attempts

Without a producer, `poll_loop` tries to create one in every iteration, and between two
iterations it waits for `reconnect_backoff_ms`. It waits with the predicate it also uses to be
woken for new records, which holds as long as `pending_records_` is not empty: then the wait
is over at once, and as nothing takes records out of the buffer without a producer, so is the
next one.

`backsOff_iff`: failing attempts are separated by a full back-off on exactly those paths on which
the poll thread finds the buffer empty whenever it comes to its wait, or leaves it early, between
two of them.
-/

namespace Ros2Dispatcher.KafkaClient

section Attempts

variable (config : KafkaProducerConfig)

/-- The step is an iteration of `poll_loop`: the first one, one after a wait that was over at
once, or one after a wait. -/
def Input.GoesOn (m : Machine) (rdkafka : RdKafka) (input : Input) : Prop :=
  input = .pollEnter rdkafka ∨ (input = .pollDone rdkafka ∧ m.producer.wakes = true) ∨
    ∃ timedOut, input = .wake timedOut rdkafka

/-- In the step `poll_loop` tries to create a producer, and fails. -/
structure FailedAttempt (x : Machine × Input) : Prop where
  running : x.1.producer.running = true
  hasProducer : x.1.producer.hasProducer = false
  fails : ∃ rdkafka, x.2.GoesOn x.1 rdkafka ∧
    (createProducerLocked config rdkafka x.1.producer).1 ≠ none

/-- The step ends a wait for `reconnect_backoff_ms` by its timeout. -/
def WaitsOut (x : Machine × Input) : Prop :=
  x.1.pollThread = .waiting config.reconnectBackoffMs ∧ ∃ rdkafka, x.2 = .wake true rdkafka

/-- Between two consecutive failed attempts, while `running_` stays true, a wait for
`reconnect_backoff_ms` runs to its timeout. -/
def BacksOff (steps : List (Machine × Input)) : Prop :=
  ∀ before a between b after, steps = before ++ a :: (between ++ b :: after) →
    FailedAttempt config a → FailedAttempt config b →
    (∀ x ∈ between, ¬FailedAttempt config x ∧ x.1.producer.running = true) →
    ∃ x ∈ between ++ [b], WaitsOut config x

/-- If there is no producer while `running_`, and none can be created now, nothing is pending. -/
def Machine.NothingWaits (m : Machine) (rdkafka : RdKafka) : Prop :=
  m.producer.running = true → m.producer.hasProducer = false →
    (createProducerLocked config rdkafka m.producer).1 ≠ none → m.producer.pendingRecords = []

/-- Where the step is the poll thread coming to its wait, or leaving it before the timeout,
nothing is pending that it cannot get rid of. -/
def Input.FindsNothing (m : Machine) : Input → Prop
  | .pollDone rdkafka => m.NothingWaits config rdkafka
  | .wake false rdkafka => m.NothingWaits config rdkafka
  | _ => True

end Attempts

variable {config : KafkaProducerConfig} {rdkafka : RdKafka} {p : KafkaProducer}
variable {m m' : Machine} {input : Input} {steps : List (Machine × Input)}

/-! ### The poll thread -/

/-- The poll thread is between two iterations. -/
def Machine.BetweenPolls (m : Machine) : Prop :=
  m.pollThread = .polling ∨ ∃ ms, m.pollThread = .waiting ms

/-- A wait without a producer is a back-off. -/
def Machine.Timed (config : KafkaProducerConfig) (m : Machine) : Prop :=
  ∀ ms, m.pollThread = .waiting ms → m.producer.hasProducer = false →
    ms = config.reconnectBackoffMs

theorem iterate_pollThread (h : m.producer.running = true) :
    (m.iterate config rdkafka).pollThread = .polling := by
  rw [Machine.iterate, if_pos h]

theorem iterate_not_waiting {ms : Int} : (m.iterate config rdkafka).pollThread ≠ .waiting ms := by
  rw [Machine.iterate]
  split <;> simp

/-- The drain keeps the producer. -/
theorem drainPending_hasProducer {records : List SentRecord} :
    (drainPending config rdkafka records p).hasProducer = p.hasProducer := by
  induction records generalizing p with
  | nil => rfl
  | cons record rest ih =>
    have htried : (tryProduceLocked rdkafka record p).2.hasProducer = p.hasProducer :=
      tryProduceLocked_hasProducer
    rw [drainPending]
    dsimp only
    split
    · exact htried
    · rw [ih]
      split <;> exact htried

theorem createProducerLocked_created {p' : KafkaProducer}
    (h : createProducerLocked config rdkafka p = (none, p')) : p'.hasProducer = true := by
  rw [createProducerLocked] at h
  split at h
  · cases (Prod.mk.inj h).1
  · split at h
    · cases (Prod.mk.inj h).1
    · rw [← (Prod.mk.inj h).2]

/-- An iteration that ends without a producer has failed to create one. -/
theorem pollLocked_hasProducer (h : (pollLocked config rdkafka p).hasProducer = false) :
    p.hasProducer = false ∧ (createProducerLocked config rdkafka p).1 ≠ none := by
  cases hproducer : p.hasProducer with
  | true => simp [pollLocked, hproducer, drainPending_hasProducer] at h
  | false =>
    refine ⟨rfl, fun hcreated => ?_⟩
    obtain ⟨p', hp'⟩ : ∃ p', createProducerLocked config rdkafka p = (none, p') :=
      ⟨_, Prod.ext hcreated rfl⟩
    have hproducer' := createProducerLocked_created hp'
    simp [pollLocked, hproducer, hp', hproducer', drainPending_hasProducer] at h

/-! ### From one step to the next -/

/-- What a step of the poll thread is: an iteration, or the beginning of a wait. -/
theorem goesOn_of_polls (hstep : m.step config input = some m')
    (hpolls : input = .pollEnter rdkafka ∨ input = .pollDone rdkafka ∨
      ∃ timedOut, input = .wake timedOut rdkafka) :
    (input.GoesOn m rdkafka ∧ m' = m.iterate config rdkafka) ∨
      (m.pollThread = .polling ∧ ¬input.GoesOn m rdkafka ∧
        m' = { m with pollThread := .waiting (waitMs config m.producer) }) := by
  rcases hpolls with rfl | rfl | ⟨timedOut, rfl⟩
  · simp only [Machine.step, Option.ite_none_right_eq_some, Option.some.injEq] at hstep
    exact .inl ⟨.inl rfl, hstep.2.symm⟩
  · simp only [Machine.step, Option.ite_none_right_eq_some] at hstep
    obtain ⟨hthread, hstep⟩ := hstep
    cases hwakes : m.producer.wakes with
    | true =>
      rw [if_pos hwakes] at hstep
      exact .inl ⟨.inr (.inl ⟨rfl, hwakes⟩), (Option.some.inj hstep).symm⟩
    | false =>
      rw [if_neg (by simp [hwakes])] at hstep
      exact .inr ⟨hthread, by simp [Input.GoesOn, hwakes], (Option.some.inj hstep).symm⟩
  · simp only [Machine.step] at hstep
    split at hstep
    · simp only [Option.ite_none_right_eq_some, Option.some.injEq] at hstep
      exact .inl ⟨.inr (.inr ⟨timedOut, rfl⟩), hstep.2.symm⟩
    · cases hstep

theorem Machine.Timed.step (hthreaded : m.Threaded) (h : m.Timed config)
    (hstep : m.step config input = some m') : m'.Timed config := by
  cases Machine.step_cases config hstep with
  | startAgain => exact h
  | start => exact h
  | started => exact fun _ hwaiting => by cases hwaiting
  | startFailed rdkafka p owner =>
    intro ms hwaiting
    rw [(hthreaded.starting owner).2] at hwaiting
    cases hwaiting
  | stopAgain => exact h
  | stop => exact h
  | stopped => exact fun _ hwaiting => by cases hwaiting
  | send rdkafka record =>
    exact fun ms hwaiting hproducer => h ms hwaiting (send_hasProducer.symm.trans hproducer)
  | iterate => exact fun ms hwaiting => absurd hwaiting iterate_not_waiting
  | wait =>
    intro ms hwaiting hproducer
    cases hwaiting
    exact if_neg (by simpa using hproducer)

/-- While `running_`, the poll thread goes on between iterations. -/
theorem Machine.BetweenPolls.step (hthreaded : m.Threaded) (h : m.BetweenPolls)
    (hrunning : m.producer.running = true) (hstep : m.step config input = some m') :
    m'.BetweenPolls := by
  have hpresent : m.pollThread ≠ .absent := by
    rcases h with hthread | ⟨ms, hthread⟩ <;> simp [hthread]
  cases Machine.step_cases config hstep with
  | startAgain => exact h
  | start => exact h
  | started rdkafka p owner => exact absurd (hthreaded.starting owner).2 hpresent
  | startFailed rdkafka p owner => exact absurd (hthreaded.starting owner).2 hpresent
  | stopAgain => exact h
  | stop => exact h
  | stopped owner =>
    exact absurd (hrunning.symm.trans (hthreaded.stopping owner)) (by simp)
  | send => exact h
  | iterate => exact .inl (iterate_pollThread hrunning)
  | wait => exact .inr ⟨_, rfl⟩

/-- How the poll thread can come to be between iterations without a producer: by a failed
attempt, or because it was already. -/
theorem attempt_of_betweenPolls (hthreaded : m.Threaded) (hstep : m.step config input = some m')
    (hrunning : m'.producer.running = true) (hproducer : m'.producer.hasProducer = false)
    (hbetween : m'.BetweenPolls) :
    FailedAttempt config (m, input) ∨
      ((¬FailedAttempt config (m, input) ∧ m.producer.running = true) ∧
        ¬WaitsOut config (m, input) ∧ m.producer.hasProducer = false ∧ m.BetweenPolls) := by
  have hother : ∀ input : Input, (∀ rdkafka, ¬input.GoesOn m rdkafka) →
      ¬FailedAttempt config (m, input) ∧ ¬WaitsOut config (m, input) := by
    refine fun input hinput => ⟨fun hfailed => ?_, fun hout => ?_⟩
    · obtain ⟨rdkafka, hgoes, -⟩ := hfailed.fails
      exact hinput rdkafka hgoes
    · obtain ⟨-, rdkafka, rfl⟩ := hout
      exact hinput rdkafka (.inr (.inr ⟨true, rfl⟩))
  have hpresent : m'.pollThread ≠ .absent ∧ m'.pollThread ≠ .entering := by
    rcases hbetween with hthread | ⟨ms, hthread⟩ <;> simp [hthread]
  cases Machine.step_cases config hstep with
  | startAgain =>
    obtain ⟨hnot, hout⟩ := hother .start (by simp [Input.GoesOn])
    exact .inr ⟨⟨hnot, hrunning⟩, hout, hproducer, hbetween⟩
  | start owner running => exact absurd (hthreaded.stopped ⟨owner, running⟩) hpresent.1
  | started => exact absurd rfl hpresent.2
  | startFailed rdkafka p owner => exact absurd (hthreaded.starting owner).2 hpresent.1
  | stopAgain owner running => exact absurd (running.symm.trans hrunning) Bool.false_ne_true
  | stop => cases hrunning
  | stopped => exact absurd rfl hpresent.1
  | send rdkafka record =>
    obtain ⟨hnot, hout⟩ := hother (.send rdkafka record) (by simp [Input.GoesOn])
    exact .inr ⟨⟨hnot, send_running.symm.trans hrunning⟩, hout,
      send_hasProducer.symm.trans hproducer, hbetween⟩
  | iterate rdkafka polls =>
    have hrunning' : m.producer.running = true :=
      (iterate_running config rdkafka m).2.1.symm.trans hrunning
    rcases goesOn_of_polls hstep polls with ⟨hgoes, -⟩ | ⟨-, -, hwaits⟩
    · rw [Machine.iterate, if_pos hrunning'] at hproducer
      obtain ⟨hnone, hfails⟩ := pollLocked_hasProducer hproducer
      exact .inl ⟨hrunning', hnone, rdkafka, hgoes, hfails⟩
    · exact absurd (congrArg Machine.pollThread hwaits) iterate_not_waiting
  | wait rdkafka pollThread wakes =>
    obtain ⟨hnot, hout⟩ := hother (.pollDone rdkafka) (by simp [Input.GoesOn, wakes])
    exact .inr ⟨⟨hnot, hrunning⟩, hout, hproducer, .inl pollThread⟩

/-! ### Paths -/

theorem threaded_of_path (hpath : Path (Machine.step config) {} steps m) : m.Threaded :=
  (hpath.runs (C := fun _ _ => True) fun _ _ => trivial).invariant
    (fun _ _ _ h _ hstep => h.step hstep) .initial

theorem timed_of_path (hpath : Path (Machine.step config) {} steps m) : m.Timed config := by
  have hinv : m.Threaded ∧ m.Timed config :=
    (hpath.runs (C := fun _ _ => True) fun _ _ => trivial).invariant
      (I := fun m : Machine => m.Threaded ∧ m.Timed config)
      (fun _ _ _ h _ hstep => ⟨h.1.step hstep, h.2.step h.1 hstep⟩)
      ⟨.initial, fun _ hwaiting => by cases hwaiting⟩
  exact hinv.2

/-- While `running_`, the poll thread goes on between iterations all along a path. -/
theorem betweenPolls_of_path (hthreaded : m.Threaded) (h : m.BetweenPolls)
    (hpath : Path (Machine.step config) m steps m')
    (hrunning : ∀ x ∈ steps, x.1.producer.running = true) : m'.BetweenPolls := by
  induction steps generalizing m with
  | nil =>
    obtain rfl := hpath
    exact h
  | cons x steps ih =>
    obtain ⟨rfl, m₁, hstep, hpath⟩ := hpath
    rw [List.forall_mem_cons] at hrunning
    exact ih (hthreaded.step hstep) (h.step hthreaded hrunning.1 hstep) hpath hrunning.2

/-- Between iterations without a producer, the last attempt has failed, and nothing has been waited
out since. -/
theorem exists_failedAttempt (hpath : Path (Machine.step config) {} steps m)
    (hrunning : m.producer.running = true) (hproducer : m.producer.hasProducer = false)
    (hbetween : m.BetweenPolls) :
    ∃ before a between, steps = before ++ a :: between ∧ FailedAttempt config a ∧
      ∀ x ∈ between, (¬FailedAttempt config x ∧ x.1.producer.running = true) ∧
        ¬WaitsOut config x := by
  induction steps using List.reverseRecOn generalizing m with
  | nil =>
    obtain rfl := hpath
    cases hrunning
  | append_singleton steps x ih =>
    obtain ⟨_, hbefore, rfl, _, hstep, rfl⟩ := Path.append_iff.mp hpath
    have hthreaded := threaded_of_path hbefore
    rcases attempt_of_betweenPolls hthreaded hstep hrunning hproducer hbetween with
      hfailed | ⟨hnot, hout, hproducer', hbetween'⟩
    · exact ⟨steps, x, [], rfl, hfailed, by simp⟩
    · obtain ⟨before, a, between, rfl, ha, hsince⟩ := ih hbefore hnot.2 hproducer' hbetween'
      refine ⟨before, a, between ++ [x], by simp, ha, fun y hy => ?_⟩
      rcases List.mem_append.mp hy with hold | hnew
      · exact hsince y hold
      · rw [List.mem_singleton.mp hnew]
        exact ⟨hnot, hout⟩

/-- Finding nothing, the poll thread comes to its next attempt by a timeout only. -/
theorem backsOff_of_findsNothing (hpath : Path (Machine.step config) {} steps m)
    (h : ∀ x ∈ steps, x.2.FindsNothing config x.1) : BacksOff config steps := by
  rintro before a between b after rfl ha hb hbetween
  obtain ⟨_, hbefore, rfl, m₁, hstep, hrest⟩ := Path.append_iff.mp hpath
  obtain ⟨_, hpath', rfl, m₂, hstep', -⟩ := Path.append_iff.mp hrest
  have hthreaded := threaded_of_path hbefore
  have hb' : Path (Machine.step config) {} (before ++ a :: between) b.1 :=
    Path.append_iff.mpr ⟨a.1, hbefore, rfl, m₁, hstep, hpath'⟩
  -- after a failed attempt the poll thread is in `poll`, and stays between iterations
  have hpolling : m₁.BetweenPolls := by
    obtain ⟨rdkafka, hgoes, -⟩ := ha.fails
    have hpolls : a.2 = .pollEnter rdkafka ∨ a.2 = .pollDone rdkafka ∨
        ∃ timedOut, a.2 = .wake timedOut rdkafka := hgoes.imp_right (.imp_left And.left)
    rcases goesOn_of_polls hstep hpolls with ⟨-, rfl⟩ | ⟨-, hnot, -⟩
    · exact .inl (iterate_pollThread ha.running)
    · exact absurd hgoes hnot
  have hend : b.1.BetweenPolls :=
    betweenPolls_of_path (hthreaded.step hstep) hpolling hpath' fun x hx => (hbetween x hx).2
  obtain ⟨rdkafka, hgoes, hfails⟩ := hb.fails
  have hfinds : b.2.FindsNothing config b.1 := h b (by simp)
  have hsleeps : b.1.NothingWaits config rdkafka → b.1.producer.wakes ≠ true := fun hnothing => by
    simp [KafkaProducer.wakes, hb.running, hnothing hb.running hb.hasProducer hfails]
  obtain ⟨machine, input⟩ := b
  refine ⟨(machine, input), by simp, ?_⟩
  -- the thread enters `poll`, comes back from it, or wakes up
  rcases hgoes with rfl | ⟨rfl, hwakes⟩ | ⟨timedOut, rfl⟩
  · simp only [Machine.step, Option.ite_none_right_eq_some] at hstep'
    rcases hend with hthread | ⟨ms, hthread⟩
    · exact absurd (hstep'.1.symm.trans hthread) (by simp)
    · exact absurd (hstep'.1.symm.trans hthread) (by simp)
  · exact absurd hwakes (hsleeps hfinds)
  · simp only [Machine.step] at hstep'
    split at hstep'
    next ms hthread =>
      cases timedOut with
      | true =>
        rw [timed_of_path hb' ms hthread hb.hasProducer] at hthread
        exact ⟨hthread, rdkafka, rfl⟩
      | false =>
        simp only [Bool.false_or, Option.ite_none_right_eq_some] at hstep'
        exact absurd hstep'.1 (hsleeps hfinds)
    · cases hstep'

/-- If the poll thread finds something, it has not backed off. -/
theorem findsNothing_of_backsOff (hpath : Path (Machine.step config) {} steps m)
    (h : BacksOff config steps) : ∀ x ∈ steps, x.2.FindsNothing config x.1 := by
  intro x hx
  obtain ⟨before, after, m₁, rfl, hbefore, hstep⟩ := hpath.exists_of_mem hx
  obtain ⟨machine, input⟩ := x
  -- an attempt that is not made at a timeout contradicts the back-off
  have hfound : ∀ rdkafka, machine.BetweenPolls →
      (machine.producer.wakes = true → input.GoesOn machine rdkafka) →
      (∀ rdkafka', input ≠ .wake true rdkafka') → machine.NothingWaits config rdkafka := by
    intro rdkafka hbetween hgoes htimeout hrunning hproducer hfails
    by_contra hpending
    have hwakes : machine.producer.wakes = true := by simp [KafkaProducer.wakes, hpending]
    obtain ⟨before', a, between, rfl, ha, hsince⟩ :=
      exists_failedAttempt hbefore hrunning hproducer hbetween
    obtain ⟨y, hy, hout⟩ := h before' a between (machine, input) after (by simp) ha
      ⟨hrunning, hproducer, rdkafka, hgoes hwakes, hfails⟩ fun z hz => (hsince z hz).1
    rcases List.mem_append.mp hy with hold | hnew
    · exact (hsince y hold).2 hout
    · rw [List.mem_singleton.mp hnew] at hout
      obtain ⟨-, rdkafka', hinput⟩ := hout
      exact htimeout rdkafka' hinput
  cases input with
  | pollDone rdkafka =>
    simp only [Machine.step, Option.ite_none_right_eq_some] at hstep
    exact hfound rdkafka (.inl hstep.1) (fun hwakes => .inr (.inl ⟨rfl, hwakes⟩)) (by simp)
  | wake timedOut rdkafka =>
    cases timedOut with
    | true => trivial
    | false =>
      refine hfound rdkafka (.inr ?_) (fun _ => .inr (.inr ⟨false, rfl⟩)) (by simp)
      simp only [Machine.step] at hstep
      split at hstep
      next ms hthread => exact ⟨ms, hthread⟩
      · cases hstep
  | start => trivial
  | startSection => trivial
  | stop => trivial
  | stopSection => trivial
  | send => trivial
  | pollEnter => trivial

/-- **Back-off.** Failing attempts are separated by a full back-off if the poll thread finds
nothing pending between them, and on no other path. -/
theorem backsOff_iff (hpath : Path (Machine.step config) {} steps m) :
    BacksOff config steps ↔ ∀ x ∈ steps, x.2.FindsNothing config x.1 :=
  ⟨findsNothing_of_backsOff hpath, backsOff_of_findsNothing hpath⟩

/-- librdkafka creates no producer. -/
def RdKafka.down : RdKafka where
  create := some "unreachable"

theorem createProducerLocked_down : (createProducerLocked config .down p).1 ≠ none := by
  rw [createProducerLocked]
  split
  · simp
  · simp [RdKafka.down]

/-- Two attempts with a back-off between them, and nothing sent. -/
theorem backsOff_twice : ∃ steps m, Path (Machine.step {}) {} steps m ∧
    steps.map Prod.snd = [.start, .startSection .down, .pollEnter .down, .pollDone .down,
      .wake true .down] ∧ BacksOff {} steps := by
  have hpath : Path (Machine.step {}) {} [({}, .start), (_, .startSection .down),
      (_, .pollEnter .down), (_, .pollDone .down), (_, .wake true .down)] _ :=
    ⟨rfl, _, rfl, rfl, _, rfl, rfl, _, rfl, rfl, _, rfl, rfl, _, rfl, rfl⟩
  refine ⟨_, _, hpath, rfl, (backsOff_iff hpath).mpr ?_⟩
  simp only [List.forall_mem_cons]
  exact ⟨trivial, trivial, trivial, fun _ _ _ => rfl, trivial, by simp⟩

/-- A record sent while there is no producer: the next attempt follows at once. -/
theorem pending_record_skips_backOff :
    ∃ steps m, Path (Machine.step {}) {} steps m ∧ ¬BacksOff {} steps := by
  have hpath : Path (Machine.step {}) {} [({}, .start), (_, .startSection .down),
      (_, .send .down .blank), (_, .pollEnter .down), (_, .pollDone .down)] _ :=
    ⟨rfl, _, rfl, rfl, _, rfl, rfl, _, rfl, rfl, _, rfl, rfl, _, rfl, rfl⟩
  refine ⟨_, _, hpath, fun hbacksOff => ?_⟩
  have hfinds := findsNothing_of_backsOff hpath hbacksOff
  simp only [List.forall_mem_cons] at hfinds
  have hpending := hfinds.2.2.2.2.1 rfl rfl createProducerLocked_down
  cases hpending

end Ros2Dispatcher.KafkaClient
