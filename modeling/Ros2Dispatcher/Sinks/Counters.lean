import Mathlib.Algebra.BigOperators.Group.List.Basic
import Mathlib.Algebra.GroupWithZero.Nat
import Ros2Dispatcher.KafkaClient.Queueing
import Ros2Dispatcher.Sinks.KafkaSink

/-!
# The counters of `kafka_sink`

Each subscription of an active `kafka_sink` counts the messages it sent, dropped and failed
to send, by what `send` returns; the producer keeps counters of its own, and settles a
buffered record later, on its poll thread. `Books` are both, together with the threads of the
producer and the one callback that may be between `send` and its count; what happens to them
is an `Event`.

* `Books.Balanced.step`: the counters agree as long as `poll_loop` takes no record off its
  buffer but one that librdkafka refuses with an error.
* `counters_agree`: the whole activation.
* `buffered_record_counted_wrong`: a record that is accepted later is an error at the sink.
-/

namespace Ros2Dispatcher.KafkaSink

open KafkaClient Sinks

/-! ### Counting -/

/-- The counters of `SubscriptionRuntime`. -/
structure Counters where
  sentOk : Nat := 0
  dropped : Nat := 0
  errors : Nat := 0
deriving DecidableEq, Repr

/-- What the callback counts once `send` has returned. -/
def Counters.count (counters : Counters) (result : KafkaSendResult) : Counters :=
  if result.status = .sent then { counters with sentOk := counters.sentOk + 1 }
  else if result.status = .queueFull && !result.buffered then
    { counters with dropped := counters.dropped + 1 }
  else { counters with errors := counters.errors + 1 }

/-- An active subscription. -/
structure Subscription where
  runtime : SubscriptionRuntime
  counters : Counters := {}
deriving DecidableEq, Repr

def Subscription.count (result : KafkaSendResult) (subscription : Subscription) : Subscription :=
  { subscription with counters := subscription.counters.count result }

/-- Count a message that cannot be serialized to JSON. -/
def Subscription.countError (subscription : Subscription) : Subscription :=
  { subscription with
    counters := { subscription.counters with errors := subscription.counters.errors + 1 } }

/-- `serialize_message_to_json` succeeds, where it is called. -/
def SubscriptionRuntime.serializes (runtime : SubscriptionRuntime) (json : JsonConversion)
    (msg : List UInt8) : Bool :=
  match runtime.payloadFormat with
  | .cdr => true
  | .json => runtime.rmwTypeSupport && runtime.introspectionTypeSupport &&
      (json.serializeMessageToJson runtime.msgType msg).isSome

/-- An activation of the sink: the producer with its threads, the subscriptions, and the
callback that has the result of its `send` and has not counted it yet. Callbacks run one at a
time. -/
structure Books where
  machine : Machine := {}
  subscriptions : List Subscription
  callback : Option (Nat × KafkaSendResult) := none
deriving DecidableEq, Repr

/-- A step of the producer's own threads, a message for a subscription up to the return of
`send`, and the count of its result. -/
inductive Event
  | producer (input : Input)
  | receive (rdkafka : RdKafka) (subscription : Nat) (msg : List UInt8) (nowNs : Int64)
  | count

variable (config : KafkaProducerConfig) (json : JsonConversion)

/-- The callback of a subscription, up to the return of `send`. -/
def Books.receive (books : Books) (rdkafka : RdKafka) (i : Nat) (subscription : Subscription)
    (msg : List UInt8) (nowNs : Int64) : Books :=
  if subscription.runtime.serializes json msg then
    match onMessage json { isActive := true, client := true } subscription.runtime msg nowNs with
    | some record =>
      let (result, producer) := send config rdkafka record books.machine.producer
      { books with machine := { books.machine with producer }, callback := some (i, result) }
    -- an exception of `apply_ts_envelope_to_json`
    | none => books
  else { books with subscriptions := books.subscriptions.modify i Subscription.countError }

/-- One step; the records the producer is sent are those of the callbacks. -/
def Books.step (books : Books) : Event → Option Books
  | .producer (.send _ _) => none
  | .producer input =>
    (books.machine.step config input).map fun machine => { books with machine }
  | .receive rdkafka i msg nowNs =>
    match books.callback, books.subscriptions[i]? with
    | none, some subscription => some (books.receive config json rdkafka i subscription msg nowNs)
    | _, _ => none
  | .count =>
    match books.callback with
    | some (i, result) => some { books with
        subscriptions := books.subscriptions.modify i (Subscription.count result)
        callback := none }
    | none => none

/-- A sum over the counters of all subscriptions. -/
def Books.total (counter : Counters → Nat) (books : Books) : Nat :=
  (books.subscriptions.map fun subscription => counter subscription.counters).sum

/-- Between two callbacks, while no record is buffered, the counters of the sink add up to
those of the producer. -/
def Books.Agree (books : Books) : Prop :=
  books.callback = none → books.machine.producer.pendingRecords = [] →
    books.total Counters.sentOk = books.machine.producer.sentOk ∧
    books.total Counters.dropped = books.machine.producer.droppedQueueFull

/-- No record that was buffered and has been accepted was counted as an error. -/
def Books.Acquitted (books : Books) : Prop :=
  ∀ call ∈ books.machine.producer.returned, call.2.buffered = true →
    call.1 ∈ books.machine.producer.accepted → (({} : Counters).count call.2).errors = 0

/-- librdkafka in an iteration of `poll_loop`. -/
def Input.polls? : Input → Option RdKafka
  | .pollEnter rdkafka => some rdkafka
  | .pollDone rdkafka => some rdkafka
  | .wake _ rdkafka => some rdkafka
  | _ => none

/-- The records an iteration of `poll_loop` takes off the buffer: without a producer none, and
else those before the first one that is kept because librdkafka is full. -/
def takenOff (rdkafka : RdKafka) (p : KafkaProducer) : List SentRecord :=
  if p.hasProducer || (createProducerLocked config rdkafka p).1.isNone then
    p.pendingRecords.takeWhile fun record =>
      !(rdkafka.produce record record.record.message = .queueFull && !config.dropWhenFull)
  else []

/-- If the event is an iteration of `poll_loop`, librdkafka refuses with an error whatever
record it takes off the buffer. -/
def Event.FailsBuffered (books : Books) (event : Event) : Prop :=
  ∀ input rdkafka, event = .producer input → Input.polls? input = some rdkafka →
    books.machine.producer.running = true →
    ∀ record ∈ takenOff config rdkafka books.machine.producer,
      ∃ code, rdkafka.produce record record.record.message = .other code

/-! ### What `send` returns -/

variable {config json} {rdkafka : RdKafka} {p : KafkaProducer}

/-- The producer after a record was tried, with the result that the callback sees. -/
structure CountsSend (record : SentRecord) (p : KafkaProducer) (result : KafkaSendResult)
    (p' : KafkaProducer) : Prop where
  sentOk : p'.sentOk = p.sentOk + (({} : Counters).count result).sentOk
  dropped : p'.droppedQueueFull = p.droppedQueueFull + (({} : Counters).count result).dropped
  accepted : p'.accepted = p.accepted ++ if result.status = .sent then [record] else []
  buffered : result.buffered = true → result.status ≠ .sent
  returned : p'.returned = p.returned

/-- What is accepted then was accepted before, or is the record itself, which is not buffered. -/
theorem CountsSend.mem_accepted {record record' : SentRecord} {result : KafkaSendResult}
    {p' : KafkaProducer} (h : CountsSend record p result p') (hmem : record' ∈ p'.accepted) :
    record' ∈ p.accepted ∨ record' = record ∧ result.buffered ≠ true := by
  rw [h.accepted, List.mem_append] at hmem
  refine hmem.imp_right fun hnew => ?_
  split at hnew
  next hsent => exact ⟨List.mem_singleton.mp hnew, fun hbuffered => h.buffered hbuffered hsent⟩
  next => cases hnew

theorem bufferRecord_counts {record : SentRecord} {p' : KafkaProducer}
    (hsentOk : p'.sentOk = p.sentOk) (hdropped : p'.droppedQueueFull = p.droppedQueueFull)
    (haccepted : p'.accepted = p.accepted) (hreturned : p'.returned = p.returned) :
    CountsSend record p (bufferRecord config record p').1 (bufferRecord config record p').2 := by
  unfold bufferRecord
  split
  · refine ⟨hsentOk, congrArg (· + 1) hdropped, ?_, nofun, hreturned⟩
    exact haccepted.trans (List.append_nil _).symm
  · refine ⟨hsentOk, hdropped, ?_, nofun, hreturned⟩
    exact haccepted.trans (List.append_nil _).symm

theorem sendRunning_counts (record : SentRecord) :
    CountsSend record p (sendRunning config rdkafka record p).1
      (sendRunning config rdkafka record p).2 := by
  unfold sendRunning
  by_cases hp : p.hasProducer = true
  · simp only [hp, if_true, tryProduceLocked, Bool.not_true, Bool.false_eq_true, if_false]
    have hlogged : (p.logProduce record (rdkafka.produce record record.record.message)).accepted =
        p.accepted ++ if rdkafka.produce record record.record.message = .noError then [record]
          else [] := accepted_of_produced rfl
    cases hcode : rdkafka.produce record record.record.message with
    | noError =>
      rw [hcode] at hlogged
      exact ⟨rfl, rfl, hlogged, by simp, rfl⟩
    | queueFull =>
      rw [hcode, if_neg (by simp), List.append_nil] at hlogged
      cases config.dropWhenFull with
      | false => exact bufferRecord_counts rfl rfl hlogged rfl
      | true => exact ⟨rfl, rfl, hlogged.trans (List.append_nil _).symm, by simp, rfl⟩
    | other code =>
      rw [hcode] at hlogged
      exact ⟨rfl, rfl, hlogged, by simp, rfl⟩
  · rw [if_neg hp]
    exact bufferRecord_counts rfl rfl rfl rfl

/-- A call of `send`: while the producer runs its result is kept, else it counts for nothing
but an error. -/
theorem send_counts (record : QueuedRecord) :
    (p.running = true → ∃ p', CountsSend ⟨p.returned.length, record⟩ p
      (send config rdkafka record p).1 p' ∧ (send config rdkafka record p).2 = { p' with
        returned := p.returned ++
          [(⟨p.returned.length, record⟩, (send config rdkafka record p).1)] }) ∧
    (p.running = false → send config rdkafka record p =
      (⟨.producerUnavailable, "producer stopped", false⟩, p)) := by
  constructor
  · intro hrunning
    have hcounts : CountsSend ⟨p.returned.length, record⟩ p
        (sendRunning config rdkafka ⟨p.returned.length, record⟩ p).1
        (sendRunning config rdkafka ⟨p.returned.length, record⟩ p).2 := sendRunning_counts _
    have hreturned := hcounts.returned
    refine ⟨(sendRunning config rdkafka ⟨p.returned.length, record⟩ p).2, ?_, ?_⟩
    · simp only [send, hrunning, Bool.not_true, Bool.false_eq_true, if_false]
      exact hcounts
    · simp only [send, hrunning, Bool.not_true, Bool.false_eq_true, if_false, hreturned]
  · intro hrunning
    rw [send, hrunning]
    rfl

/-! ### What `poll_loop` does -/

/-- Two states of the producer with the same accounts. -/
structure SameAccounts (p p' : KafkaProducer) : Prop where
  sentOk : p'.sentOk = p.sentOk
  dropped : p'.droppedQueueFull = p.droppedQueueFull
  accepted : p'.accepted = p.accepted
  returned : p'.returned = p.returned

theorem SameAccounts.of_deliveries {p' : KafkaProducer} (h : p'.toDeliveries = p.toDeliveries) :
    SameAccounts p p' := by
  refine ⟨congrArg Deliveries.sentOk h, congrArg Deliveries.droppedQueueFull h, ?_,
    congrArg Deliveries.returned h⟩
  exact congrArg Deliveries.accepted h

theorem SameAccounts.trans {p' p'' : KafkaProducer} (h : SameAccounts p p')
    (h' : SameAccounts p' p'') : SameAccounts p p'' :=
  ⟨h'.sentOk.trans h.sentOk, h'.dropped.trans h.dropped, h'.accepted.trans h.accepted,
    h'.returned.trans h.returned⟩

/-- The drain settles no account, if each record it goes on behind is refused with an error. -/
theorem drainPending_sameAccounts {records : List SentRecord} (hp : p.hasProducer = true)
    (hfails : ∀ record ∈ records.takeWhile (fun record =>
      !(rdkafka.produce record record.record.message = .queueFull && !config.dropWhenFull)),
      ∃ code, rdkafka.produce record record.record.message = .other code) :
    SameAccounts p (drainPending config rdkafka records p) := by
  induction records generalizing p with
  | nil => exact .of_deliveries rfl
  | cons record rest ih =>
    have hlogged : (p.logProduce record (rdkafka.produce record record.record.message)).accepted =
        p.accepted ++ if rdkafka.produce record record.record.message = .noError then [record]
          else [] := accepted_of_produced rfl
    simp only [drainPending, tryProduceLocked, hp, Bool.not_true, Bool.false_eq_true, if_false]
    cases hcode : rdkafka.produce record record.record.message with
    | noError =>
      have hfirst := hfails record (by simp [hcode])
      rw [hcode] at hfirst
      obtain ⟨code, hfirst⟩ := hfirst
      cases hfirst
    | queueFull =>
      rw [hcode, if_neg (by simp), List.append_nil] at hlogged
      cases hfull : config.dropWhenFull with
      | false => exact ⟨rfl, rfl, hlogged, rfl⟩
      | true =>
        have hfirst := hfails record (by simp [hfull])
        rw [hcode] at hfirst
        obtain ⟨code, hfirst⟩ := hfirst
        cases hfirst
    | other code =>
      rw [hcode, if_neg (by simp), List.append_nil] at hlogged
      have hrest : ∀ record' ∈ rest.takeWhile (fun record =>
          !(rdkafka.produce record record.record.message = .queueFull && !config.dropWhenFull)),
          ∃ code, rdkafka.produce record' record'.record.message = .other code := by
        intro record' hrecord'
        refine hfails record' ?_
        rw [List.takeWhile_cons, if_pos (by simp [hcode])]
        exact List.mem_cons_of_mem _ hrecord'
      simp only [reduceCtorEq, decide_false, Bool.false_and, Bool.false_eq_true, if_false]
      refine SameAccounts.trans ?_ (ih ?_ hrest)
      · exact ⟨rfl, rfl, hlogged, rfl⟩
      · exact hp

/-- An iteration of `poll_loop` settles no account under the same condition. -/
theorem pollLocked_sameAccounts (hfails : ∀ record ∈ takenOff config rdkafka p,
    ∃ code, rdkafka.produce record record.record.message = .other code) :
    SameAccounts p (pollLocked config rdkafka p) := by
  have hdrain : ∀ p' : KafkaProducer, p'.toDeliveries = p.toDeliveries →
      (p'.hasProducer = true → (p.hasProducer ||
        (createProducerLocked config rdkafka p).1.isNone) = true) →
      SameAccounts p
        (if p'.hasProducer then drainPending config rdkafka p'.pendingRecords p' else p') := by
    intro p' hdeliveries hcreated
    have hp := SameAccounts.of_deliveries hdeliveries
    split
    next hp' =>
      unfold takenOff at hfails
      rw [if_pos (hcreated hp'), ← congrArg Deliveries.pendingRecords hdeliveries] at hfails
      exact hp.trans (drainPending_sameAccounts hp' hfails)
    · exact hp
  have hdeliveries := (createProducerLocked_spec config rdkafka p).1
  unfold pollLocked
  split
  next hp =>
    have hp : p.hasProducer = false := by simpa using hp
    split
    next error p' hcreate =>
      rw [hcreate] at hdeliveries
      refine hdrain { p' with status := .degraded, lastError := error } hdeliveries fun hp' => ?_
      rw [createProducerLocked_error hcreate, hp] at hp'
      cases hp'
    next p' hcreate =>
      rw [hcreate] at hdeliveries
      exact hdrain p' hdeliveries fun _ => by rw [hcreate]; simp
  next hp => exact hdrain p rfl fun hp' => by rw [hp']; rfl

/-- A step of the producer's own threads settles no account under the same condition. -/
theorem machineStep_sameAccounts {m m' : Machine} {input : Input}
    (hinput : ∀ rdkafka record, input ≠ .send rdkafka record)
    (hfails : ∀ rdkafka, Input.polls? input = some rdkafka → m.producer.running = true →
      ∀ record ∈ takenOff config rdkafka m.producer,
        ∃ code, rdkafka.produce record record.record.message = .other code)
    (hstep : m.step config input = some m') : SameAccounts m.producer m'.producer := by
  cases Machine.step_cases config hstep with
  | startAgain => exact .of_deliveries rfl
  | start => exact ⟨rfl, rfl, rfl, rfl⟩
  | started rdkafka p owner result => exact .of_deliveries (startLocked_deliveries result)
  | startFailed rdkafka p owner result => exact .of_deliveries (startLocked_deliveries result)
  | stopAgain => exact .of_deliveries rfl
  | stop => exact ⟨rfl, rfl, rfl, rfl⟩
  | stopped => exact ⟨rfl, rfl, rfl, rfl⟩
  | send rdkafka record => exact absurd rfl (hinput rdkafka record)
  | iterate rdkafka polls =>
    have hpolls : Input.polls? input = some rdkafka := by
      rcases polls with rfl | rfl | ⟨timedOut, rfl⟩ <;> rfl
    unfold Machine.iterate
    split
    next hrunning => exact pollLocked_sameAccounts (hfails rdkafka hpolls hrunning)
    · exact .of_deliveries rfl
  | wait => exact .of_deliveries rfl

/-! ### The invariant -/

/-- Both levels agree up to the callback in progress, and no buffered record is accepted. -/
structure Books.Balanced (books : Books) : Prop where
  callback_lt : ∀ call, books.callback = some call → call.1 < books.subscriptions.length
  sentOk : books.total Counters.sentOk +
    (books.callback.elim 0 fun call => (({} : Counters).count call.2).sentOk) =
      books.machine.producer.sentOk
  dropped : books.total Counters.dropped +
    (books.callback.elim 0 fun call => (({} : Counters).count call.2).dropped) =
      books.machine.producer.droppedQueueFull
  accepted_lt : ∀ record ∈ books.machine.producer.accepted,
    record.call < books.machine.producer.returned.length
  returned_lt : ∀ call ∈ books.machine.producer.returned,
    call.1.call < books.machine.producer.returned.length
  unaccepted : ∀ call ∈ books.machine.producer.returned, call.2.buffered = true →
    call.1 ∉ books.machine.producer.accepted

theorem sum_map_modify {α : Type} {f : α → Nat} {g : α → α} {d : Nat}
    (hg : ∀ a, f (g a) = f a + d) {i : Nat} {l : List α} (hi : i < l.length) :
    ((l.modify i g).map f).sum = (l.map f).sum + d := by
  induction l generalizing i with
  | nil => exact absurd hi (Nat.not_lt_zero i)
  | cons a l ih =>
    cases i with
    | zero => simp [hg, Nat.add_right_comm]
    | succ i => simp [ih (Nat.lt_of_succ_lt_succ hi), Nat.add_assoc]

theorem Counters.count_sentOk (counters : Counters) (result : KafkaSendResult) :
    (counters.count result).sentOk = counters.sentOk + (({} : Counters).count result).sentOk := by
  unfold Counters.count
  split
  · rw [Nat.zero_add]
  · split <;> rfl

theorem Counters.count_dropped (counters : Counters) (result : KafkaSendResult) :
    (counters.count result).dropped =
      counters.dropped + (({} : Counters).count result).dropped := by
  unfold Counters.count
  split
  · rfl
  · split
    · rw [Nat.zero_add]
    · rfl

namespace Books.Balanced

variable {books books' : Books}

/-- Fresh books, with any subscriptions that have counted nothing yet. -/
theorem initial (runtimes : List SubscriptionRuntime) :
    Books.Balanced { subscriptions := runtimes.map fun runtime => { runtime } } where
  callback_lt := nofun
  sentOk := by simp [Books.total, Function.comp_def]
  dropped := by simp [Books.total, Function.comp_def]
  accepted_lt := nofun
  returned_lt := nofun
  unaccepted := nofun

/-- The producer's threads keep the balance. -/
theorem producer (h : books.Balanced) {machine : Machine}
    (hsame : SameAccounts books.machine.producer machine.producer) :
    Balanced { books with machine } where
  callback_lt := h.callback_lt
  sentOk := h.sentOk.trans hsame.sentOk.symm
  dropped := h.dropped.trans hsame.dropped.symm
  accepted_lt := by
    simp only [hsame.accepted, hsame.returned]
    exact h.accepted_lt
  returned_lt := by
    simp only [hsame.returned]
    exact h.returned_lt
  unaccepted := by
    simp only [hsame.accepted, hsame.returned]
    exact h.unaccepted

/-- The result of a `send` waits to be counted. -/
theorem send (h : books.Balanced) (hidle : books.callback = none) {i : Nat}
    (hi : i < books.subscriptions.length) (record : QueuedRecord) :
    Balanced { books with
      machine := { books.machine with
        producer := (KafkaClient.send config rdkafka record books.machine.producer).2 }
      callback := some (i, (KafkaClient.send config rdkafka record
        books.machine.producer).1) } := by
  have hcounts := @send_counts config rdkafka books.machine.producer record
  obtain ⟨hrunning, hstopped⟩ := hcounts
  have hsentOk := h.sentOk
  have hdropped := h.dropped
  rw [hidle, Option.elim_none, Nat.add_zero] at hsentOk hdropped
  cases hstate : books.machine.producer.running with
  | false =>
    rw [hstopped hstate]
    exact
      { callback_lt := fun call hcall => by cases hcall; exact hi
        sentOk := hsentOk
        dropped := hdropped
        accepted_lt := h.accepted_lt
        returned_lt := h.returned_lt
        unaccepted := h.unaccepted }
  | true =>
    obtain ⟨p', hcounts, hreturned⟩ := hrunning hstate
    rw [hreturned]
    -- only what the call reports and counts matters from here on
    generalize (KafkaClient.send config rdkafka record books.machine.producer).1 = result
      at hcounts ⊢
    refine ⟨fun call hcall => by cases hcall; exact hi, ?_, ?_, ?_, ?_, ?_⟩
    · exact (congrArg (· + _) hsentOk).trans hcounts.sentOk.symm
    · exact (congrArg (· + _) hdropped).trans hcounts.dropped.symm
    · intro accepted haccepted
      simp only [List.length_append, List.length_singleton]
      rcases hcounts.mem_accepted haccepted with hmem | ⟨rfl, -⟩
      · exact Nat.lt_succ_of_lt (h.accepted_lt accepted hmem)
      · exact Nat.lt_succ_self _
    · intro call hcall
      simp only [List.length_append, List.length_singleton]
      rcases List.mem_append.mp hcall with hcall | hcall
      · exact Nat.lt_succ_of_lt (h.returned_lt call hcall)
      · rw [List.mem_singleton.mp hcall]
        exact Nat.lt_succ_self _
    · intro call hcall hbuffered haccepted
      rcases List.mem_append.mp hcall with hcall | hcall
      -- an earlier call: the record accepted now has another number
      · rcases hcounts.mem_accepted haccepted with hmem | ⟨hsame, -⟩
        · exact h.unaccepted call hcall hbuffered hmem
        · have hlt := h.returned_lt call hcall
          rw [hsame] at hlt
          exact Nat.lt_irrefl _ hlt
      -- the call itself: its record is buffered, so it was not accepted
      · obtain rfl := List.mem_singleton.mp hcall
        rcases hcounts.mem_accepted haccepted with hmem | ⟨-, hunbuffered⟩
        · exact Nat.lt_irrefl _ (h.accepted_lt _ hmem)
        · exact hunbuffered hbuffered

/-- The callback counts the result of its `send`. -/
theorem count (h : books.Balanced) {i : Nat} {result : KafkaSendResult}
    (hcallback : books.callback = some (i, result)) :
    Balanced { books with
      subscriptions := books.subscriptions.modify i (Subscription.count result)
      callback := none } := by
  have hi : i < books.subscriptions.length := h.callback_lt _ hcallback
  have hsentOk := h.sentOk
  have hdropped := h.dropped
  rw [hcallback, Option.elim_some] at hsentOk hdropped
  refine ⟨nofun, ?_, ?_, h.accepted_lt, h.returned_lt, h.unaccepted⟩
  · rw [Option.elim_none, Nat.add_zero]
    exact (sum_map_modify (f := fun subscription => subscription.counters.sentOk)
      (g := Subscription.count result)
      (fun subscription => subscription.counters.count_sentOk result) hi).trans hsentOk
  · rw [Option.elim_none, Nat.add_zero]
    exact (sum_map_modify (f := fun subscription => subscription.counters.dropped)
      (g := Subscription.count result)
      (fun subscription => subscription.counters.count_dropped result) hi).trans hdropped

/-- A message that cannot be serialized changes neither level, but for an error. -/
theorem countError (h : books.Balanced) {i : Nat} (hi : i < books.subscriptions.length) :
    Balanced { books with
      subscriptions := books.subscriptions.modify i Subscription.countError } := by
  refine ⟨fun call hcall => ?_, ?_, ?_, h.accepted_lt, h.returned_lt, h.unaccepted⟩
  · rw [List.length_modify]
    exact h.callback_lt call hcall
  · refine (congrArg (· + _) ?_).trans h.sentOk
    exact sum_map_modify (f := fun subscription => subscription.counters.sentOk)
      (g := Subscription.countError) (d := 0) (fun _ => rfl) hi
  · refine (congrArg (· + _) ?_).trans h.dropped
    exact sum_map_modify (f := fun subscription => subscription.counters.dropped)
      (g := Subscription.countError) (d := 0) (fun _ => rfl) hi

/-- **Step lemma.** The books stay balanced as long as `poll_loop` takes no record off the
buffer but those refused with an error. -/
theorem step (h : books.Balanced) {event : Event} (hfails : event.FailsBuffered config books)
    (hstep : books.step config json event = some books') : books'.Balanced := by
  cases event with
  | producer input =>
    have hinput : ∀ rdkafka record, input ≠ .send rdkafka record := by
      rintro rdkafka record rfl
      cases hstep
    have hmap : (books.machine.step config input).map (fun machine => { books with machine }) =
        some books' := by
      cases input with
      | send rdkafka record => exact absurd rfl (hinput rdkafka record)
      | _ => exact hstep
    obtain ⟨machine, hmachine, rfl⟩ := Option.map_eq_some_iff.mp hmap
    exact h.producer (machineStep_sameAccounts hinput
      (fun rdkafka hpolls => hfails input rdkafka rfl hpolls) hmachine)
  | receive rdkafka i msg nowNs =>
    simp only [Books.step] at hstep
    split at hstep
    next subscription hidle hsubscription =>
      obtain ⟨hi, -⟩ := List.getElem?_eq_some_iff.mp hsubscription
      cases hstep
      unfold Books.receive
      split
      · split
        next record _ => exact h.send hidle hi record
        · exact h
      · exact h.countError hi
    · cases hstep
  | count =>
    simp only [Books.step] at hstep
    split at hstep
    next i result hcallback =>
      cases hstep
      exact h.count hcallback
    · cases hstep

end Books.Balanced

/-- **The counters agree** in every run whose poll rounds take no record off the buffer but
those librdkafka refuses with an error: between two callbacks the sink and the producer have
counted the same, and no buffered record that has been accepted was counted as an error. -/
theorem counters_agree (runtimes : List SubscriptionRuntime) {books : Books}
    (hruns : Runs (Books.step config json) (fun books event => event.FailsBuffered config books)
      { subscriptions := runtimes.map fun runtime => { runtime } } books) :
    books.Agree ∧ books.Acquitted := by
  have hbalanced : books.Balanced :=
    hruns.invariant (fun _ _ _ h hfails hstep => h.step hfails hstep) (.initial runtimes)
  constructor
  · intro hidle _
    have hsentOk := hbalanced.sentOk
    have hdropped := hbalanced.dropped
    rw [hidle, Option.elim_none, Nat.add_zero] at hsentOk hdropped
    exact ⟨hsentOk, hdropped⟩
  · intro call hcall hbuffered haccepted
    exact absurd haccepted (hbalanced.unaccepted call hcall hbuffered)

/-- A conversion that is never asked. -/
def JsonConversion.unused : JsonConversion where
  serializeMessageToJson _ _ := none
  applyTsEnvelopeToJson _ _ := none

/-- A subscription to `/a` in CDR. -/
def SubscriptionRuntime.sample : SubscriptionRuntime where
  rosTopic := "/a"
  msgType := "T"
  kafkaTopic := "ros2.a"
  messageKeyBytes := []

/-- One subscription receives a message while librdkafka is full, and the first round of
`poll_loop` takes the buffered record off. -/
def bufferThenPoll (rdkafka : RdKafka) : List Event :=
  [.producer .start, .producer (.startSection {}), .receive .full 0 [] 0, .count,
    .producer (.pollEnter rdkafka)]

/-- The record is refused in that round. -/
theorem counters_agree_refused :
    ∃ books, (bufferThenPoll { produce := fun _ _ => .other 1 }).foldlM
        (Books.step .buffering .unused) { subscriptions := [{ runtime := .sample }] } =
      some books ∧ books.callback = none ∧ books.machine.producer.pendingRecords = [] ∧
      books.machine.producer.sendErrors = 1 ∧ books.Agree ∧ books.Acquitted := by
  obtain ⟨books, hbooks, hstate⟩ := Option.map_eq_some_iff.mp (show
    ((bufferThenPoll { produce := fun _ _ => .other 1 }).foldlM (Books.step .buffering .unused)
      { subscriptions := [{ runtime := .sample }] }).map (fun books =>
        (books.callback, books.machine.producer.pendingRecords,
          books.machine.producer.sendErrors)) = some (none, [], 1) by decide +kernel)
  simp only [Prod.mk.injEq] at hstate
  have hfails : ∀ event ∈ bufferThenPoll { produce := fun _ _ => .other 1 }, ∀ books,
      event.FailsBuffered .buffering books := by
    intro event hevent books input rdkafka hinput hpolls _ record _
    simp only [bufferThenPoll, List.mem_cons, List.not_mem_nil, or_false] at hevent
    rcases hevent with rfl | rfl | rfl | rfl | rfl <;> cases hinput <;> cases hpolls
    exact ⟨1, rfl⟩
  exact ⟨books, hbooks, hstate.1, hstate.2.1, hstate.2.2,
    counters_agree [.sample] (.of_foldlM hbooks hfails)⟩

/-- librdkafka accepts it: an error at the sink, and sent at the producer. -/
theorem buffered_record_counted_wrong :
    ¬∀ books, Runs (Books.step .buffering .unused) (fun _ _ => True)
      { subscriptions := [{ runtime := .sample }] } books → books.Agree ∧ books.Acquitted := by
  intro h
  obtain ⟨books, hbooks, hstate⟩ := Option.map_eq_some_iff.mp (show
    ((bufferThenPoll {}).foldlM (Books.step .buffering .unused)
      { subscriptions := [{ runtime := .sample }] }).map (fun books =>
        (books.callback, books.machine.producer.pendingRecords, books.total Counters.sentOk,
          books.machine.producer.sentOk)) = some (none, [], 0, 1) by decide +kernel)
  simp only [Prod.mk.injEq] at hstate
  obtain ⟨hidle, hpending, htotal, hsentOk⟩ := hstate
  have hagree := ((h books (.of_foldlM hbooks fun _ _ _ => trivial)).1 hidle hpending).1
  rw [htotal, hsentOk] at hagree
  cases hagree

end Ros2Dispatcher.KafkaSink
