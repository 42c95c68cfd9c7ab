import Mathlib.Logic.Function.Basic
import Mathlib.Tactic.Common
import Mathlib.Tactic.FinCases
import Ros2Dispatcher.Library.Runs

/-!
# How often a subscription logs

Each callback of a sink reads the clock when it starts, then loads `next_log_time_ns`, and at
its end compares the two and exchanges the loaded time for one that is a second later than its
own reading; it logs if the exchange succeeds. Any number of callbacks may be in between.

The time that is stored is a 64-bit number of nanoseconds, which has to have room for another
second. A clock of the node never comes near its end: a simulated time has 32 bits for its seconds,
and the kernel does not let the system's time go that far.

* `clockInRange_of_time`: every simulated time is in range.
* `Throttle.Spaced.step`: the next time is a second past every message of the log.
* `logged_pairwise_of_inRange`: messages are a second apart.
* `exists_logged_twice`: why the readings have to be in range.
-/

namespace Ros2Dispatcher.Sinks

variable {ι : Type}

/-- `kThrottleIntervalNs`, one second. -/
def throttleIntervalNs : Int64 := 1000000000

/-- A reading of the clock that a second can be added to. -/
def ClockInRange (nowNs : Int64) : Prop :=
  nowNs.toInt + throttleIntervalNs.toInt ≤ Int64.maxValue.toInt

/-- How far a callback has come, with what it has read by then. -/
inductive CallbackPhase
  | entered
  | clocked (nowNs : Int64)
  | loaded (nowNs nextTimeNs : Int64)
  | returned
deriving DecidableEq, Repr

/-- The `next_log_time_ns` of a subscription, its callbacks, and the clock readings of those
that have logged, in the order in which they did. -/
structure Throttle (ι : Type) where
  nextLogTimeNs : Int64 := 0
  phases : ι → CallbackPhase := fun _ => .entered
  logged : List Int64 := []

/-- What a callback does next: it may also return early. -/
inductive ThrottleStep (ι : Type)
  | readClock (i : ι) (nowNs : Int64)
  | loadNext (i : ι)
  | exchange (i : ι)
  | leave (i : ι)

namespace Throttle

variable [DecidableEq ι] {throttle throttle' : Throttle ι}

def moveTo (throttle : Throttle ι) (i : ι) (phase : CallbackPhase) : Throttle ι :=
  { throttle with phases := Function.update throttle.phases i phase }

/-- `now_ns >= next_time_ns && next_log_time_ns.compare_exchange_strong(..)`, and the message
to the log. -/
def exchange (throttle : Throttle ι) (nowNs nextTimeNs : Int64) : Throttle ι :=
  if nowNs ≥ nextTimeNs ∧ throttle.nextLogTimeNs = nextTimeNs then
    { throttle with
      nextLogTimeNs := nowNs + throttleIntervalNs
      logged := throttle.logged ++ [nowNs] }
  else throttle

def step (throttle : Throttle ι) : ThrottleStep ι → Option (Throttle ι)
  | .readClock i nowNs =>
    match throttle.phases i with
    | .entered => some (throttle.moveTo i (.clocked nowNs))
    | _ => none
  | .loadNext i =>
    match throttle.phases i with
    | .clocked nowNs => some (throttle.moveTo i (.loaded nowNs throttle.nextLogTimeNs))
    | _ => none
  | .exchange i =>
    match throttle.phases i with
    | .loaded nowNs nextTimeNs => some ((throttle.exchange nowNs nextTimeNs).moveTo i .returned)
    | _ => none
  | .leave i => some (throttle.moveTo i .returned)

@[simp] theorem phases_moveTo (i : ι) (phase : CallbackPhase) (j : ι) :
    (throttle.moveTo i phase).phases j = if j = i then phase else throttle.phases j :=
  Function.update_apply throttle.phases i phase j

@[simp] theorem nextLogTimeNs_moveTo (i : ι) (phase : CallbackPhase) :
    (throttle.moveTo i phase).nextLogTimeNs = throttle.nextLogTimeNs :=
  rfl

@[simp] theorem moveTo_moveTo (i : ι) (phase phase' : CallbackPhase) :
    (throttle.moveTo i phase).moveTo i phase' = throttle.moveTo i phase' := by
  simp only [moveTo, Function.update_idem]

theorem exchange_moveTo (i : ι) (phase : CallbackPhase) (nowNs nextTimeNs : Int64) :
    (throttle.moveTo i phase).exchange nowNs nextTimeNs =
      (throttle.exchange nowNs nextTimeNs).moveTo i phase := by
  by_cases h : nowNs ≥ nextTimeNs ∧ throttle.nextLogTimeNs = nextTimeNs
  · rw [exchange, exchange, nextLogTimeNs_moveTo, if_pos h, if_pos h]
    rfl
  · rw [exchange, exchange, nextLogTimeNs_moveTo, if_neg h, if_neg h]

end Throttle

/-! ### Readings in range -/

/-- The reading a callback has made is in range. -/
def CallbackPhase.InRange : CallbackPhase → Prop
  | .clocked nowNs => ClockInRange nowNs
  | .loaded nowNs _ => ClockInRange nowNs
  | _ => True

/-- The step reads no clock that is out of range. -/
def ThrottleStep.InRange : ThrottleStep ι → Prop
  | .readClock _ nowNs => ClockInRange nowNs
  | _ => True

theorem toInt_throttleIntervalNs : throttleIntervalNs.toInt = 1000000000 :=
  rfl

theorem clockInRange_iff {nowNs : Int64} :
    ClockInRange nowNs ↔ nowNs.toInt ≤ 9223372035854775807 := by
  have hmax : Int64.maxValue.toInt = 9223372036854775807 := rfl
  rw [ClockInRange, toInt_throttleIntervalNs, hmax]
  omega

/-- Every time of `/clock` is in range. -/
theorem clockInRange_of_time (sec : Int32) (nanosec : UInt32) :
    ClockInRange (Int64.ofInt (sec.toInt * 1000000000 + nanosec.toNat)) := by
  have hsec := sec.le_toInt
  have hsec' := sec.toInt_lt
  have hnanosec := nanosec.toNat_lt
  rw [clockInRange_iff, Int64.toInt_ofInt_of_le (by omega) (by omega)]
  omega

/-- A second after a reading in range. -/
theorem toInt_add_throttleIntervalNs {nowNs : Int64} (h : ClockInRange nowNs) :
    (nowNs + throttleIntervalNs).toInt = nowNs.toInt + 1000000000 := by
  have hle := nowNs.le_toInt
  rw [clockInRange_iff] at h
  rw [Int64.toInt_add, toInt_throttleIntervalNs]
  exact Int.bmod_eq_of_le (by omega) (by omega)

/-- A second after a reading out of range. -/
theorem add_throttleIntervalNs_lt {nowNs : Int64} (h : ¬ClockInRange nowNs) :
    nowNs + throttleIntervalNs < nowNs := by
  have hlt := nowNs.toInt_lt
  rw [clockInRange_iff] at h
  rw [Int64.lt_iff_toInt_lt, Int64.toInt_add, toInt_throttleIntervalNs, Int.bmod_def]
  omega

namespace Throttle

variable [DecidableEq ι] {throttle throttle' : Throttle ι}

/-- The messages of the log are a second apart, and the next one is to be a second after each
of them; no callback goes by a reading out of range. -/
structure Spaced (throttle : Throttle ι) : Prop where
  logged : throttle.logged.Pairwise fun earlier later =>
    earlier.toInt + 1000000000 ≤ later.toInt
  next : ∀ nowNs ∈ throttle.logged,
    nowNs.toInt + 1000000000 ≤ throttle.nextLogTimeNs.toInt
  phases : ∀ i, (throttle.phases i).InRange

theorem Spaced.moveTo (h : throttle.Spaced) (i : ι) {phase : CallbackPhase}
    (hphase : phase.InRange) : (throttle.moveTo i phase).Spaced where
  logged := h.logged
  next := h.next
  phases j := by
    rw [phases_moveTo]
    split
    · exact hphase
    · exact h.phases j

omit [DecidableEq ι] in
/-- What was loaded is still the next time when the exchange succeeds, whatever happened in
between. -/
theorem Spaced.exchange (h : throttle.Spaced) {nowNs : Int64} (hnow : ClockInRange nowNs)
    (nextTimeNs : Int64) : (throttle.exchange nowNs nextTimeNs).Spaced := by
  rw [Throttle.exchange]
  split
  next hsucceeds =>
    obtain ⟨hge, rfl⟩ := hsucceeds
    have hge : throttle.nextLogTimeNs.toInt ≤ nowNs.toInt := Int64.le_iff_toInt_le.mp hge
    -- the loaded time is the stored one, so it bounds all that has been logged
    have hspaced : ∀ earlier ∈ throttle.logged,
        earlier.toInt + 1000000000 ≤ nowNs.toInt :=
      fun earlier hearlier => Int.le_trans (h.next earlier hearlier) hge
    refine ⟨?_, ?_, h.phases⟩
    · refine List.pairwise_append.mpr ⟨h.logged, List.pairwise_singleton _ _, ?_⟩
      intro earlier hearlier later hlater
      rw [List.mem_singleton.mp hlater]
      exact hspaced earlier hearlier
    -- in range the new time does not wrap
    · intro reading hreading
      rw [toInt_add_throttleIntervalNs hnow]
      rcases List.mem_append.mp hreading with hreading | hreading
      · have := hspaced reading hreading
        omega
      · exact Int.le_of_eq (by rw [List.mem_singleton.mp hreading])
  next => exact h

/-- **Throttle step.** -/
theorem Spaced.step (h : throttle.Spaced) {input : ThrottleStep ι} (hinput : input.InRange)
    (hstep : throttle.step input = some throttle') : throttle'.Spaced := by
  cases input with
  | readClock i nowNs =>
    simp only [Throttle.step] at hstep
    split at hstep
    next =>
      cases hstep
      exact h.moveTo i hinput
    next => cases hstep
  | loadNext i =>
    have hphase := h.phases i
    simp only [Throttle.step] at hstep
    split at hstep
    next nowNs hclocked =>
      cases hstep
      rw [hclocked] at hphase
      exact h.moveTo i hphase
    next => cases hstep
  | exchange i =>
    have hphase := h.phases i
    simp only [Throttle.step] at hstep
    split at hstep
    next nowNs nextTimeNs hloaded =>
      cases hstep
      rw [hloaded] at hphase
      exact (h.exchange hphase nextTimeNs).moveTo i trivial
    next => cases hstep
  | leave i =>
    cases hstep
    exact h.moveTo i trivial

omit [DecidableEq ι] in
theorem spaced_initial : ({} : Throttle ι).Spaced where
  logged := List.Pairwise.nil
  next := nofun
  phases _ := trivial

end Throttle

/-! ### The messages of the log -/

section Logs

variable [DecidableEq ι]

/-- **The throttle holds.** In every interleaving of callbacks, each message is at least a second
later than those before it, by the readings of their callbacks. -/
theorem logged_pairwise_of_inRange {throttle : Throttle ι}
    (h : Runs Throttle.step (fun _ input => input.InRange) {} throttle) :
    throttle.logged.Pairwise fun earlier later => earlier.toInt + 1000000000 ≤ later.toInt :=
  (h.invariant (fun _ _ _ hspaced hinput hstep => hspaced.step hinput hstep)
    Throttle.spaced_initial).logged

/-- Two callbacks load the same time; the one with the later reading logs, and the other one
does not. The next message is a second later. -/
theorem logged_pairwise_interleaved :
    ∃ throttle : Throttle ℕ,
      throttle.logged = [10500000000, 11500000000] ∧
      throttle.logged.Pairwise fun earlier later =>
        earlier.toInt + 1000000000 ≤ later.toInt := by
  have hruns : ∃ throttle : Throttle ℕ, [ThrottleStep.readClock 0 10000000000,
      .readClock 1 10500000000, .loadNext 0, .loadNext 1, .exchange 1, .exchange 0,
      .readClock 2 11200000000, .loadNext 2, .leave 3, .readClock 4 11500000000, .exchange 2,
      .loadNext 4, .exchange 4].foldlM Throttle.step {} = some throttle ∧
      throttle.logged = [10500000000, 11500000000] :=
    ⟨_, rfl, by decide⟩
  obtain ⟨throttle, hruns, hlogged⟩ := hruns
  refine ⟨throttle, hlogged, logged_pairwise_of_inRange (Runs.of_foldlM hruns ?_)⟩
  intro input hinput _
  fin_cases hinput <;> simp only [ThrottleStep.InRange, ClockInRange] <;> decide

end Logs

/-! ### Readings out of range -/

section OutOfRange

variable [DecidableEq ι]

/-- If the step reads the clock, that is what it reads. -/
def ThrottleStep.Reads (nowNs : Int64) : ThrottleStep ι → Prop
  | .readClock _ reading => reading = nowNs
  | _ => True

/-- A callback that nothing interrupts logs if it is late enough. -/
theorem Throttle.runs_callback {throttle : Throttle ι} {i : ι} {nowNs : Int64}
    (h : throttle.phases i = .entered) (hge : nowNs ≥ throttle.nextLogTimeNs) :
    ∃ throttle', Runs Throttle.step (fun _ input => input.Reads nowNs) throttle throttle' ∧
      throttle'.nextLogTimeNs = nowNs + throttleIntervalNs ∧
      throttle'.logged = throttle.logged ++ [nowNs] ∧
      ∀ j ≠ i, throttle'.phases j = throttle.phases j := by
  have hclocked : throttle.step (.readClock i nowNs) =
      some (throttle.moveTo i (.clocked nowNs)) := by
    simp only [Throttle.step, h]
  have hloaded : (throttle.moveTo i (.clocked nowNs)).step (.loadNext i) =
      some (throttle.moveTo i (.loaded nowNs throttle.nextLogTimeNs)) := by
    simp [Throttle.step]
  have hreturned : (throttle.moveTo i (.loaded nowNs throttle.nextLogTimeNs)).step
      (.exchange i) =
        some ((throttle.exchange nowNs throttle.nextLogTimeNs).moveTo i .returned) := by
    simp [Throttle.step, Throttle.exchange_moveTo]
  have hruns : Runs Throttle.step (fun _ input => input.Reads nowNs) throttle
      ((throttle.exchange nowNs throttle.nextLogTimeNs).moveTo i .returned) :=
    Runs.tail (Runs.tail (Runs.single (by exact rfl) hclocked) (by exact trivial) hloaded)
      (by exact trivial) hreturned
  rw [Throttle.exchange, if_pos ⟨hge, rfl⟩] at hruns
  refine ⟨_, hruns, rfl, rfl, fun j hj => ?_⟩
  rw [Throttle.phases_moveTo, if_neg hj]

/-- A reading out of range, which no clock of the node has, could be logged twice: the time after
it is before it. -/
theorem exists_logged_twice {i j : ι} (hij : i ≠ j) {nowNs : Int64} (h : ¬ClockInRange nowNs) :
    ∃ throttle, Runs Throttle.step (fun _ input => input.Reads nowNs) ({} : Throttle ι) throttle ∧
      throttle.logged = [nowNs, nowNs] := by
  have hnonneg : nowNs ≥ 0 := by
    have hzero : (0 : Int64).toInt = 0 := rfl
    rw [clockInRange_iff] at h
    rw [ge_iff_le, Int64.le_iff_toInt_le]
    omega
  -- the first callback stores a time below zero, and the second one is not before that
  obtain ⟨first, hfirst, hnext, hlogged, hphases⟩ :
      ∃ first, Runs Throttle.step (fun _ input => input.Reads nowNs) ({} : Throttle ι) first ∧
        first.nextLogTimeNs = nowNs + throttleIntervalNs ∧ first.logged = [nowNs] ∧
        ∀ j ≠ i, first.phases j = .entered :=
    Throttle.runs_callback rfl hnonneg
  have hge : nowNs ≥ first.nextLogTimeNs := by
    rw [hnext]
    exact Int64.le_of_lt (add_throttleIntervalNs_lt h)
  obtain ⟨second, hsecond, -, hlogged', -⟩ :=
    Throttle.runs_callback (hphases j hij.symm) hge
  exact ⟨second, hfirst.trans hsecond, by rw [hlogged', hlogged]; rfl⟩

end OutOfRange

end Ros2Dispatcher.Sinks
