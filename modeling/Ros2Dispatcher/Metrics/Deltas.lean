import Mathlib.Algebra.GroupWithZero.Nat
import Mathlib.Algebra.Order.BigOperators.Group.List
import Mathlib.Algebra.Order.Group.Nat
import Mathlib.Logic.Function.Basic
import Mathlib.Tactic.Common

/-!
# The deltas of the metrics reports

`publish_metrics` of three nodes loads the counters of an entry one after the other, reports their
change since the last report, and keeps what it has loaded for the next one. Meanwhile the
callbacks and the consumer threads go on counting. The nodes differ in their counters, and in when
there can be a new entry: `kafka_sink` has its entries from its activation on, `kafka_source` makes
them under the lock that a report holds, and `kafka_cdr_to_json` reports the entries it has found
under that lock.

What is loaded of a counter is what was added to it so far (`Tracks`). So the deltas of a counter
are what was added in consecutive stretches of the run (`Covers`).

* `Tracks.step`, `Tracks.run`: the counters, the last report and the round of the loop.
* `telescopes`: no delta underflows, nothing is reported twice and nothing left out.
* `foldlM_round`: a round in which nothing else happens.
-/

namespace Ros2Dispatcher.Metrics

/-! ### Entries and reports -/

/-- What the reports of a node do in their own way: the counters in the order they are loaded, and
whether there can be a new entry, by whether a report is being made. -/
structure Kind (C : Type) where
  loads : List C
  mem_loads : ∀ counter, counter ∈ loads
  mayCreate : Bool → Bool

/-- An entry: its counters, and what was loaded of them for the last report. -/
structure Entry (C : Type) where
  counters : C → UInt64 := fun _ => 0
  prev : C → UInt64 := fun _ => 0

/-- What a report says about an entry. -/
structure EntryReport (K C : Type) where
  key : K
  delta : C → UInt64
  total : C → UInt64

/-- A round of the loop: the counters still to be loaded, and what was loaded of the others. -/
structure Round (K C : Type) where
  key : K
  pending : List C
  values : C → UInt64

/-- A call of `publish_metrics`: the entries to come, the round it is in, and the report so far. -/
structure Call (K C : Type) where
  remaining : List K
  round : Option (Round K C) := none
  report : List (EntryReport K C) := []

structure Node (K C : Type) where
  keys : List K
  entry : K → Entry C := fun _ => {}
  call : Option (Call K C) := none
  published : List (List (EntryReport K C)) := []

/-- What can happen: a new entry, an increment, and the steps of `publish_metrics`. -/
inductive Action (K C : Type)
  | create (key : K)
  | fetchAdd (key : K) (counter : C) (amount : UInt64)
  | enter (keys : List K)
  | next
  | load
  | settle
  | publish

section Steps

variable {K C : Type} [DecidableEq K] [DecidableEq C]

/-- One step. Only the report reads and writes the values of the last one, so that computing the
deltas and keeping the new values is one step. An exception out of `publish_metrics` ends the
process, and with it the run. -/
def Node.step (kind : Kind C) (node : Node K C) : Action K C → Option (Node K C)
  | .create key =>
    if kind.mayCreate node.call.isSome ∧ key ∉ node.keys then
      some { node with keys := node.keys ++ [key] }
    else none
  | .fetchAdd key counter amount =>
    if key ∈ node.keys then
      let entry := node.entry key
      let counters := Function.update entry.counters counter (entry.counters counter + amount)
      some { node with entry := Function.update node.entry key { entry with counters } }
    else none
  | .enter keys =>
    match node.call with
    | none => if keys.Perm node.keys then some { node with call := some { remaining := keys } }
      else none
    | some _ => none
  | .next =>
    match node.call with
    | some ⟨key :: remaining, none, report⟩ =>
      some { node with call := some ⟨remaining, some ⟨key, kind.loads, fun _ => 0⟩, report⟩ }
    | _ => none
  | .load =>
    match node.call with
    | some ⟨remaining, some ⟨key, counter :: pending, values⟩, report⟩ =>
      let values := Function.update values counter ((node.entry key).counters counter)
      some { node with call := some ⟨remaining, some ⟨key, pending, values⟩, report⟩ }
    | _ => none
  | .settle =>
    match node.call with
    | some ⟨remaining, some ⟨key, [], values⟩, report⟩ =>
      let entry := node.entry key
      let entryReport := ⟨key, fun counter => values counter - entry.prev counter, values⟩
      some { node with
        entry := Function.update node.entry key { entry with prev := values }
        call := some ⟨remaining, none, report ++ [entryReport]⟩ }
    | _ => none
  | .publish =>
    match node.call with
    | some ⟨[], none, report⟩ =>
      some { node with call := none, published := node.published ++ [report] }
    | _ => none

/-- What an action adds to a counter. -/
def Action.amount (key : K) (counter : C) : Action K C → Nat
  | fetchAdd key' counter' amount =>
    if key' = key ∧ counter' = counter then amount.toNat else 0
  | _ => 0

/-- What was added to a counter. -/
def increments (key : K) (counter : C) (actions : List (Action K C)) : Nat :=
  (actions.map (Action.amount key counter)).sum

/-- What the published reports say about an entry. -/
def Node.reports (node : Node K C) (key : K) : List (EntryReport K C) :=
  node.published.flatten.filter (·.key = key)

/-- What was computed for an entry, published or not yet. -/
def Node.computed (node : Node K C) (key : K) : List (EntryReport K C) :=
  (node.published.flatten ++ (node.call.elim [] Call.report)).filter (·.key = key)

/-- The round that `publish_metrics` is in. -/
def Node.round? (node : Node K C) : Option (Round K C) :=
  node.call.bind Call.round

/-! ### What the reports account for -/

/-- The reports of an entry account for some actions: each for a stretch of its own, with a delta
of what was added in it, and a total of all that was added up to its end. -/
inductive Covers (key : K) (counter : C) : List (EntryReport K C) → List (Action K C) → Prop
  | nil : Covers key counter [] []
  | report {reports actions report stretch} (covers : Covers key counter reports actions)
    (delta : (report.delta counter).toNat = increments key counter stretch)
    (total : (report.total counter).toNat = increments key counter (actions ++ stretch)) :
    Covers key counter (reports ++ [report]) (actions ++ stretch)

variable {kind : Kind C} {node node' : Node K C} {key : K} {counter : C}
  {action : Action K C} {actions done : List (Action K C)} {reports : List (EntryReport K C)}

theorem increments_append (actions actions' : List (Action K C)) :
    increments key counter (actions ++ actions') =
      increments key counter actions + increments key counter actions' := by
  rw [increments, List.map_append, List.sum_append, ← increments, ← increments]

namespace Covers

/-- The deltas add up to what was added. -/
theorem sum_delta (h : Covers key counter reports actions) :
    (reports.map fun report => (report.delta counter).toNat).sum =
      increments key counter actions := by
  induction h with
  | nil => rfl
  | report _ hdelta _ ih =>
    rw [List.map_append, List.sum_append, ih, List.map_singleton, List.sum_singleton, hdelta,
      increments_append]

/-- The last total is what was added. -/
theorem total_getLast (h : Covers key counter reports actions) {last : EntryReport K C}
    (hlast : reports.getLast? = some last) :
    (last.total counter).toNat = increments key counter actions := by
  cases h with
  | nil => cases hlast
  | report _ _ htotal =>
    rw [List.getLast?_append, List.getLast?_singleton, Option.some_or] at hlast
    cases hlast
    exact htotal

/-- The first of the reports account for the first of the actions. -/
theorem of_prefix (h : Covers key counter reports actions) {first : List (EntryReport K C)}
    (hfirst : first <+: reports) :
    ∃ counted, counted <+: actions ∧ Covers key counter first counted := by
  induction h with
  | nil => exact ⟨[], List.nil_prefix, List.prefix_nil.mp hfirst ▸ .nil⟩
  | @report reports actions report stretch covers hdelta htotal ih =>
    obtain rfl | hbefore := List.prefix_concat_iff.mp hfirst
    · exact ⟨actions ++ stretch, List.prefix_rfl, .report covers hdelta htotal⟩
    · obtain ⟨counted, hcounted, hcovers⟩ := ih hbefore
      exact ⟨counted, hcounted.trans (List.prefix_append _ _), hcovers⟩

end Covers

/-! ### Runs -/

/-- After some actions a counter is what was added to it, the reports of its entry account for the
first of them, up to what was kept of the last report, and what the current round has loaded is
what was added later on. -/
structure Tracks (key : K) (counter : C) (node : Node K C) (done : List (Action K C)) : Prop where
  counters : ((node.entry key).counters counter).toNat = increments key counter done
  covered : ∃ counted, counted <+: done ∧ Covers key counter (node.computed key) counted ∧
    ((node.entry key).prev counter).toNat = increments key counter counted ∧
    ∀ round, node.round? = some round → round.key = key → counter ∉ round.pending →
      ∃ read, counted <+: read ∧ read <+: done ∧
        (round.values counter).toNat = increments key counter read

theorem increments_concat (actions : List (Action K C)) (action : Action K C) :
    increments key counter (actions ++ [action]) =
      increments key counter actions + action.amount key counter := by
  rw [increments_append]
  exact congrArg _ List.sum_singleton

theorem increments_le {first : List (Action K C)} (h : first <+: done) :
    increments key counter first ≤ increments key counter done := by
  obtain ⟨later, rfl⟩ := h
  rw [increments_append]
  exact Nat.le_add_right _ _

namespace Tracks

/-- A step that leaves the reports and the round. -/
theorem keep (h : Tracks key counter node done)
    (hcounters : ((node'.entry key).counters counter).toNat =
      ((node.entry key).counters counter).toNat + action.amount key counter)
    (hprev : (node'.entry key).prev = (node.entry key).prev)
    (hcomputed : node'.computed key = node.computed key)
    (hround : ∀ round, node'.round? = some round → round.key = key → counter ∉ round.pending →
      node.round? = some round) : Tracks key counter node' (done ++ [action]) := by
  obtain ⟨counted, hcounted, hcovers, hkept, hvalues⟩ := h.covered
  have hdone : done <+: done ++ [action] := List.prefix_append _ _
  refine ⟨?_, counted, hcounted.trans hdone, hcomputed ▸ hcovers, ?_, ?_⟩
  · rw [hcounters, h.counters, increments_concat]
  · rw [hprev, hkept]
  · intro round hsome hkey hloaded
    obtain ⟨read, hread, hlater, hvalue⟩ :=
      hvalues round (hround round hsome hkey hloaded) hkey hloaded
    exact ⟨read, hread, hlater.trans hdone, hvalue⟩

/-- An increment. -/
theorem fetchAdd {key' : K} {counter' : C} {amount : UInt64} (h : Tracks key counter node done)
    (hstep : node.step kind (.fetchAdd key' counter' amount) = some node')
    (hbound : increments key counter (done ++ [.fetchAdd key' counter' amount]) < 2 ^ 64) :
    Tracks key counter node' (done ++ [.fetchAdd key' counter' amount]) := by
  obtain ⟨-, hstep⟩ := Option.ite_none_right_eq_some.mp hstep
  cases hstep
  rw [increments_concat, ← h.counters] at hbound
  refine h.keep ?_ ?_ rfl fun round hsome _ _ => hsome
  · by_cases hkey : key' = key
    · subst hkey
      by_cases hcounter : counter' = counter
      · subst hcounter
        simp only [Action.amount, and_self, if_true] at hbound ⊢
        simp only [Function.update_self]
        rw [UInt64.toNat_add, Nat.mod_eq_of_lt hbound]
      · simp [Action.amount, hcounter, Function.update_of_ne (Ne.symm hcounter)]
    · simp [Action.amount, hkey, Function.update_of_ne (Ne.symm hkey)]
  · by_cases hkey : key' = key
    · subst hkey
      simp only [Function.update_self]
    · simp only [Function.update_of_ne (Ne.symm hkey)]

/-- The next counter of the round is loaded. -/
theorem load (h : Tracks key counter node done) (hstep : node.step kind .load = some node') :
    Tracks key counter node' (done ++ [.load]) := by
  simp only [Node.step] at hstep
  split at hstep
  next remaining key' counter' pending values report hcall =>
    cases hstep
    obtain ⟨counted, hcounted, hcovers, hkept, hvalues⟩ := h.covered
    have hdone : done <+: done ++ [.load] := List.prefix_append _ _
    have hcomputed : Node.computed { node with call := some ⟨remaining, some ⟨key', pending,
        Function.update values counter' ((node.entry key').counters counter')⟩, report⟩ } key =
        node.computed key := by
      rw [Node.computed, Node.computed, hcall]
      rfl
    -- a load reports nothing yet, and what it reads is all that was added so far
    refine ⟨?_, counted, hcounted.trans hdone, hcomputed ▸ hcovers, hkept, ?_⟩
    · rw [increments_concat]
      exact h.counters
    · intro round hsome hkey hloaded
      obtain rfl := Option.some.inj hsome
      dsimp only at hkey hloaded ⊢
      subst hkey
      by_cases hcounter : counter = counter'
      · subst hcounter
        rw [Function.update_self]
        exact ⟨done, hcounted, hdone, h.counters⟩
      · rw [Function.update_of_ne hcounter]
        have hround : node.round? = some ⟨key', counter' :: pending, values⟩ := by
          rw [Node.round?, hcall]
          rfl
        obtain ⟨read, hread, hlater, hvalue⟩ := hvalues _ hround rfl
          fun hmem => (List.mem_cons.mp hmem).elim hcounter hloaded
        exact ⟨read, hread, hlater.trans hdone, hvalue⟩
  · cases hstep

/-- The deltas of the round are computed. -/
theorem settle (h : Tracks key counter node done) (hstep : node.step kind .settle = some node') :
    Tracks key counter node' (done ++ [.settle]) := by
  simp only [Node.step] at hstep
  split at hstep
  next remaining key' values report hcall =>
    cases hstep
    have hdone : done <+: done ++ [.settle] := List.prefix_append _ _
    by_cases hkey : key' = key
    · subst hkey
      obtain ⟨counted, hcounted, hcovers, hkept, hvalues⟩ := h.covered
      have hround : node.round? = some ⟨key', [], values⟩ := by
        rw [Node.round?, hcall]
        rfl
      -- the new report covers what was added between the two loads
      obtain ⟨read, ⟨stretch, rfl⟩, hread, hvalue⟩ :=
        hvalues _ hround rfl (List.not_mem_nil (a := counter))
      dsimp only at hvalue
      refine ⟨?_, counted ++ stretch, hread.trans hdone, ?_, ?_, ?_⟩
      · simp only [Function.update_self]
        rw [increments_concat]
        exact h.counters
      · have hle : ((node.entry key').prev counter).toNat ≤ (values counter).toNat := by
          rw [hkept, hvalue]
          exact increments_le (List.prefix_append _ _)
        have hdelta : (values counter - (node.entry key').prev counter).toNat =
            increments key' counter stretch := by
          rw [UInt64.toNat_sub_of_le _ _ (UInt64.le_iff_toNat_le.mpr hle), hkept, hvalue,
            increments_append, Nat.add_sub_cancel_left]
        have hreports : Covers key' counter (node.computed key' ++ [⟨key', fun counter =>
            values counter - (node.entry key').prev counter, values⟩]) (counted ++ stretch) :=
          .report hcovers hdelta hvalue
        simpa [Node.computed, hcall] using hreports
      · simp only [Function.update_self]
        exact hvalue
      · intro round hsome
        cases hsome
    -- another entry: neither its counters nor its reports change
    · refine h.keep ?_ ?_ ?_ ?_
      · simp [Function.update_of_ne (Ne.symm hkey), Action.amount]
      · simp only [Function.update_of_ne (Ne.symm hkey)]
      · simp [Node.computed, hcall, hkey]
      · intro round hsome
        cases hsome
  · cases hstep

/-- **Step lemma.** -/
protected theorem step (h : Tracks key counter node done)
    (hstep : node.step kind action = some node')
    (hbound : increments key counter (done ++ [action]) < 2 ^ 64) :
    Tracks key counter node' (done ++ [action]) := by
  cases action with
  | fetchAdd key' counter' amount => exact h.fetchAdd hstep hbound
  | load => exact h.load hstep
  | settle => exact h.settle hstep
  | create key' =>
    obtain ⟨-, hstep⟩ := Option.ite_none_right_eq_some.mp hstep
    cases hstep
    exact h.keep rfl rfl rfl fun round hsome _ _ => hsome
  | enter keys =>
    simp only [Node.step] at hstep
    split at hstep
    next hcall =>
      obtain ⟨-, hstep⟩ := Option.ite_none_right_eq_some.mp hstep
      cases hstep
      refine h.keep rfl rfl ?_ fun round hsome => ?_
      · simp [Node.computed, hcall]
      · cases hsome
    · cases hstep
  | next =>
    simp only [Node.step] at hstep
    split at hstep
    next key' remaining report hcall =>
      cases hstep
      refine h.keep rfl rfl ?_ fun round hsome _ hloaded => ?_
      · simp [Node.computed, hcall]
      -- nothing is loaded yet
      · cases hsome
        exact absurd (kind.mem_loads counter) hloaded
    · cases hstep
  | publish =>
    simp only [Node.step] at hstep
    split at hstep
    next report hcall =>
      cases hstep
      refine h.keep rfl rfl ?_ fun round hsome => ?_
      · simp [Node.computed, hcall]
      · cases hsome
    · cases hstep

/-- **Run lemma.** -/
protected theorem run (h : Tracks key counter node done)
    (hrun : actions.foldlM (Node.step kind) node = some node')
    (hbound : increments key counter (done ++ actions) < 2 ^ 64) :
    Tracks key counter node' (done ++ actions) := by
  induction actions generalizing node done with
  | nil =>
    cases hrun
    rwa [List.append_nil]
  | cons action actions ih =>
    rw [List.foldlM_cons] at hrun
    obtain ⟨next, hstep, hrun⟩ := Option.bind_eq_some_iff.mp hrun
    rw [List.append_cons] at hbound ⊢
    have hnext := h.step hstep (lt_of_le_of_lt (increments_le (List.prefix_append _ _)) hbound)
    exact ih hnext hrun hbound

/-- Before anything was counted. -/
protected theorem init (keys : List K) : Tracks key counter { keys } [] :=
  ⟨rfl, [], List.prefix_rfl, .nil, rfl, fun round hsome => by cases hsome⟩

end Tracks

/-- The deltas of the reports telescope in any run from some entries on, as long as the counters do
not overflow: what was computed for an entry accounts for consecutive stretches of the run, and the
deltas that were published add up to the latest total. -/
def Kind.Telescopes (kind : Kind C) (K : Type) [DecidableEq K] : Prop :=
  ∀ (keys : List K) actions node, actions.foldlM (Node.step kind) { keys } = some node →
    ∀ key counter, increments key counter actions < 2 ^ 64 →
      (∃ counted, counted <+: actions ∧ Covers key counter (node.computed key) counted) ∧
      ∀ last, (node.reports key).getLast? = some last →
        ((node.reports key).map fun report => (report.delta counter).toNat).sum =
          (last.total counter).toNat

theorem telescopes (kind : Kind C) : kind.Telescopes K := by
  intro keys actions node hrun key counter hbound
  have htracks : Tracks key counter node ([] ++ actions) := (Tracks.init keys).run hrun hbound
  obtain ⟨counted, hcounted, hcovers, -, -⟩ := htracks.covered
  refine ⟨⟨counted, hcounted, hcovers⟩, fun last hlast => ?_⟩
  have hpublished : node.reports key <+: node.computed key := by
    rw [Node.reports, Node.computed, List.filter_append]
    exact List.prefix_append _ _
  obtain ⟨first, -, hfirst⟩ := hcovers.of_prefix hpublished
  rw [hfirst.sum_delta, hfirst.total_getLast hlast]

/-! ### Rounds without interruption -/

section Uninterrupted

variable {remaining : List K} {report : List (EntryReport K C)}

theorem foldlM_load {pending : List C} {values : C → UInt64}
    (hcall : node.call = some ⟨remaining, some ⟨key, pending, values⟩, report⟩) :
    (List.replicate pending.length .load).foldlM (Node.step kind) node =
      some { node with call := some ⟨remaining, some ⟨key, [], fun counter =>
        if counter ∈ pending then (node.entry key).counters counter else values counter⟩,
        report⟩ } := by
  induction pending generalizing node values with
  | nil =>
    obtain ⟨keys, entry, call, published⟩ := node
    cases hcall
    rfl
  | cons counter pending ih =>
    have hstep : node.step kind .load = some { node with
        call := some ⟨remaining, some ⟨key, pending,
          Function.update values counter ((node.entry key).counters counter)⟩, report⟩ } := by
      simp only [Node.step, hcall]
    rw [List.length_cons, List.replicate_succ, List.foldlM_cons, hstep]
    refine (ih rfl).trans ?_
    have hvalues : (fun counter' => if counter' ∈ pending then (node.entry key).counters counter'
        else Function.update values counter ((node.entry key).counters counter) counter') =
        fun counter' => if counter' ∈ counter :: pending then (node.entry key).counters counter'
          else values counter' := by
      funext counter'
      by_cases hcounter : counter' = counter
      · subst hcounter
        simp
      · simp [hcounter]
    dsimp only
    rw [hvalues]

/-- The steps of one round. -/
def Kind.round (kind : Kind C) : List (Action K C) :=
  .next :: List.replicate kind.loads.length .load ++ [.settle]

/-- A round in which nothing else happens reports the counters as they are. -/
theorem foldlM_round (hcall : node.call = some ⟨key :: remaining, none, report⟩) :
    kind.round.foldlM (Node.step kind) node = some { node with
      entry := Function.update node.entry key
        ⟨(node.entry key).counters, (node.entry key).counters⟩
      call := some ⟨remaining, none, report ++ [⟨key, fun counter =>
        (node.entry key).counters counter - (node.entry key).prev counter,
        (node.entry key).counters⟩]⟩ } := by
  have hnext : node.step kind .next = some { node with
      call := some ⟨remaining, some ⟨key, kind.loads, fun _ => 0⟩, report⟩ } := by
    simp only [Node.step, hcall]
  have hloads : (fun counter => if counter ∈ kind.loads then (node.entry key).counters counter
      else 0) = (node.entry key).counters :=
    funext fun counter => if_pos (kind.mem_loads counter)
  rw [Kind.round, List.cons_append, List.foldlM_cons, hnext, Option.bind_eq_bind,
    Option.bind_some, List.foldlM_append, foldlM_load rfl]
  simp only [hloads]
  rfl

end Uninterrupted

end Steps

end Ros2Dispatcher.Metrics
