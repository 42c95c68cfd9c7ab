import Ros2Dispatcher.Metrics.Deltas
import Ros2Dispatcher.Sinks.Reports

/-!
# The counters that the nodes report

What `publish_metrics` of each node loads, and in which order. The round of `kafka_sink` for a
subscription, if nothing else happens meanwhile, is the one of its report
(`KafkaSink.reportEntry_eq_round`).

* `deltas_telescope`: the deltas of all three nodes.
-/

namespace Ros2Dispatcher

open Metrics

/-! ### `kafka_sink` -/

namespace KafkaSink

/-- The counters that `publish_metrics` loads. -/
inductive Counter
  | msgsTotal
  | sentOk
  | dropped
  | errors
  | bytesTotal
  | serializeTimeNsAccum
  | sendTimeNsAccum
deriving DecidableEq, Repr

/-- The entries are the subscriptions of the activation. -/
def metricsKind : Kind Counter where
  loads := [.msgsTotal, .sentOk, .dropped, .errors, .bytesTotal, .serializeTimeNsAccum,
    .sendTimeNsAccum]
  mem_loads counter := by cases counter <;> decide
  mayCreate _ := false

def Reported.get (reported : Reported) : Counter → UInt64
  | .msgsTotal => reported.msgsTotal
  | .sentOk => reported.sentOk
  | .dropped => reported.dropped
  | .errors => reported.errors
  | .bytesTotal => reported.bytesTotal
  | .serializeTimeNsAccum => reported.serializeTimeNsAccum
  | .sendTimeNsAccum => reported.sendTimeNsAccum

theorem Reported.get_since (reported prev : Reported) :
    (reported.since prev).get = fun counter => reported.get counter - prev.get counter := by
  funext counter
  cases counter <;> rfl

/-- A round for a subscription in which nothing else happens computes its report, and keeps the
counters. -/
theorem reportEntry_eq_round {node : Metrics.Node Nat Counter} {i : Nat} {remaining : List Nat}
    {report : List (EntryReport Nat Counter)} {statistics : Statistics}
    (hcall : node.call = some ⟨i :: remaining, none, report⟩)
    (hentry : node.entry i = ⟨statistics.toReported.get, statistics.prev.get⟩)
    (intervalMs : Int32) (runtime : SubscriptionRuntime) :
    metricsKind.round.foldlM (Metrics.Node.step metricsKind) node = some { node with
      entry := Function.update node.entry i
        ⟨statistics.toReported.get, statistics.toReported.get⟩
      call := some ⟨remaining, none, report ++ [⟨i,
        (reportEntry intervalMs runtime statistics).delta.get,
        (reportEntry intervalMs runtime statistics).totals.get⟩]⟩ } := by
  rw [foldlM_round hcall, hentry]
  simp only [reportEntry, Reported.get_since]

end KafkaSink

/-! ### `kafka_source` -/

namespace KafkaSource

/-- The counters that `publish_metrics` loads. -/
inductive Counter
  | received
  | decoded
  | failed
  | bytes
deriving DecidableEq, Repr

/-- A report holds `cache_mutex_`, under which entries are made. -/
def metricsKind : Kind Counter where
  loads := [.received, .decoded, .failed, .bytes]
  mem_loads counter := by cases counter <;> decide
  mayCreate reporting := !reporting

end KafkaSource

/-! ### `kafka_cdr_to_json` -/

namespace KafkaCdrToJson

/-- The counters that `publish_metrics` loads. -/
inductive Counter
  | received
  | converted
  | failed
  | bytes
deriving DecidableEq, Repr

/-- A report holds `cache_mutex_` only until it has copied the entries. -/
def metricsKind : Kind Counter where
  loads := [.received, .converted, .failed, .bytes]
  mem_loads counter := by cases counter <;> decide
  mayCreate _ := true

end KafkaCdrToJson

/-! ### The deltas -/

/-- **Deltas telescope**, for the subscriptions of `kafka_sink`, the topics and types of
`kafka_source`, and the input topics of `kafka_cdr_to_json`. -/
theorem deltas_telescope :
    KafkaSink.metricsKind.Telescopes Nat ∧ KafkaSource.metricsKind.Telescopes String ∧
      KafkaCdrToJson.metricsKind.Telescopes String :=
  ⟨telescopes _, telescopes _, telescopes _⟩

/-- Two reports of `kafka_source`, with an increment between two loads of the first. -/
def interleavedReports : List (Action String KafkaSource.Counter) :=
  [.create "a|T", .fetchAdd "a|T" .received 1, .enter ["a|T"], .next, .load,
    .fetchAdd "a|T" .received 1, .load, .load, .load, .settle, .publish,
    .enter ["a|T"], .next, .load, .load, .load, .load, .settle, .publish]

/-- The first of them reports one record, and the second one the other. -/
theorem deltas_telescope_interleaved :
    ∃ node, interleavedReports.foldlM (Metrics.Node.step KafkaSource.metricsKind) { keys := [] } =
        some node ∧
      ((node.reports "a|T").map fun report => (report.delta .received).toNat) = [1, 1] ∧
      ∀ last, (node.reports "a|T").getLast? = some last → (last.total .received).toNat = 2 := by
  have hrun : (interleavedReports.foldlM (Metrics.Node.step KafkaSource.metricsKind)
      { keys := [] }).map (fun node =>
        (node.reports "a|T").map fun report => (report.delta .received).toNat) =
      some [1, 1] := by decide +kernel
  obtain ⟨node, hnode, hdeltas⟩ := Option.map_eq_some_iff.mp hrun
  refine ⟨node, hnode, hdeltas, fun last hlast => ?_⟩
  have hsum := (deltas_telescope.2.1 [] interleavedReports node hnode "a|T" .received
    (by decide +kernel)).2 last hlast
  rw [← hsum, hdeltas]
  rfl

end Ros2Dispatcher
