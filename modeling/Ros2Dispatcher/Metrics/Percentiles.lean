import Ros2Dispatcher.Library.Ranks

/-!
# The percentiles of the metrics reports

Four nodes report percentiles of their latency samples, each with its own copy of the function.
The sinks round the index down, the consumers up after they clamped the share. The index is
computed with rational numbers.

* `percentile_covers_iff`: what a node reports covers the share that it is named after if the
  node rounds up, or if no entry is lost by rounding down.
-/

namespace Ros2Dispatcher

open Ranks

/-- The order of 64-bit numbers. -/
instance instLinearOrderUInt64 : LinearOrder UInt64 where
  le_refl := UInt64.le_refl
  le_trans _ _ _ := UInt64.le_trans
  le_antisymm _ _ := UInt64.le_antisymm
  le_total := UInt64.le_total
  lt_iff_le_not_ge a b := by
    rw [UInt64.not_le]
    exact ⟨fun h => ⟨UInt64.le_of_lt h, h⟩, And.right⟩
  toMin := inferInstance
  toMax := inferInstance
  toOrd := inferInstance
  toDecidableLE := inferInstance
  toDecidableEq := inferInstance
  toDecidableLT := inferInstance

/-- The sample at an index, once the samples are sorted. -/
def sampleAt (index : Nat) (samples : List UInt64) : UInt64 :=
  (samples.mergeSort (· ≤ ·)).getD index 0

/-- `calculate_percentile` of `kafka_sink`. -/
def KafkaSink.calculatePercentile (samples : List UInt64) (percentile : ℚ) : UInt64 :=
  if samples = [] then 0 else sampleAt ⌊percentile * ((samples.length : ℚ) - 1)⌋₊ samples

/-- `calculate_percentile` of `mosquitto_sink`. -/
def MosquittoSink.calculatePercentile (samples : List UInt64) (percentile : ℚ) : UInt64 :=
  if samples = [] then 0 else sampleAt ⌊percentile * ((samples.length : ℚ) - 1)⌋₊ samples

/-- `calculate_percentile` of `kafka_cdr_to_json`. -/
def KafkaCdrToJson.calculatePercentile (samples : List UInt64) (percentile : ℚ) : UInt64 :=
  if samples = [] then 0
  else
    let clamped := min 1 (max 0 percentile)
    sampleAt ⌈clamped * ((samples.length : ℚ) - 1)⌉₊ samples

/-- `percentile_from_samples` of `kafka_source`, which takes sorted samples. -/
def KafkaSource.percentileFromSamples (sorted : List UInt64) (percentile : ℚ) : UInt64 :=
  if sorted = [] then 0
  else
    let clamped := min 1 (max 0 percentile)
    sorted.getD ⌈clamped * ((sorted.length : ℚ) - 1)⌉₊ 0

/-- The nodes that report percentiles. -/
inductive MetricsNode
  | kafkaSink
  | mosquittoSink
  | kafkaCdrToJson
  | kafkaSource
deriving DecidableEq, Repr

namespace MetricsNode

/-- The percentile that a node reports of its samples; `kafka_source` sorts them first. -/
def percentile : MetricsNode → List UInt64 → ℚ → UInt64
  | kafkaSink, samples, share => KafkaSink.calculatePercentile samples share
  | mosquittoSink, samples, share => MosquittoSink.calculatePercentile samples share
  | kafkaCdrToJson, samples, share => KafkaCdrToJson.calculatePercentile samples share
  | kafkaSource, samples, share =>
    KafkaSource.percentileFromSamples (samples.mergeSort (· ≤ ·)) share

/-- The node rounds the index up. -/
def roundsUp : MetricsNode → Bool
  | kafkaSink | mosquittoSink => false
  | kafkaCdrToJson | kafkaSource => true

end MetricsNode

/-! ### What a percentile covers -/

section Covering

variable {samples : List UInt64} {share : ℚ} {index : Nat}

theorem sampleAt_eq_getElem (h : index < (samples.mergeSort (· ≤ ·)).length) :
    sampleAt index samples = (samples.mergeSort (· ≤ ·))[index] := by
  rw [sampleAt, List.getD_eq_getElem?_getD, List.getElem?_eq_getElem h, Option.getD_some]

/-- Rounding up covers the share. -/
theorem coversShare_sampleAt_ceil (hne : samples ≠ []) (hone : share ≤ 1) :
    CoversShare share samples (sampleAt ⌈share * ((samples.length : ℚ) - 1)⌉₊ samples) := by
  have hsorted : (samples.mergeSort (· ≤ ·)).SortedLE := List.sortedLE_mergeSort
  have hlength : (samples.mergeSort (· ≤ ·)).length = samples.length := List.length_mergeSort _
  have hindex : ⌈share * ((samples.length : ℚ) - 1)⌉₊ < (samples.mergeSort (· ≤ ·)).length := by
    rw [hlength]
    exact ceil_rank_lt (List.length_pos_iff.mpr hne) hone
  rw [← coversShare_perm (List.mergeSort_perm samples (· ≤ ·)), sampleAt_eq_getElem hindex]
  refine coversShare_getElem_of_le hsorted hindex ?_
  rw [hlength]
  exact share_le_ceil_rank hone

/-- Rounding down covers the share if the share does not reach beyond the index, or if the next
sample is equal. -/
theorem coversShare_sampleAt_floor_iff (hne : samples ≠ []) (hone : share ≤ 1) :
    CoversShare share samples (sampleAt ⌊share * ((samples.length : ℚ) - 1)⌋₊ samples) ↔
      share * samples.length ≤ ⌊share * ((samples.length : ℚ) - 1)⌋₊ + 1 ∨
        (samples.mergeSort (· ≤ ·))[⌊share * ((samples.length : ℚ) - 1)⌋₊ + 1]? =
          (samples.mergeSort (· ≤ ·))[⌊share * ((samples.length : ℚ) - 1)⌋₊]? := by
  have hsorted : (samples.mergeSort (· ≤ ·)).SortedLE := List.sortedLE_mergeSort
  have hlength : (samples.mergeSort (· ≤ ·)).length = samples.length := List.length_mergeSort _
  have hindex : ⌊share * ((samples.length : ℚ) - 1)⌋₊ < (samples.mergeSort (· ≤ ·)).length := by
    rw [hlength]
    exact floor_rank_lt (List.length_pos_iff.mpr hne) hone
  have hshare : share * (samples.mergeSort (· ≤ ·)).length ≤
      ⌊share * ((samples.length : ℚ) - 1)⌋₊ + 2 := by
    rw [hlength]
    exact share_le_floor_rank hone
  rw [← coversShare_perm (List.mergeSort_perm samples (· ≤ ·)), sampleAt_eq_getElem hindex,
    coversShare_getElem_iff hsorted hindex hshare, hlength]

namespace MetricsNode

theorem percentile_of_roundsUp {node : MetricsNode} (hnode : node.roundsUp = true)
    (hne : samples ≠ []) (hzero : 0 ≤ share) (hone : share ≤ 1) :
    node.percentile samples share =
      sampleAt ⌈share * ((samples.length : ℚ) - 1)⌉₊ samples := by
  have hclamped : min 1 (max 0 share) = share := by
    rw [max_eq_right hzero, min_eq_right hone]
  have hlength : (samples.mergeSort (· ≤ ·)).length = samples.length := List.length_mergeSort _
  cases node with
  | kafkaSink => cases hnode
  | mosquittoSink => cases hnode
  | kafkaCdrToJson =>
    rw [percentile, KafkaCdrToJson.calculatePercentile, if_neg hne, hclamped]
  | kafkaSource =>
    have hsorted : samples.mergeSort (· ≤ ·) ≠ [] := by
      rw [← List.length_pos_iff, hlength]
      exact List.length_pos_iff.mpr hne
    rw [percentile, KafkaSource.percentileFromSamples, if_neg hsorted, hclamped, hlength, sampleAt]

theorem percentile_of_not_roundsUp {node : MetricsNode} (hnode : node.roundsUp = false)
    (hne : samples ≠ []) :
    node.percentile samples share =
      sampleAt ⌊share * ((samples.length : ℚ) - 1)⌋₊ samples := by
  cases node with
  | kafkaSink => exact if_neg hne
  | mosquittoSink => exact if_neg hne
  | kafkaCdrToJson => cases hnode
  | kafkaSource => cases hnode

end MetricsNode

/-- No percentile is above a bound of the samples. -/
theorem KafkaSink.calculatePercentile_le {bound : UInt64} (h : ∀ sample ∈ samples, sample ≤ bound)
    (hone : share ≤ 1) : KafkaSink.calculatePercentile samples share ≤ bound := by
  unfold KafkaSink.calculatePercentile
  split
  · exact UInt64.zero_le
  next hne =>
    have hindex : ⌊share * ((samples.length : ℚ) - 1)⌋₊ < (samples.mergeSort (· ≤ ·)).length := by
      rw [List.length_mergeSort]
      exact floor_rank_lt (List.length_pos_iff.mpr hne) hone
    rw [sampleAt_eq_getElem hindex]
    exact h _ (List.mem_mergeSort.mp (List.getElem_mem hindex))

/-- A percentile grows with its share. -/
theorem KafkaSink.calculatePercentile_mono {share' : ℚ} (h : share ≤ share') (hone : share' ≤ 1) :
    KafkaSink.calculatePercentile samples share ≤
      KafkaSink.calculatePercentile samples share' := by
  unfold KafkaSink.calculatePercentile
  split
  · exact le_rfl
  next hne =>
    have hpos := List.length_pos_iff.mpr hne
    have hindex : ⌊share' * ((samples.length : ℚ) - 1)⌋₊ <
        (samples.mergeSort (· ≤ ·)).length := by
      rw [List.length_mergeSort]
      exact floor_rank_lt hpos hone
    have hmono := floor_rank_mono hpos h
    rw [sampleAt_eq_getElem (hmono.trans_lt hindex), sampleAt_eq_getElem hindex]
    exact List.sortedLE_mergeSort.getElem_le_getElem_of_le hmono

/-- **What a percentile covers**: at least its share of the samples if the node rounds up;
otherwise if the share does not reach beyond the index rounded down, or if the sorted samples at
this index and the next are equal. -/
theorem percentile_covers_iff (node : MetricsNode) (hne : samples ≠ []) (hzero : 0 ≤ share)
    (hone : share ≤ 1) :
    CoversShare share samples (node.percentile samples share) ↔
      node.roundsUp = true ∨
      share * samples.length ≤ ⌊share * ((samples.length : ℚ) - 1)⌋₊ + 1 ∨
      (samples.mergeSort (· ≤ ·))[⌊share * ((samples.length : ℚ) - 1)⌋₊ + 1]? =
        (samples.mergeSort (· ≤ ·))[⌊share * ((samples.length : ℚ) - 1)⌋₊]? := by
  cases hnode : node.roundsUp with
  | true =>
    rw [MetricsNode.percentile_of_roundsUp hnode hne hzero hone]
    exact iff_of_true (coversShare_sampleAt_ceil hne hone) (.inl rfl)
  | false =>
    rw [MetricsNode.percentile_of_not_roundsUp hnode hne, coversShare_sampleAt_floor_iff hne hone,
      or_iff_right Bool.false_ne_true]

/-- The median of three samples in `kafka_sink`. -/
theorem percentile_covers_iff_median :
    CoversShare (1 / 2) [30, 10, 20] (MetricsNode.kafkaSink.percentile [30, 10, 20] (1 / 2)) := by
  have hshare : (1 / 2 : ℚ) * ([30, 10, 20] : List UInt64).length ≤
      ⌊(1 / 2 : ℚ) * ((([30, 10, 20] : List UInt64).length : ℚ) - 1)⌋₊ + 1 := by decide +kernel
  exact (percentile_covers_iff .kafkaSink (by decide) (by decide +kernel) (by decide +kernel)).mpr
    (.inr (.inl hshare))

/-- Of two samples the sinks report the lesser one as the 95th percentile. -/
theorem sink_percentile_too_low :
    ¬∀ (node : MetricsNode) (samples : List UInt64) (share : ℚ), samples ≠ [] → 0 ≤ share →
      share ≤ 1 → CoversShare share samples (node.percentile samples share) := by
  intro h
  have hcovers := h .kafkaSink [10, 20] (95 / 100) (by decide) (by decide +kernel)
    (by decide +kernel)
  have hindex : ⌊(95 / 100 : ℚ) * ((([10, 20] : List UInt64).length : ℚ) - 1)⌋₊ = 0 := by
    decide +kernel
  have hsorted : ([10, 20] : List UInt64).mergeSort (· ≤ ·) = [10, 20] :=
    List.mergeSort_of_pairwise (by decide)
  have hvalue : MetricsNode.kafkaSink.percentile [10, 20] (95 / 100) = 10 := by
    rw [MetricsNode.percentile_of_not_roundsUp rfl (by decide), hindex, sampleAt, hsorted]
    rfl
  rw [hvalue] at hcovers
  exact absurd hcovers.share_le (by decide +kernel)

end Covering

end Ros2Dispatcher
