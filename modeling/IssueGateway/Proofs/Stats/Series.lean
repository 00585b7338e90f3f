import IssueGateway.Proofs.Stats.Overview
import IssueGateway.Proofs.Stats.Partition
import Mathlib.Data.List.Sort
import Mathlib.Data.String.Basic

/-!
# Series of counts

The series of an analysis has one point for each bucket that a record falls into, with the number of
records in it, in order of the keys (`mem_series_iff`, `pairwise_series`). Both are told by the
records and not by their order, so records in another order have the same series
(`series_eq_of_perm`). The peak of a trend is the largest count.
-/

namespace IssueGateway.Stats

open Json Calendar

/-- Whether a record is dated by a column and falls into a bucket. -/
def fallsInto (column period key : String) (r : Record) : Bool :=
  (r.time? column).any fun t => bucketKey t.date period == key

/-- Points in order of their keys are told by which points they are. -/
theorem eq_of_ascending {points points' : List SeriesPoint}
    (h : points.Pairwise fun p q => p.period < q.period)
    (h' : points'.Pairwise fun p q => p.period < q.period)
    (hmem : ∀ p, p ∈ points ↔ p ∈ points') : points = points' := by
  have : Std.Irrefl fun p q : SeriesPoint => p.period < q.period := ⟨fun p => lt_irrefl p.period⟩
  have : Std.Antisymm fun p q : SeriesPoint => p.period < q.period :=
    ⟨fun p q hpq hqp => absurd (hpq.trans hqp) (lt_irrefl p.period)⟩
  exact h.eq_of_mem_iff h' hmem

section Series

variable (records : List Record) (column period : String)

theorem count_bucketOf (key : String) :
    (records.filterMap (bucketOf column period)).count key =
      records.countP (fallsInto column period key) := by
  rw [List.count_filterMap]
  refine List.countP_congr fun r _ => ?_
  rw [bucketOf, fallsInto]
  cases r.time? column <;> simp

theorem series_perm : (series records column period).Perm
    ((records.filterMap (bucketOf column period)).eraseDups.map fun key =>
      ⟨key, (records.filterMap (bucketOf column period)).count key⟩) := by
  rw [series, bucketCounts_eq, List.map_map]
  exact List.mergeSort_perm _ _

/-- The points of a series are the buckets that some records fall into, with their number. -/
theorem mem_series_iff (p : SeriesPoint) : p ∈ series records column period ↔
    1 ≤ p.count ∧ p.count = records.countP (fallsInto column period p.period) := by
  obtain ⟨key, n⟩ := p
  rw [(series_perm records column period).mem_iff, ← count_bucketOf]
  simp only [List.mem_map, SeriesPoint.mk.injEq, List.mem_eraseDups]
  constructor
  · rintro ⟨_, hkey, rfl, rfl⟩
    exact ⟨List.count_pos_iff.2 hkey, rfl⟩
  · rintro ⟨hpos, rfl⟩
    exact ⟨key, List.count_pos_iff.1 hpos, rfl, rfl⟩

theorem nodup_periods : ((series records column period).map (·.period)).Nodup := by
  rw [((series_perm records column period).map _).nodup_iff, List.map_map]
  change ((records.filterMap (bucketOf column period)).eraseDups.map fun key => key).Nodup
  rw [List.map_id']
  exact nodup_eraseDups _

theorem pairwise_series :
    (series records column period).Pairwise fun p q => p.period < q.period := by
  have hsorted : (series records column period).Pairwise fun p q => p.period ≤ q.period := by
    have hmerge : (series records column period).Pairwise fun p q =>
        decide (p.period ≤ q.period) = true := List.pairwise_mergeSort
      (fun p q r hpq hqr => by
        simp only [decide_eq_true_eq] at *
        exact le_trans hpq hqr)
      (fun p q => by
        simp only [Bool.or_eq_true, decide_eq_true_eq]
        exact le_total _ _) _
    exact hmerge.imp fun h => of_decide_eq_true h
  have hdistinct := List.pairwise_map.1 (nodup_periods records column period)
  exact (hsorted.and hdistinct).imp fun h => lt_of_le_of_ne h.1 h.2

/-- A series is the sorted arrangement of the counted buckets. -/
theorem series_eq_of_sorted {points : List SeriesPoint}
    (hsorted : points.Pairwise fun p q => p.period < q.period)
    (hcounts : ((bucketCounts records column period).map fun (key, n) =>
      SeriesPoint.mk key n).Perm points) : series records column period = points := by
  refine eq_of_ascending (pairwise_series records column period) hsorted fun p => ?_
  rw [← hcounts.mem_iff]
  exact (List.mergeSort_perm _ _).mem_iff

/-- Every dated record is counted once. -/
theorem total_series : total ((series records column period).map (·.count)) =
    records.countP fun r => (r.time? column).isSome := by
  have hcounts : (((records.filterMap (bucketOf column period)).eraseDups.map fun key =>
      (records.filterMap (bucketOf column period)).count key)).sum =
        (records.filterMap (bucketOf column period)).length := by
    have h := sum_countP_eraseDups id (records.filterMap (bucketOf column period))
    rw [List.map_id] at h
    exact h
  rw [total_eq_sum, ((series_perm records column period).map _).sum_eq, List.map_map]
  refine hcounts.trans ?_
  rw [List.length_filterMap_eq_countP]
  exact List.countP_congr fun r _ => by rw [bucketOf, Option.isSome_map]

theorem series_eq_of_perm {records' : List Record} (h : records'.Perm records) :
    series records' column period = series records column period := by
  refine eq_of_ascending (pairwise_series records' column period)
    (pairwise_series records column period) fun p => ?_
  rw [mem_series_iff, mem_series_iff, h.countP_eq]

end Series

section Trend

variable {counts : List Nat} {trend : Trend}

theorem Trend.of_eq_ok_iff : Trend.of counts = .ok trend ↔
    ∃ change, slope (counts.map fun n : Nat => Number.int n) = .ok change ∧
      trend.increasing = decide (0.0 < change) ∧ trend.peak = counts.foldl max 0 ∧
      trend.average = if counts.isEmpty then 0.0
        else Number.ratio (total counts) counts.length := by
  simp only [Trend.of, bind_eq_ok_iff, pure_eq_ok_iff]
  refine exists_congr fun change => and_congr_right fun _ => ?_
  obtain ⟨increasing, peak, average⟩ := trend
  rw [Trend.mk.injEq]
  exact and_congr eq_comm (and_congr eq_comm eq_comm)

theorem Trend.peak_eq (h : Trend.of counts = .ok trend) : trend.peak = counts.max?.getD 0 := by
  obtain ⟨-, -, -, hpeak, -⟩ := Trend.of_eq_ok_iff.1 h
  rw [hpeak, List.foldl_max, Nat.zero_max]

theorem Trend.le_peak (h : Trend.of counts = .ok trend) {n : Nat} (hn : n ∈ counts) :
    n ≤ trend.peak := by
  rw [Trend.peak_eq h]
  exact List.le_max?_getD_of_mem hn

theorem Trend.peak_mem (h : Trend.of counts = .ok trend) (hne : counts ≠ []) :
    trend.peak ∈ counts := by
  obtain ⟨n, hn⟩ := Option.ne_none_iff_exists'.1 (mt List.max?_eq_none_iff.1 hne)
  rw [Trend.peak_eq h, hn]
  exact List.max?_mem hn

end Trend

end IssueGateway.Stats
