import IssueGateway.Proofs.Calendar.Order
import IssueGateway.Proofs.Stats.Series

/-!
# Series in time order

A series is in the order of its keys. It is in time order too exactly if the keys never go against
the order of the moments that they stand for (`chronological_iff_keys`); then its trend compares
what came later with what came earlier (`comparesHalves_of_chronological`).
-/

namespace IssueGateway.Stats

open Calendar

/-- The moments of the records that a column dates. -/
def moments (records : List Record) (column : String) : List Timestamp :=
  records.filterMap (·.time? column)

/-- The moments that a point of a series counts. -/
def momentsIn (records : List Record) (column period : String) (p : SeriesPoint) : List Timestamp :=
  (moments records column).filter fun t => bucketKey t.date period == p.period

/-- All moments of a point are before all moments of another. -/
def IsBefore (records : List Record) (column period : String) (p q : SeriesPoint) : Prop :=
  ∀ s ∈ momentsIn records column period p, ∀ t ∈ momentsIn records column period q, s.Before t

/-- A series in time order. -/
def Chronological (records : List Record) (column period : String) (points : List SeriesPoint) :
    Prop :=
  points.Pairwise (IsBefore records column period)

/-- A trend that tells whether the buckets of the later half hold more on average than those of the
earlier half; an odd bucket belongs to the later half, and less than two buckets do not increase. -/
structure ComparesHalves (records : List Record) (column period : String)
    (analysis : TrendAnalysis) : Prop where
  count_eq : ∀ p ∈ analysis.series, 1 ≤ p.count ∧
    p.count = (momentsIn records column period p).length
  chronological : Chronological records column period analysis.series
  isBefore : ∀ p ∈ analysis.series.take (analysis.series.length / 2),
    ∀ q ∈ analysis.series.drop (analysis.series.length / 2), IsBefore records column period p q
  increasing_eq : 2 ≤ analysis.series.length → ∃ earlier later,
    mean ((analysis.series.take (analysis.series.length / 2)).map fun p => .int p.count) =
      .ok earlier ∧
    mean ((analysis.series.drop (analysis.series.length / 2)).map fun p => .int p.count) =
      .ok later ∧
    analysis.trend.increasing = decide (0.0 < later - earlier)
  not_increasing : analysis.series.length < 2 → analysis.trend.increasing = false

theorem slope_eq_ok_iff {values : List Number} {change : Float} (h : 2 ≤ values.length) :
    slope values = .ok change ↔ ∃ earlier later,
      mean (values.take (values.length / 2)) = .ok earlier ∧
      mean (values.drop (values.length / 2)) = .ok later ∧ later - earlier = change := by
  simp only [slope, if_neg (Nat.not_lt.2 h), bind_eq_ok_iff, pure_eq_ok_iff]
  constructor
  · rintro ⟨later, hlater, earlier, hearlier, rfl⟩
    exact ⟨earlier, later, hearlier, hlater, rfl⟩
  · rintro ⟨earlier, later, hearlier, hlater, rfl⟩
    exact ⟨later, hlater, earlier, hearlier, rfl⟩

theorem slope_of_short {values : List Number} (h : values.length < 2) : slope values = .ok 0.0 :=
  if_pos h

section Series

variable {records : List Record} {column period : String}

theorem mem_momentsIn {p : SeriesPoint} {t : Timestamp} :
    t ∈ momentsIn records column period p ↔
      t ∈ moments records column ∧ bucketKey t.date period = p.period := by
  rw [momentsIn, List.mem_filter, beq_iff_eq]

/-- A series is told by the moments of the records. -/
theorem bucketCounts_eq_moments : bucketCounts records column period =
    ((moments records column).map fun t => bucketKey t.date period).foldl
      (fun counts key => Assoc.update counts key fun n => n.getD 0 + 1) [] := by
  rw [moments, List.map_filterMap]
  rfl

theorem length_momentsIn (p : SeriesPoint) : (momentsIn records column period p).length =
    records.countP (fallsInto column period p.period) := by
  rw [momentsIn, moments, ← List.countP_eq_length_filter, List.countP_filterMap]
  refine List.countP_congr fun r _ => ?_
  rw [fallsInto]
  cases r.time? column <;> simp

/-- Every moment has a point in the series. -/
theorem exists_mem_momentsIn (period : String) {t : Timestamp}
    (ht : t ∈ moments records column) :
    ∃ p ∈ series records column period, p.period = bucketKey t.date period ∧
      t ∈ momentsIn records column period p := by
  have hin : t ∈ momentsIn records column period ⟨bucketKey t.date period,
      records.countP (fallsInto column period (bucketKey t.date period))⟩ :=
    mem_momentsIn.2 ⟨ht, rfl⟩
  refine ⟨_, (mem_series_iff records column period _).2 ⟨?_, rfl⟩, rfl, hin⟩
  have hpos := List.length_pos_of_mem hin
  rw [length_momentsIn] at hpos
  exact hpos

/-- In a series in time order smaller keys are earlier. -/
theorem isBefore_of_chronological
    (h : Chronological records column period (series records column period)) {p q : SeriesPoint}
    (hp : p ∈ series records column period) (hq : q ∈ series records column period)
    (hlt : p.period < q.period) : IsBefore records column period p q := by
  have hapart : (series records column period).Pairwise fun p q =>
      (p.period < q.period → IsBefore records column period p q) ∧
        (q.period < p.period → IsBefore records column period q p) :=
    (h.and (pairwise_series records column period)).imp fun ⟨hbefore, hkeys⟩ =>
      ⟨fun _ => hbefore, fun hback => absurd hback hkeys.asymm⟩
  have : Std.Symm fun p q : SeriesPoint =>
      (p.period < q.period → IsBefore records column period p q) ∧
        (q.period < p.period → IsBefore records column period q p) := ⟨fun _ _ h => h.symm⟩
  have hne : p ≠ q := fun heq => lt_irrefl _ (heq ▸ hlt)
  exact (hapart.forall hp hq hne).1 hlt

/-- A series of moments on one clock is in time order exactly if later moments have no smaller
keys. -/
theorem chronological_iff_keys (hclock : ∀ t ∈ moments records column, t.offset = none) :
    Chronological records column period (series records column period) ↔
      ∀ s ∈ moments records column, ∀ t ∈ moments records column, s.Before t →
        bucketKey s.date period ≤ bucketKey t.date period := by
  constructor
  · intro h s hs t ht hbefore
    by_contra hback
    obtain ⟨p, hp, hpkey, hsp⟩ := exists_mem_momentsIn period hs
    obtain ⟨q, hq, hqkey, htq⟩ := exists_mem_momentsIn period ht
    have hlt : q.period < p.period := by
      rw [hpkey, hqkey]
      exact lt_of_not_ge hback
    exact hbefore.asymm (isBefore_of_chronological h hq hp hlt t htq s hsp)
  · intro h
    refine (pairwise_series records column period).imp fun {p q} hlt s hs t ht => ?_
    obtain ⟨hs, hskey⟩ := mem_momentsIn.1 hs
    obtain ⟨ht, htkey⟩ := mem_momentsIn.1 ht
    rw [← hskey, ← htkey] at hlt
    rcases Timestamp.before_trichotomy (hclock s hs) (hclock t ht) with hbefore | rfl | hafter
    · exact hbefore
    · exact absurd hlt (lt_irrefl _)
    · exact absurd hlt (not_lt_of_ge (h t ht s hs hafter))

theorem comparesHalves_of_chronological {analysis : TrendAnalysis}
    (hseries : analysis.series = series records column period)
    (hchronological : Chronological records column period (series records column period))
    (htrend : Trend.of (analysis.series.map (·.count)) = .ok analysis.trend) :
    ComparesHalves records column period analysis := by
  obtain ⟨change, hslope, hincreasing, -, -⟩ := Trend.of_eq_ok_iff.1 htrend
  rw [List.map_map] at hslope
  rw [← hseries] at hchronological
  refine ⟨fun p hp => ?_, hchronological, ?_, fun hlong => ?_, fun hshort => ?_⟩
  · rw [length_momentsIn]
    exact (mem_series_iff records column period p).1 (hseries ▸ hp)
  · rw [Chronological, ← List.take_append_drop (analysis.series.length / 2) analysis.series,
      List.pairwise_append] at hchronological
    exact hchronological.2.2
  · obtain ⟨earlier, later, hearlier, hlater, rfl⟩ :=
      (slope_eq_ok_iff (by rwa [List.length_map])).1 hslope
    rw [List.length_map] at hearlier hlater
    rw [← List.map_take] at hearlier
    rw [← List.map_drop] at hlater
    exact ⟨earlier, later, hearlier, hlater, hincreasing⟩
  · rw [slope_of_short (by rwa [List.length_map])] at hslope
    rw [hincreasing, ← Except.ok.inj hslope]
    decide

end Series

end IssueGateway.Stats
