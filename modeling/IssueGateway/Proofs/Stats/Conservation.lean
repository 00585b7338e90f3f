import IssueGateway.Proofs.Stats.Series

/-!
# Nothing is lost or counted twice

An analysis has every dated record in one point of its series and every record, dated or not, in one
of its groups. What it tells of the records is said by `Conserves` through counts over the records
alone; as counts do not see an order, the series and the trend do not either (`analyze_conserves`).
-/

namespace IssueGateway.Stats

open Json

/-- The name, the count and the missing rates of a group of records. -/
theorem summarize_spec {name : String} {records : List Record} {g : GroupSummary}
    (h : summarize name records = .ok g) :
    g.name = name ∧ g.count = records.length ∧
      (g.averageProgress = none ↔ records = []) ∧ (g.completionRate = none ↔ records = []) := by
  cases records with
  | nil =>
    obtain rfl := Except.ok.inj h
    exact ⟨rfl, rfl, iff_of_true rfl rfl, iff_of_true rfl rfl⟩
  | cons r rest =>
    rw [summarize, List.isEmpty_cons, if_neg Bool.false_ne_true] at h
    simp only [bind_eq_ok_iff, pure_eq_ok_iff] at h
    obtain ⟨average, -, rfl⟩ := h
    exact ⟨rfl, rfl, iff_of_false (Option.some_ne_none _) (List.cons_ne_nil _ _),
      iff_of_false (Option.some_ne_none _) (List.cons_ne_nil _ _)⟩

/-- What an analysis tells of its records: `column` dates them and `grouping` names their groups. -/
structure Conserves (records : List Record) (column period : String) (grouping : Option String)
    (analysis : TrendAnalysis) : Prop where
  ascending : analysis.series.Pairwise fun p q => p.period < q.period
  /-- The points are the buckets with at least one record, and count its records. -/
  mem_iff : ∀ p, p ∈ analysis.series ↔
    1 ≤ p.count ∧ p.count = records.countP (fallsInto column period p.period)
  total_eq : total (analysis.series.map (·.count)) =
    records.countP fun r => (r.time? column).isSome
  le_peak : ∀ p ∈ analysis.series, p.count ≤ analysis.trend.peak
  exists_peak : analysis.series ≠ [] → ∃ p ∈ analysis.series, p.count = analysis.trend.peak
  peak_eq_zero_iff : analysis.trend.peak = 0 ↔ analysis.series = []
  names_eq : analysis.groups.map (·.name) = groupNames records grouping
  names_nodup : (analysis.groups.map (·.name)).Nodup
  group_count_eq : ∀ g ∈ analysis.groups, g.count = records.countP (nameBy grouping · == g.name)
  total_groups_eq : total (analysis.groups.map (·.count)) = records.length
  averageProgress_eq_none_iff : ∀ g ∈ analysis.groups,
    g.averageProgress = none ↔ grouping = none ∧ g.name = "all" ∧ records = []
  completionRate_eq_none_iff : ∀ g ∈ analysis.groups,
    g.completionRate = none ↔ grouping = none ∧ g.name = "all" ∧ records = []

theorem nodup_groupNames (records : List Record) (grouping : Option String) :
    (groupNames records grouping).Nodup := by
  cases grouping with
  | some column => exact nodup_eraseDups _
  | none => exact List.nodup_singleton _

/-- Every record is counted in one group. -/
theorem sum_groupNames (records : List Record) (grouping : Option String) :
    ((groupNames records grouping).map fun name => records.countP (nameBy grouping · == name)).sum =
      records.length := by
  cases grouping with
  | some column => exact sum_countP_eraseDups (groupName column) records
  | none => simp [groupNames, nameBy]

/-- Only the one group of no records at all is empty. -/
theorem filter_groupNames_eq_nil_iff {records : List Record} {grouping : Option String}
    {name : String} (hname : name ∈ groupNames records grouping) :
    records.filter (nameBy grouping · == name) = [] ↔
      grouping = none ∧ name = "all" ∧ records = [] := by
  cases grouping with
  | some column =>
    obtain ⟨r, hr, hown⟩ := List.mem_map.1 (List.mem_eraseDups.1 hname)
    refine iff_of_false (List.ne_nil_of_mem (List.mem_filter.2 ⟨hr, beq_iff_eq.2 hown⟩)) ?_
    rintro ⟨hnone, -⟩
    cases hnone
  | none =>
    obtain rfl := List.mem_singleton.1 hname
    simp [nameBy]

section Groups

variable {records : List Record} {grouping : Option String} {groups : List GroupSummary}
  (h : List.Forall₂ (fun group summary => summarize group.1 group.2 = .ok summary)
    (groupsOf records grouping) groups)

include h

theorem names_of_summarize : groups.map (·.name) = groupNames records grouping := by
  rw [groupsOf, List.forall₂_map_left_iff] at h
  have hnames : List.Forall₂ (fun name g => name = GroupSummary.name g)
      (groupNames records grouping) groups :=
    h.imp fun name g hsummary => (summarize_spec hsummary).1.symm
  rw [← List.forall₂_map_right_iff (R := Eq), List.forall₂_eq_eq_eq] at hnames
  exact hnames.symm

theorem summarize_of_mem {g : GroupSummary} (hg : g ∈ groups) :
    summarize g.name (records.filter (nameBy grouping · == g.name)) = .ok g := by
  obtain ⟨⟨name, members⟩, hmem, hsummary⟩ := (mem_of_mapM_eq_ok (mapM_eq_ok_iff.2 h)).1 hg
  rw [groupsOf] at hmem
  obtain ⟨_, -, heq⟩ := List.mem_map.1 hmem
  obtain ⟨rfl, rfl⟩ := Prod.mk.inj heq
  obtain ⟨rfl, -⟩ := summarize_spec hsummary
  exact hsummary

theorem count_of_mem {g : GroupSummary} (hg : g ∈ groups) :
    g.count = records.countP (nameBy grouping · == g.name) := by
  rw [(summarize_spec (summarize_of_mem h hg)).2.1, List.countP_eq_length_filter]

theorem total_of_summarize : total (groups.map (·.count)) = records.length := by
  have hcounts : groups.map (·.count) = (groups.map (·.name)).map fun name =>
      records.countP (nameBy grouping · == name) := by
    rw [List.map_map]
    exact List.map_congr_left fun g hg => count_of_mem h hg
  rw [total_eq_sum, hcounts, names_of_summarize h, sum_groupNames]

theorem rates_of_mem {g : GroupSummary} (hg : g ∈ groups) :
    (g.averageProgress = none ↔ grouping = none ∧ g.name = "all" ∧ records = []) ∧
      (g.completionRate = none ↔ grouping = none ∧ g.name = "all" ∧ records = []) := by
  have hname : g.name ∈ groupNames records grouping :=
    names_of_summarize h ▸ List.mem_map_of_mem hg
  obtain ⟨-, -, haverage, hrate⟩ := summarize_spec (summarize_of_mem h hg)
  rw [haverage, hrate, filter_groupNames_eq_nil_iff hname]
  exact ⟨Iff.rfl, Iff.rfl⟩

end Groups

/-- An analysis loses no record and counts none twice, and records in another order have the same
series and the same trend. -/
theorem analyze_conserves {records : List Record} {analysisType period : String}
    {groupBy dateField : Option String} {analysis : TrendAnalysis}
    (h : analyze records analysisType period groupBy dateField = .ok analysis) :
    Conserves records (datedBy analysisType dateField) period (groupedBy groupBy) analysis ∧
      ∀ records' analysis', records'.Perm records →
        analyze records' analysisType period groupBy dateField = .ok analysis' →
        analysis'.series = analysis.series ∧ analysis'.trend = analysis.trend := by
  obtain ⟨-, hseries, htrend, hgroups⟩ := analyze_eq_ok_iff.1 h
  have hpeak : analysis.series ≠ [] →
      ∃ p ∈ analysis.series, p.count = analysis.trend.peak := fun hne =>
    List.mem_map.1 (Trend.peak_mem htrend (mt List.map_eq_nil_iff.1 hne))
  constructor
  · refine
      { ascending := hseries ▸ pairwise_series ..
        mem_iff := hseries ▸ mem_series_iff _ _ _
        total_eq := hseries ▸ total_series ..
        le_peak := fun p hp => Trend.le_peak htrend (List.mem_map_of_mem hp)
        exists_peak := hpeak
        peak_eq_zero_iff := ?_
        names_eq := names_of_summarize hgroups
        names_nodup := names_of_summarize hgroups ▸ nodup_groupNames ..
        group_count_eq := fun _ => count_of_mem hgroups
        total_groups_eq := total_of_summarize hgroups
        averageProgress_eq_none_iff := fun _ hg => (rates_of_mem hgroups hg).1
        completionRate_eq_none_iff := fun _ hg => (rates_of_mem hgroups hg).2 }
    refine ⟨fun hzero => ?_, fun hnil => ?_⟩
    · by_contra hne
      obtain ⟨p, hp, hcount⟩ := hpeak hne
      rw [hseries] at hp
      have hpos := ((mem_series_iff _ _ _ p).1 hp).1
      omega
    · rw [Trend.peak_eq htrend, hnil]
      rfl
  · intro records' analysis' hperm h'
    obtain ⟨-, hseries', htrend', -⟩ := analyze_eq_ok_iff.1 h'
    have hsame : analysis'.series = analysis.series := by
      rw [hseries', hseries, series_eq_of_perm _ _ _ hperm]
    rw [hsame] at htrend'
    exact ⟨hsame, Except.ok.inj (htrend'.symm.trans htrend)⟩

/-- Two ways to write a date, a text that is none, and a zero, a null and a text that name one
group; the records once in order and once back to front. -/
theorem analyze_conserves_either_way :
    let record := fun (time name : Value) => Record.mk [("CreatedTime", time), ("ClassA", name)]
    let records := [record (.str "2024-02-05T10:00:00") (.str "b"),
      record (.str "2024/01/31") (.int 0), record (.str "soon") .null,
      record (.str "2024-01-02T23:30:00+05:30") (.str "b"), record .null (.str "unknown")]
    ∃ analysis analysis',
      analyze records "creation" "month" (some "ClassA") none = .ok analysis ∧
      Conserves records "CreatedTime" "month" (some "ClassA") analysis ∧
      analysis.series = [⟨"2024-01", 2⟩, ⟨"2024-02", 1⟩] ∧ analysis.trend.peak = 2 ∧
      analysis.groups.map (fun g => (g.name, g.count)) = [("b", 2), ("unknown", 3)] ∧
      records.reverse.Perm records ∧
      analyze records.reverse "creation" "month" (some "ClassA") none = .ok analysis' ∧
      analysis'.series = analysis.series ∧ analysis'.trend = analysis.trend := by
  intro record records
  have hseries : series records "CreatedTime" "month" = [⟨"2024-01", 2⟩, ⟨"2024-02", 1⟩] :=
    series_eq_of_sorted _ _ _ (by decide +kernel) (by decide +kernel)
  have htrend : ((Trend.of [2, 1]).map Trend.peak).toOption = some 2 := by decide +kernel
  have hforth : (((groupsOf records (some "ClassA")).mapM fun group =>
      summarize group.1 group.2).map fun groups => groups.map fun g => (g.name, g.count)).toOption =
        some [("b", 2), ("unknown", 3)] := by decide +kernel
  have hback : (((groupsOf records.reverse (some "ClassA")).mapM fun group =>
      summarize group.1 group.2).map fun _ => ()).toOption = some () := by decide +kernel
  obtain ⟨trend, htrend, hpeak⟩ := exists_ok_of_toOption_map htrend
  obtain ⟨groups, hforth, hview⟩ := exists_ok_of_toOption_map hforth
  obtain ⟨groups', hback, -⟩ := exists_ok_of_toOption_map hback
  have hperm := List.reverse_perm records
  have hanalyze : analyze records "creation" "month" (some "ClassA") none =
      .ok ⟨groups, [⟨"2024-01", 2⟩, ⟨"2024-02", 1⟩], trend⟩ :=
    analyze_eq_ok_iff.2 ⟨by decide +kernel, hseries.symm, htrend, mapM_eq_ok_iff.1 hforth⟩
  have hreverse : analyze records.reverse "creation" "month" (some "ClassA") none =
      .ok ⟨groups', [⟨"2024-01", 2⟩, ⟨"2024-02", 1⟩], trend⟩ :=
    analyze_eq_ok_iff.2 ⟨by decide +kernel,
      hseries.symm.trans (series_eq_of_perm _ _ _ hperm).symm, htrend, mapM_eq_ok_iff.1 hback⟩
  obtain ⟨hconserves, hsame⟩ := analyze_conserves hanalyze
  exact ⟨_, _, hanalyze, hconserves, rfl, hpeak, hview, hperm, hreverse, hsame _ _ hperm hreverse⟩

end IssueGateway.Stats
