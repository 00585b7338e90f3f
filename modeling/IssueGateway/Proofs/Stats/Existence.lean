import IssueGateway.Proofs.Remote.Announced
import IssueGateway.Proofs.Stats.Partition

/-!
# When statistics exist

Records cannot be summarised if a list or an object names a group, or if a sum or a mean has no
double as its result; they cannot be analysed if a group has no name, or if the slope of their
series or the mean of a group has no double. These are the only ways in which the statistics of
records fail (`exists_summary_iff`, `exists_analyze_iff`), and no operation announces them.
-/

namespace IssueGateway

open Json

/-- A calculation without a result. -/
def OutOfRange {α : Type} (x : Except RangeError α) : Prop :=
  ∃ cause, x = .error cause

namespace Stats

/-- A calculation that only numbers out of range can stop. -/
abbrev StaysInRange {α : Type} (x : Except Failure α) : Prop :=
  FailsOnly (fun failure => ∃ cause, failure = .range cause) x

section Range

variable (t : Tally) (r : Record) (name : String) (records : List Record)

theorem range_checked {α : Type} (x : Except RangeError α) : StaysInRange (checked x) :=
  .mapError fun cause => ⟨cause, rfl⟩

theorem range_add : StaysInRange (t.add r) :=
  (range_checked _).bind fun _ => (range_checked _).bind fun _ => .ok _

theorem range_stats : StaysInRange t.stats :=
  (range_checked _).bind fun _ => .ok _

theorem range_overview (groups : Assoc GroupKey GroupStats) :
    StaysInRange (overview records groups) :=
  (range_checked _).bind fun _ => .ok _

theorem range_summarize : StaysInRange (summarize name records) := by
  rw [summarize]
  split
  · exact .ok _
  · exact (range_checked _).bind fun _ => .ok _

variable {records}

/-- Once all groups have a name, only numbers out of range can stop an analysis. -/
theorem range_analyze {analysisType period : String} {groupBy dateField : Option String}
    (hnamed : AreNamed records (groupedBy groupBy)) :
    StaysInRange (analyze records analysisType period groupBy dateField) := by
  rw [analyze_eq, if_pos hnamed]
  refine (range_checked _).bind fun trend => ?_
  refine FailsOnly.bind (.mapM (fun entry => ?_) _) fun _ => .ok _
  exact range_summarize entry.1 entry.2

end Range

theorem StaysInRange.slips {α : Type} {x : Except Failure α} (h : StaysInRange x) : Slips x := by
  refine h.mono fun failure hrange => ?_
  obtain ⟨cause, rfl⟩ := hrange
  simp [Failure.IsSlip, Failure.name]

theorem slips_ofValue (v : Value) : Slips (GroupKey.ofValue v) := by
  cases v with
  | arr rows => exact .error (by simp [Failure.IsSlip, Failure.name])
  | obj fields => exact .error (by simp [Failure.IsSlip, Failure.name])
  | _ => exact .ok _

theorem slips_tallyRecord (select : Selector) (groups : Assoc GroupKey Tally) (r : Record) :
    Slips (tallyRecord select groups r) :=
  (slips_ofValue _).bind fun _ => (range_add _ r).slips.bind fun _ => .ok _

theorem slips_aggregate (records : List Record) (select : Selector) :
    Slips (aggregate records select) := by
  have hpass : Slips (records.foldlM (tallyRecord select) []) :=
    .foldlM (slips_tallyRecord select) records []
  refine hpass.bind fun tallies => .mapM (fun entry => ?_) tallies
  exact (range_stats entry.2).slips.bind fun _ => .ok _

theorem slips_overview (records : List Record) (groups : Assoc GroupKey GroupStats) :
    Slips (overview records groups) :=
  (range_overview records groups).slips

theorem slips_analyze (records : List Record) (analysisType period : String)
    (groupBy dateField : Option String) :
    Slips (analyze records analysisType period groupBy dateField) := by
  by_cases hnamed : AreNamed records (groupedBy groupBy)
  · exact (range_analyze hnamed).slips
  · rw [analyze_eq, if_neg hnamed]
    exact .error (by simp [Failure.IsSlip, Failure.name])

/-- A calculation all of whose failures are unannounced. -/
abbrev Unannounced {α : Type} (x : Except Failure α) : Prop :=
  FailsOnly (fun failure => ¬ failure.IsAnnounced) x

theorem unannounced_iff {α : Type} {x : Except Failure α} (h : Unannounced x) :
    (∃ failure, x = .error failure ∧ ¬ failure.IsAnnounced) ↔ ¬ ∃ a, x = .ok a := by
  rw [← exists_error_iff]
  exact ⟨fun ⟨failure, hx, _⟩ => ⟨failure, hx⟩, fun ⟨failure, hx⟩ => ⟨failure, hx, h failure hx⟩⟩

theorem unannounced_aggregate (records : List Record) (select : Selector) :
    Unannounced (aggregate records select) :=
  (slips_aggregate records select).mono fun _ => Failure.IsSlip.not_isAnnounced

theorem unannounced_overview (records : List Record) (groups : Assoc GroupKey GroupStats) :
    Unannounced (overview records groups) :=
  (slips_overview records groups).mono fun _ => Failure.IsSlip.not_isAnnounced

theorem unannounced_analyze (records : List Record) (analysisType period : String)
    (groupBy dateField : Option String) :
    Unannounced (analyze records analysisType period groupBy dateField) :=
  (slips_analyze records analysisType period groupBy dateField).mono
    fun _ => Failure.IsSlip.not_isAnnounced

/-- Why records cannot be summarised: a list or an object names a group, or the work of a group, the
mean of its progress or the work of all records is out of range. -/
inductive Unsummarizable (groupBy : GroupBy) (records : List Record) : Prop where
  | key (r : Record) (hr : r ∈ records)
      (hkey : (groupBy.select r).kind = .list ∨ (groupBy.select r).kind = .object)
  | groupWork (key : GroupKey)
      (h : OutOfRange (Number.sum ((members groupBy.select key records).map work)))
  | groupProgress (key : GroupKey)
      (h : OutOfRange (mean ((members groupBy.select key records).map progress)))
  | totalWork (h : OutOfRange (Number.sum (records.map work)))

/-- Why records cannot be analysed: a group has no name, or the slope of their series or the mean of
a group's progress is out of range. -/
inductive Unanalyzable (analysisType : AnalysisType) (period : Calendar.Period)
    (groupBy : Option String) (records : List Record) : Prop where
  | name (h : ¬ AreNamed records (groupedBy groupBy))
  | slope (h : OutOfRange (slope
      ((series records (dateColumn analysisType.name) period.name).map fun p => .int p.count)))
  | groupProgress (name : String) (h : OutOfRange
      (mean ((records.filter (nameBy (groupedBy groupBy) · == name)).map progress)))

theorem outOfRange_iff {α : Type} {x : Except RangeError α} : OutOfRange x ↔ ¬ ∃ a, x = .ok a :=
  exists_error_iff

theorem exists_checked_iff {α : Type} {x : Except RangeError α} :
    (∃ a, checked x = .ok a) ↔ ¬ OutOfRange x := by
  rw [outOfRange_iff, not_not]
  simp only [checked_eq_ok_iff]

/-- The statistics of some records exist when their work and the mean of their progress do. -/
theorem exists_stats_iff {records : List Record} :
    (∃ stats : GroupStats, stats.Of records) ↔
      ¬ OutOfRange (Number.sum (records.map work)) ∧
        ¬ OutOfRange (mean (records.map progress)) := by
  rw [outOfRange_iff, outOfRange_iff, not_not, not_not]
  constructor
  · rintro ⟨stats, h⟩
    obtain ⟨total, htotal, haverage⟩ := h.averageProgress_eq
    rw [← List.length_map (f := progress)] at haverage
    exact ⟨⟨_, h.totalWork_eq⟩, _, bind_eq_ok_iff.2 ⟨total, htotal, haverage⟩⟩
  · rintro ⟨⟨w, hwork⟩, average, hmean⟩
    obtain ⟨total, htotal, haverage⟩ := bind_eq_ok_iff.1 hmean
    rw [List.length_map] at haverage
    exact ⟨⟨records.length, w, average, records.countP Record.isCompleted,
      Number.percent (records.countP Record.isCompleted) records.length, records.map Row.of⟩,
      rfl, hwork, ⟨total, htotal, haverage⟩, rfl, rfl, rfl⟩

theorem exists_keyOf_iff {select : Selector} {r : Record} :
    (∃ key, keyOf select r = .ok key) ↔
      ¬ ((select r).kind = .list ∨ (select r).kind = .object) := by
  rw [keyOf]
  cases select r with
  | num n => cases n <;> simp [GroupKey.ofValue, Value.kind]
  | _ => simp [GroupKey.ofValue, Value.kind]

/-- A summary exists unless the records cannot be summarised. -/
theorem exists_summary_iff {groupBy : GroupBy} {records : List Record} :
    (∃ groups, aggregate records groupBy.select = .ok groups ∧
      ∃ totals, overview records groups = .ok totals) ↔ ¬ Unsummarizable groupBy records := by
  have hoverview : ∀ groups, (∃ totals, overview records groups = .ok totals) ↔
      ¬ OutOfRange (Number.sum (records.map work)) := by
    intro groups
    rw [← exists_checked_iff]
    simp only [overview, bind_eq_ok_iff, pure_eq_ok_iff]
    exact ⟨fun ⟨_, w, hw, _⟩ => ⟨w, hw⟩, fun ⟨w, hw⟩ => ⟨_, w, hw, rfl⟩⟩
  simp only [hoverview, exists_and_right, exists_aggregate_eq_ok_iff]
  constructor
  · rintro ⟨hgroups, htotal⟩ hnot
    have hstats : ∀ key, ¬ OutOfRange (Number.sum ((members groupBy.select key records).map work)) ∧
        ¬ OutOfRange (mean ((members groupBy.select key records).map progress)) := by
      intro key
      obtain ⟨t, ht, stats, hstats⟩ := exists_tally_of_members hgroups key
      exact exists_stats_iff.1 ⟨stats, (tallyOf_eq_ok_iff.1 ht).stats hstats⟩
    cases hnot with
    | key r hr hkey =>
      obtain ⟨key, hown, -⟩ := hgroups r hr
      exact exists_keyOf_iff.1 ⟨key, hown⟩ hkey
    | groupWork key h => exact (hstats key).1 h
    | groupProgress key h => exact (hstats key).2 h
    | totalWork h => exact htotal h
  · intro hnot
    refine ⟨fun r hr => ?_, fun h => hnot (.totalWork h)⟩
    obtain ⟨key, hown⟩ := exists_keyOf_iff.2 fun hkey => hnot (.key r hr hkey)
    exact ⟨key, hown, exists_stats_iff.2
      ⟨fun h => hnot (.groupWork key h), fun h => hnot (.groupProgress key h)⟩⟩

theorem exists_summarize_iff {name : String} {records : List Record} :
    (∃ summary, summarize name records = .ok summary) ↔
      ¬ OutOfRange (mean (records.map progress)) := by
  rw [← exists_checked_iff, summarize]
  cases records with
  | nil => exact iff_of_true ⟨_, rfl⟩ ⟨_, rfl⟩
  | cons r rest =>
    rw [if_neg (by simp)]
    simp only [bind_eq_ok_iff, pure_eq_ok_iff]
    exact ⟨fun ⟨_, average, h, _⟩ => ⟨average, h⟩, fun ⟨average, h⟩ => ⟨_, average, h, rfl⟩⟩

theorem exists_trend_iff {counts : List Nat} :
    (∃ trend, Trend.of counts = .ok trend) ↔
      ¬ OutOfRange (slope (counts.map fun n : Nat => Number.int n)) := by
  rw [outOfRange_iff, not_not]
  simp only [Trend.of, bind_eq_ok_iff, pure_eq_ok_iff]
  exact ⟨fun ⟨_, change, h, _⟩ => ⟨change, h⟩, fun ⟨change, h⟩ => ⟨_, change, h, rfl⟩⟩

/-- A group without records has a mean. -/
theorem not_outOfRange_mean_nil : ¬ OutOfRange (mean []) := by
  rw [outOfRange_iff, not_not]
  exact exists_ok_of_isSome (by decide)

/-- An analysis exists if all groups have a name, unless its slope or the mean progress of a group is
out of range. -/
theorem exists_analysis_iff {records : List Record} {analysisType period : String}
    {groupBy dateField : Option String} :
    (∃ analysis, analyze records analysisType period groupBy dateField = .ok analysis) ↔
      AreNamed records (groupedBy groupBy) ∧
      (∀ name, ¬ OutOfRange
        (mean ((records.filter (nameBy (groupedBy groupBy) · == name)).map progress))) ∧
      ¬ OutOfRange (slope (((series records (datedBy analysisType dateField) period).map
        (·.count)).map fun n : Nat => .int n)) := by
  constructor
  · rintro ⟨analysis, hanalyze⟩
    obtain ⟨hnamed, hseries, htrend, hgroups⟩ := analyze_eq_ok_iff.1 hanalyze
    refine ⟨hnamed, fun name => ?_, ?_⟩
    · by_cases hnone : records.filter (nameBy (groupedBy groupBy) · == name) = []
      · rw [hnone]
        exact not_outOfRange_mean_nil
      · exact exists_summarize_iff.1
          (exists_of_mapM_eq_ok (mapM_eq_ok_iff.2 hgroups) (mem_groupsOf hnone))
    · rw [← hseries]
      exact exists_trend_iff.1 ⟨_, htrend⟩
  · rintro ⟨hnamed, hmeans, hslope⟩
    obtain ⟨trend, htrend⟩ := exists_trend_iff.2 hslope
    have hgroups (group : String × List Record)
        (hgroup : group ∈ groupsOf records (groupedBy groupBy)) :
        ∃ summary, summarize group.1 group.2 = .ok summary := by
      obtain ⟨name, -, rfl⟩ := List.mem_map.1 hgroup
      exact exists_summarize_iff.2 (hmeans name)
    obtain ⟨groups, hgroups⟩ := exists_mapM_eq_ok hgroups
    exact ⟨⟨groups, _, trend⟩,
      analyze_eq_ok_iff.2 ⟨hnamed, rfl, htrend, mapM_eq_ok_iff.1 hgroups⟩⟩

/-- An analysis exists unless the records cannot be analysed. -/
theorem exists_analyze_iff {analysisType : AnalysisType} {period : Calendar.Period}
    {groupBy : Option String} {records : List Record} :
    (∃ analysis, analyze records analysisType.name period.name groupBy none = .ok analysis) ↔
      ¬ Unanalyzable analysisType period groupBy records := by
  rw [exists_analysis_iff, List.map_map]
  constructor
  · rintro ⟨hnamed, hmeans, hslope⟩ hnot
    cases hnot with
    | name h => exact h hnamed
    | slope h => exact hslope h
    | groupProgress name h => exact hmeans name h
  · intro hnot
    exact ⟨not_not.1 fun h => hnot (.name h), fun name h => hnot (.groupProgress name h),
      fun h => hnot (.slope h)⟩

end Stats

end IssueGateway
