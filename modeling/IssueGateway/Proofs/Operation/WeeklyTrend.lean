import IssueGateway.Operation.Analysis
import IssueGateway.Proofs.Page
import IssueGateway.Proofs.Stats.Partition
import IssueGateway.Proofs.Stats.WeekOrder

/-!
# Trends of a week

A weekly trend looks at the seven days before today and today. Its series is in the order of its
keys, which is the order of time as long as no two moments lie in different months of one year: a
month's first days have a smaller key than the last days of the month before.
-/

namespace IssueGateway.Operation

open Json Remote Calendar Stats

/-- A trend, step by step. -/
theorem trend_eq_ok_iff {σ : Type} {server : Server σ} {c : Client} {s : σ} {today first : Date}
    {a : TrendArguments} {site : Int} {analysisType : AnalysisType} {period : Period}
    (hcheck : a.check = .ok (site, analysisType, period))
    (hfirst : period.windowStart today = .ok first) {report : TrendReport} :
    ((trend c today a).run server s).result = .ok report ↔
      ∃ body, ((c.items site (trendQuery analysisType first a.groupBy).request).run server
        s).result = .ok body ∧
        ∃ page, Page.ofResponse site (trendQuery analysisType first a.groupBy) (.obj body) =
          .ok page ∧ ∃ analysis, analyze page.records analysisType.name period.name a.groupBy none =
            .ok analysis ∧
            ⟨analysisType, period, first, today, page.records.length, analysis⟩ = report := by
  have hwindow : (period.windowStart today).mapError Failure.date = .ok first := by
    rw [hfirst]
    rfl
  rw [trend, run_of_check hcheck]
  dsimp only
  rw [run_of_check hwindow]
  refine (page_bind_eq_ok_iff c site _ (fun page s => run_calculation _ (fun analysis s => rfl) s)
    s).trans ?_
  simp only [bind_eq_ok_iff, Except.ok.injEq]

/-- How far a weekly series is in time order. -/
structure WeeklyOrder (first today : Date) (records : List Record) (column : String)
    (analysis : TrendAnalysis) : Prop where
  chronological_iff : Chronological records column "week" analysis.series ↔
    ∀ s ∈ moments records column, ∀ t ∈ moments records column, s.Before t →
      InKeyOrder s.date t.date
  chronological_of_window : InKeyOrder first today →
    Chronological records column "week" analysis.series
  comparesHalves : Chronological records column "week" analysis.series →
    ComparesHalves records column "week" analysis

theorem weeklyOrder_of_analyze {first today : Date} (hyear : 1000 ≤ today.year)
    (hwindow : first.ordinal + 7 = today.ordinal) {records : List Record}
    {analysisType : AnalysisType} {groupBy : Option String} {analysis : TrendAnalysis}
    (hwithin : ∀ t ∈ moments records analysisType.dateColumn,
      t.offset = none ∧ first ≤ t.date ∧ t.date ≤ today)
    (hanalyze : analyze records analysisType.name Period.week.name groupBy none = .ok analysis) :
    WeeklyOrder first today records analysisType.dateColumn analysis := by
  obtain ⟨-, hseries, htrend, -⟩ := analyze_eq_ok_iff.1 hanalyze
  have hcolumn : datedBy analysisType.name none = analysisType.dateColumn := by
    cases analysisType <;> rfl
  rw [hcolumn] at hseries
  have hiff := chronological_iff_inKeyOrder hwindow hyear hwithin
  refine ⟨hseries ▸ hiff, fun hends => hseries ▸ hiff.2 fun s hs t ht hbefore => ?_,
    fun h => comparesHalves_of_chronological hseries (hseries ▸ h) htrend⟩
  exact inKeyOrder_of_window hwindow hends (hwithin s hs).2.1 hbefore.date_le (hwithin t ht).2.2

/-- In the window of a week, the keys of moments on one clock are in the order of the moments exactly
within a month and from a year of four digits to the next. Whenever a weekly trend of such moments is
given, its series is in time order exactly if any two of them have their keys in order, as all have
if the ends of the window do; and then the trend compares the later half with the earlier half. -/
theorem trend_weekly_order {today : Date} (hyear : 1000 ≤ today.year) :
    ∃ first, windowStart today "week" = .ok first ∧ first.ordinal + 7 = today.ordinal ∧
      (∀ a b : Timestamp, a.offset = none → b.offset = none → a.Before b →
        first ≤ a.date → a.date ≤ today → first ≤ b.date → b.date ≤ today →
        (bucketKey a.date "week" ≤ bucketKey b.date "week" ↔ InKeyOrder a.date b.date)) ∧
      ∀ {σ : Type} (server : Server σ) (c : Client) (s : σ) (a : TrendArguments) (site : Int)
        (analysisType : AnalysisType) (body : Fields) (report : TrendReport),
        a.check = .ok (site, analysisType, .week) →
        ((c.items site (trendQuery analysisType first a.groupBy).request).run server s).result =
          .ok body →
        (∀ t ∈ moments (Page.listed body) analysisType.dateColumn,
          t.offset = none ∧ first ≤ t.date ∧ t.date ≤ today) →
        ((trend c today a).run server s).result = .ok report →
        report.firstDay = first ∧ report.lastDay = today ∧
          WeeklyOrder first today (Page.listed body) analysisType.dateColumn report.analysis := by
  have hlate : 7 < today.ordinal := by
    have hpast := Date.daysBeforeYear_mono (by decide) (hyear : 1000 ≤ today.year)
    have hyears : Date.daysBeforeYear 1000 = 364877 := rfl
    rw [Date.ordinal]
    omega
  obtain ⟨first, hfirst, hwindow⟩ := Date.exists_windowStart_week hlate
  refine ⟨first, hfirst, hwindow, ?_, ?_⟩
  · intro a b _ _ hbefore hbegin _ _ hend
    exact weekKey_le_iff hbefore.date_le (near_of_window hwindow hbegin hend)
      (year_of_window hwindow hyear hbegin)
  · intro σ server c s a site analysisType body report hcheck hreply hwithin hreport
    obtain ⟨body', hreply', page, hpage, analysis, hanalyze, rfl⟩ :=
      (trend_eq_ok_iff hcheck hfirst).1 hreport
    obtain rfl := Except.ok.inj (hreply'.symm.trans hreply)
    rw [Page.records_of_ofResponse hpage] at hanalyze
    exact ⟨rfl, rfl, weeklyOrder_of_analyze hyear hwindow hwithin hanalyze⟩

/-- Four issues around the turn of a year, more of them in January. -/
theorem trend_weekly_order_over_new_year :
    let today : Date := ⟨2024, 1, 3, by decide⟩
    let first : Date := ⟨2023, 12, 27, by decide⟩
    let december : Timestamp := { date := ⟨2023, 12, 28, by decide⟩ }
    let january : Timestamp := { date := ⟨2024, 1, 2, by decide⟩ }
    let c : Client := { base := {}, apiKey := "key" }
    let a : TrendArguments :=
      { site := .int 1, analysisType := .str "creation", period := .str "week" }
    let text := "\x7b\"Response\":\x7b\"Data\":[\x7b\"CreatedTime\":\"2024-01-02\"\x7d," ++
      "\x7b\"CreatedTime\":\"2023-12-28\"\x7d,\x7b\"CreatedTime\":null\x7d," ++
      "\x7b\"CreatedTime\":\"2023/12/30\"\x7d,\x7b\"CreatedTime\":\"2024-01-02\"\x7d]\x7d\x7d"
    let server : Server Unit := fun _ _ => (.response { body := text.toList.map Char.toUInt8 }, ())
    1000 ≤ today.year ∧ windowStart today "week" = .ok first ∧ InKeyOrder first today ∧
      (december.offset = none ∧ january.offset = none ∧ december.Before january ∧
        first ≤ december.date ∧ december.date ≤ today ∧ first ≤ january.date ∧
        january.date ≤ today ∧
        (bucketKey december.date "week" ≤ bucketKey january.date "week" ↔
          InKeyOrder december.date january.date)) ∧
      ∃ body report, a.check = .ok (1, .creation, .week) ∧
        ((c.items 1 (trendQuery .creation first none).request).run server ()).result = .ok body ∧
        (december ∈ moments (Page.listed body) "CreatedTime" ∧
          ∀ t ∈ moments (Page.listed body) "CreatedTime",
            t.offset = none ∧ first ≤ t.date ∧ t.date ≤ today) ∧
        ((trend c today a).run server ()).result = .ok report ∧
        (report.firstDay = first ∧ report.lastDay = today ∧
          WeeklyOrder first today (Page.listed body) "CreatedTime" report.analysis) ∧
        report.analysis.series = [⟨"2023-W4", 1⟩, ⟨"2023-W5", 1⟩, ⟨"2024-W1", 2⟩] ∧
        report.analysis.trend.increasing = true := by
  intro today first december january c a text server
  have hreply : (((c.items 1 (trendQuery .creation first none).request).run server ()).result.map
      fun body => (moments (Page.listed body) "CreatedTime",
        (Page.ofResponse 1 (trendQuery .creation first none) (.obj body)).toOption.isSome,
        (summarize "all" (Page.listed body)).toOption.isSome)).toOption =
      some ([january, december, { date := ⟨2023, 12, 30, by decide⟩ }, january], true, true) := by
    decide +kernel
  have htrend : ((Trend.of [1, 1, 2]).map Trend.increasing).toOption = some true := by
    decide +kernel
  obtain ⟨body, hbody, hview⟩ := exists_ok_of_toOption_map hreply
  obtain ⟨shape, hshape, hincreasing⟩ := exists_ok_of_toOption_map htrend
  obtain ⟨hmoments, hview⟩ := Prod.mk.inj hview
  obtain ⟨hpage, hsummary⟩ := Prod.mk.inj hview
  obtain ⟨page, hpage⟩ := exists_ok_of_isSome hpage
  obtain ⟨summary, hsummary⟩ := exists_ok_of_isSome hsummary
  have hwithin : ∀ t ∈ moments (Page.listed body) "CreatedTime",
      t.offset = none ∧ first ≤ t.date ∧ t.date ≤ today := by
    rw [hmoments]
    decide
  have hseries : series (Page.listed body) "CreatedTime" "week" =
      [⟨"2023-W4", 1⟩, ⟨"2023-W5", 1⟩, ⟨"2024-W1", 2⟩] := by
    refine series_eq_of_sorted _ _ _ (by decide +kernel) ?_
    rw [bucketCounts_eq_moments, hmoments]
    decide +kernel
  have hgroups : List.Forall₂ (fun group summary => summarize group.1 group.2 = .ok summary)
      (groupsOf (Page.listed body) none) [summary] := by
    rw [groupsOf_none]
    exact .cons hsummary .nil
  obtain ⟨analysis, hanalyze, hpoints, hincreasing⟩ : ∃ analysis,
      analyze (Page.listed body) "creation" "week" none none = .ok analysis ∧
      analysis.series = [⟨"2023-W4", 1⟩, ⟨"2023-W5", 1⟩, ⟨"2024-W1", 2⟩] ∧
      analysis.trend.increasing = true :=
    ⟨⟨[summary], [⟨"2023-W4", 1⟩, ⟨"2023-W5", 1⟩, ⟨"2024-W1", 2⟩], shape⟩,
      analyze_eq_ok_iff.2 ⟨areNamed_none _, hseries.symm, hshape, hgroups⟩, rfl, hincreasing⟩
  rw [← Page.records_of_ofResponse hpage] at hanalyze
  have hstart : Period.week.windowStart today = .ok first := by decide +kernel
  have hcheck : a.check = .ok (1, .creation, .week) := rfl
  have hreport : ((trend c today a).run server ()).result =
      .ok ⟨.creation, .week, first, today, page.records.length, analysis⟩ :=
    (trend_eq_ok_iff hcheck hstart).2 ⟨body, hbody, page, hpage, analysis, hanalyze, rfl⟩
  obtain ⟨start, hstart', -, hkeys, hordered⟩ := trend_weekly_order (by decide : 1000 ≤ today.year)
  obtain rfl := Except.ok.inj (hstart'.symm.trans hstart)
  refine ⟨by decide, hstart, by decide, ⟨rfl, rfl, by decide, by decide, by decide, by decide,
    by decide, hkeys december january rfl rfl (by decide) (by decide) (by decide) (by decide)
      (by decide)⟩, body, _, hcheck, hbody, ⟨?_, hwithin⟩, hreport,
    hordered server c () a 1 .creation body _ hcheck hbody hwithin hreport, hpoints, hincreasing⟩
  rw [hmoments]
  decide

/-- One moment at the end of January and three in February: the key of February comes first, so the
trend does not increase. -/
theorem weekKey_out_of_order :
    let today : Date := ⟨2024, 2, 5, by decide⟩
    let first : Date := ⟨2024, 1, 29, by decide⟩
    let a : Timestamp := { date := ⟨2024, 1, 31, by decide⟩ }
    let b : Timestamp := { date := ⟨2024, 2, 1, by decide⟩ }
    let records := ["2024-01-31", "2024-02-01", "2024-02-02", "2024-02-03"].map fun time =>
      Record.mk [("CreatedTime", .str time)]
    (1000 ≤ today.year ∧ windowStart today "week" = .ok first ∧
      a.offset = none ∧ b.offset = none ∧ a.Before b ∧
      first ≤ a.date ∧ a.date ≤ today ∧ first ≤ b.date ∧ b.date ≤ today ∧
      ¬ bucketKey a.date "week" ≤ bucketKey b.date "week") ∧
    ∃ analysis, analyze records "creation" "week" none none = .ok analysis ∧
      analysis.series = [⟨"2024-W1", 3⟩, ⟨"2024-W5", 1⟩] ∧ analysis.trend.increasing = false := by
  intro today first a b records
  have hseries : series records "CreatedTime" "week" = [⟨"2024-W1", 3⟩, ⟨"2024-W5", 1⟩] :=
    series_eq_of_sorted _ _ _ (by decide +kernel) (by decide +kernel)
  have htrend : ((Trend.of [3, 1]).map Trend.increasing).toOption = some false := by
    decide +kernel
  have hgroups : (((groupsOf records none).mapM fun group =>
      summarize group.1 group.2).map fun _ => ()).toOption = some () := by decide +kernel
  obtain ⟨trend, htrend, hincreasing⟩ := exists_ok_of_toOption_map htrend
  obtain ⟨groups, hgroups, -⟩ := exists_ok_of_toOption_map hgroups
  have hanalyze : analyze records "creation" "week" none none =
      .ok ⟨groups, [⟨"2024-W1", 3⟩, ⟨"2024-W5", 1⟩], trend⟩ :=
    analyze_eq_ok_iff.2
      ⟨areNamed_none records, hseries.symm, htrend, mapM_eq_ok_iff.1 hgroups⟩
  refine ⟨⟨by decide, by decide +kernel, rfl, rfl, by decide, by decide, by decide, by decide,
    by decide, by decide +kernel⟩, _, hanalyze, rfl, hincreasing⟩

end IssueGateway.Operation
