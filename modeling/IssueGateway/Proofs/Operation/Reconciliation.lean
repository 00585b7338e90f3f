import IssueGateway.Operation.Analysis
import IssueGateway.Proofs.Page
import IssueGateway.Proofs.Stats.Overview

/-!
# A summary adds up

The overview of a summary goes over the records, and its groups were made in a pass of their own.
For every listing the two agree with each other and with the rows that the remote sent
(`statusSummary_reconciles`).
-/

namespace IssueGateway

open Json Remote

namespace Page

theorem isSome_record? (row : Value) : (record? row).isSome = (row.kind == .object) := by
  cases row with
  | num n => cases n <;> rfl
  | _ => rfl

theorem eq_obj_of_record? {row : Value} {r : Record} (h : record? row = some r) :
    row = .obj r.columns := by
  cases row with
  | obj fields =>
    obtain rfl := Option.some.inj h
    rfl
  | _ => cases h

/-- Rows that are no objects have no status. -/
theorem isCompleted_record? (row : Value) :
    ((record? row).map Record.isCompleted).getD false =
      Record.isNumber (row.field "Status") Record.completedStatus := by
  cases row <;> rfl

theorem length_filterMap_record? (rows : List Value) :
    (rows.filterMap record?).length = rows.countP (·.kind == .object) := by
  rw [List.length_filterMap_eq_countP]
  exact List.countP_congr fun row _ => by rw [isSome_record?]

theorem countP_filterMap_record? (rows : List Value) :
    (rows.filterMap record?).countP Record.isCompleted =
      rows.countP fun row => Record.isNumber (row.field "Status") Record.completedStatus := by
  rw [List.countP_filterMap]
  exact List.countP_congr fun row _ => by rw [← isCompleted_record?]

theorem exists_rows_of_kind {body : Fields}
    (h : ((Fields.get body "Response").field "Data").kind = .list) :
    ∃ fields rows, Fields.get body "Response" = .obj fields ∧
      Fields.get fields "Data" = .arr rows := by
  cases hresponse : Fields.get body "Response" with
  | obj fields =>
    rw [hresponse, Value.field] at h
    cases hdata : Fields.get fields "Data" with
    | arr rows => exact ⟨fields, rows, rfl, hdata⟩
    | num n => cases n <;> rw [hdata] at h <;> cases h
    | _ => rw [hdata] at h; cases h
  | _ => rw [hresponse] at h; cases h

theorem hasWholeWork_of_rows {rows : List Value}
    (h : ∀ row ∈ rows, ∀ x, row.field "WorkValue" ≠ .num (.float x)) :
    ∀ r ∈ rows.filterMap record?, Stats.HasWholeWork r := by
  intro r hr x hvalue
  obtain ⟨row, hrow, hrecord⟩ := List.mem_filterMap.1 hr
  refine h row hrow x ?_
  rw [eq_obj_of_record? hrecord]
  change r.get "WorkValue" = _
  rw [Record.workValue?, Record.number?] at hvalue
  split at hvalue
  · rename_i n hget
    rw [hget, Option.some.inj hvalue]
  · cases hvalue

end Page

namespace Operation

open Stats

/-- How the numbers of a summary hang together with each other and with the rows that it is made
of. -/
structure Reconciles (s : Summary) (rows : List Value) : Prop where
  total_eq : s.total = rows.countP (·.kind == .object)
  total_counts : total (s.groups.map (·.2.count)) = s.total
  total_rows : total (s.groups.map (·.2.rows.length)) = s.total
  /-- The groups that are counted have different keys. -/
  groupCount_eq : s.groupCount = s.groups.length
  distinct : s.groups.keys.Pairwise fun g h => (h == g) = false
  total_completed : s.overview.totalCompleted = total (s.groups.map (·.2.completedCount))
  completed_eq : s.overview.totalCompleted =
    rows.countP fun row => Record.isNumber (row.field "Status") 900
  completionRate?_eq_none_iff : s.completionRate? = none ↔ s.total = 0
  /-- Work in integers, or no number at all, adds up. -/
  sum_work : (∀ row ∈ rows, ∀ x, row.field "WorkValue" ≠ .num (.float x)) →
    Number.sum (s.groups.map (·.2.totalWork)) = .ok s.overview.totalWork

theorem reconciles_of_aggregate {rows : List Value} {groupBy : GroupBy}
    {groups : Assoc GroupKey GroupStats} {totals : Overview}
    (hgroups : aggregate (rows.filterMap Page.record?) groupBy.select = .ok groups)
    (htotals : overview (rows.filterMap Page.record?) groups = .ok totals) :
    Reconciles ⟨groupBy, (rows.filterMap Page.record?).length, groups, totals⟩ rows := by
  obtain ⟨hcounts, hrows⟩ := total_over_groups hgroups
  obtain ⟨hcompleted, hwork, -⟩ := overview_eq_ok_iff.1 htotals
  constructor
  · exact Page.length_filterMap_record? rows
  · exact hcounts
  · exact hrows
  · rfl
  · exact distinct_keys_of_aggregate hgroups
  · exact hcompleted
  · rw [hcompleted, total_completed_over_groups hgroups]
    exact Page.countP_filterMap_record? rows
  · rw [Summary.completionRate?, isNaN_completionRate htotals]
    cases rows.filterMap Page.record? <;> simp
  · exact fun h => (sum_totalWork hgroups (Page.hasWholeWork_of_rows h)).trans hwork

/-- A summary of a listing, step by step. -/
theorem statusSummary_eq_ok_iff {σ : Type} {server : Server σ} {c : Client} {s : σ}
    {a : SummaryArguments} {site : Int} {groupBy : GroupBy} (hcheck : a.check = .ok (site, groupBy))
    {summary : Summary} :
    ((statusSummary c a).run server s).result = .ok summary ↔
      ∃ body, ((c.items site (Query.Payload.request { limit := analysisLimit })).run server
        s).result = .ok body ∧ ∃ page, Page.ofResponse site { limit := analysisLimit } (.obj body) =
          .ok page ∧ ∃ groups, aggregate page.records groupBy.select = .ok groups ∧
            ∃ totals, overview page.records groups = .ok totals ∧
              ⟨groupBy, page.records.length, groups, totals⟩ = summary := by
  rw [statusSummary, run_of_check hcheck]
  refine (page_bind_eq_ok_iff c site _ (fun page s => run_calculation _ (fun groups s =>
    run_calculation _ (fun totals s => rfl) s) s) s).trans ?_
  simp only [bind_eq_ok_iff, Except.ok.injEq]

/-- Whenever a summary of a listing is given, its total, its groups, its overview and the rows of
the listing agree. -/
theorem statusSummary_reconciles {σ : Type} {server : Server σ} {c : Client} {s : σ}
    {a : SummaryArguments} {site : Int} {groupBy : GroupBy} (hcheck : a.check = .ok (site, groupBy))
    {body fields : Fields} {rows : List Value}
    (hreply : ((c.items site (Query.Payload.request { limit := analysisLimit })).run server
      s).result = .ok body)
    (hresponse : Fields.get body "Response" = .obj fields)
    (hdata : Fields.get fields "Data" = .arr rows) {summary : Summary}
    (hsummary : ((statusSummary c a).run server s).result = .ok summary) :
    summary.groupBy = groupBy ∧ Reconciles summary rows := by
  obtain ⟨body', hreply', page, hpage, groups, hgroups, totals, htotals, rfl⟩ :=
    (statusSummary_eq_ok_iff hcheck).1 hsummary
  obtain rfl := Except.ok.inj (hreply'.symm.trans hreply)
  have hrecords : page.records = rows.filterMap Page.record? := by
    rw [Page.records_of_ofResponse hpage, Page.listed, hresponse, Value.field, hdata]
    rfl
  rw [hrecords] at hgroups htotals ⊢
  exact ⟨rfl, reconciles_of_aggregate hgroups htotals⟩

/-- Two finished issues and an open one, with a row that is no object between them. -/
theorem statusSummary_reconciles_three_issues :
    let c : Client := { base := {}, apiKey := "key" }
    let a : SummaryArguments := { site := .int 1 }
    let text := "\x7b\"Response\":\x7b\"Data\":[\x7b\"Status\":900,\"WorkValue\":5\x7d,[1]," ++
      "\x7b\"Status\":900.0,\"WorkValue\":true\x7d,\x7b\"Status\":100,\"WorkValue\":-2\x7d]\x7d\x7d"
    let server : Server Unit := fun _ _ => (.response { body := text.toList.map Char.toUInt8 }, ())
    ∃ body fields rows summary, a.check = .ok (1, .status) ∧
      ((c.items 1 (Query.Payload.request { limit := analysisLimit })).run server ()).result =
        .ok body ∧ Fields.get body "Response" = .obj fields ∧
      Fields.get fields "Data" = .arr rows ∧
      ((statusSummary c a).run server ()).result = .ok summary ∧
      (summary.groupBy = .status ∧ Reconciles summary rows) ∧
      (summary.total, summary.groupCount, summary.overview.totalCompleted,
        summary.overview.totalWork) = (3, 3, 2, .int 3) := by
  intro c a text server
  have hlisted : ((((c.items 1 (Query.Payload.request { limit := analysisLimit })).run server
      ()).result).map fun body => ((Fields.get body "Response").field "Data").kind).toOption =
        some .list := by decide +kernel
  have hnumbers : ((((statusSummary c a).run server ()).result).map fun summary =>
      (summary.total, summary.groupCount, summary.overview.totalCompleted,
        summary.overview.totalWork)).toOption = some (3, 3, 2, .int 3) := by decide +kernel
  obtain ⟨body, hreply, hkind⟩ := exists_ok_of_toOption_map hlisted
  obtain ⟨fields, rows, hresponse, hdata⟩ := Page.exists_rows_of_kind hkind
  obtain ⟨summary, hsummary, htold⟩ := exists_ok_of_toOption_map hnumbers
  exact ⟨body, fields, rows, summary, rfl, hreply, hresponse, hdata, hsummary,
    statusSummary_reconciles rfl hreply hresponse hdata hsummary, htold⟩

end Operation

end IssueGateway
