import IssueGateway.Proofs.Operation.Traffic

/-!
# Validation

An inquiry is refused just if one of its demands is not met. It is then refused for the first one,
before anything is sent or waited for; and when all are met nothing that happens later counts as a
refusal (`refused_iff`). A refusal shows the value that is at fault. Where this is or has an integer
too long to be written, the inquiry fails at the same point for that and not with a refusal.
-/

namespace IssueGateway.Operation

open Json Remote

def NumberFilters.demands (f : NumberFilters) : List Demand :=
  (f.progressMin.toList ++ f.progressMax.toList).map .progressBound

namespace Inquiry

/-- What is asked of the arguments, in the order in which it is asked. -/
def demands : Inquiry → List Demand
  | .listIssues a =>
    [.id "site_id" a.site, .offset a.offset, .limit 1000 a.limit, .sortOrder a.sortOrder]
  | .getIssue site issue => [.id "site_id" site, .id "issue_id" issue]
  | .search a =>
    [.id "site_id" a.site, .offset a.offset, .limit 1000 a.limit, .sortOrder a.sortOrder] ++
      (a.numberFilters.map NumberFilters.demands).getD []
  | .searchSites a =>
    .siteCount 10 a.sites.length :: a.sites.map (.id "site_ids") ++
      [.someText a.search, .limit 100 a.limit]
  | .trend _ a =>
    [.id "site_id" a.site,
      .choice "analysis_type" ["completion", "creation", "update", "progress"] a.analysisType,
      .choice "period" ["week", "month", "quarter", "year"] a.period]
  | .statusSummary a =>
    [.id "site_id" a.site,
      .choice "group_by" ["status", "assignee", "manager", "classA", "classB"] a.groupBy]

/-- Whether the progress bounds are numbers or truth values; all other arguments may be anything. -/
def IsDeclared : Inquiry → Prop
  | .search a => ∀ f ∈ a.numberFilters, ∀ bound ∈ f.progressMin.toList ++ f.progressMax.toList,
      ∀ s, bound ≠ .text s
  | _ => True

end Inquiry

theorem guards_numberFilters {f : NumberFilters}
    (hdeclared : ∀ bound ∈ f.progressMin.toList ++ f.progressMax.toList, ∀ s, bound ≠ .text s) :
    Guards f.demands f.check := by
  have hloop := Guards.forIn fun bound hbound => guards_checkProgressBound (hdeclared bound hbound)
  exact hloop.bind_ok

theorem not_isRefusal_integerTooLong : ¬ IsRefusal .integerTooLong := by
  simp [IsRefusal, Failure.name]

/-- That a person's id cannot be written is no refusal. -/
theorem not_refused_filters (a : ListArguments) :
    FailsOnly (fun failure => ¬ IsRefusal failure) a.filters := by
  have hperson (column : String) (id : Option Int) :
      FailsOnly (fun failure => ¬ IsRefusal failure) (personFilter column id) := by
    cases id with
    | none => exact .ok []
    | some id =>
      rw [personFilter, Value.write]
      split
      · exact .ok []
      · split
        · exact .ok _
        · exact .error not_isRefusal_integerTooLong
  exact (hperson "Owner" a.assignee).bind fun _ => (hperson "Manager" a.manager).bind fun _ => .ok _

theorem not_refused_requireWritable (f : NumberFilters) :
    FailsOnly (fun failure => ¬ IsRefusal failure) f.requireWritable := by
  rw [NumberFilters.requireWritable]
  split
  · exact .ok ()
  · exact .error not_isRefusal_integerTooLong

/-- Unless a progress bound is a text, the check of an inquiry refuses for its demands only. -/
theorem screens_check {inquiry : Inquiry} (hdeclared : inquiry.IsDeclared) :
    Screens inquiry.demands inquiry.check := by
  cases inquiry with
  | listIssues a =>
    have hcheck : Screens (Inquiry.listIssues a).demands a.check :=
      (guards_checkId "site_id" a.site).bind_screens fun _ =>
        (guards_checkOffset a.offset).bind_screens fun _ =>
          (guards_checkLimit 1000 a.limit).bind_screens fun _ =>
            (guards_checkSortOrder a.sortOrder).bind_later fun _ =>
              (not_refused_filters a).bind fun _ => .ok _
    exact hcheck.bind_ok
  | getIssue site issue =>
    have hlookup : Guards (Inquiry.getIssue site issue).demands (checkLookup site issue) :=
      (guards_checkId "site_id" site).bind fun _ => (guards_checkId "issue_id" issue).bind_ok
    exact hlookup.screens.bind_ok
  | search a =>
    have hbounds : Guards ((a.numberFilters.map NumberFilters.demands).getD [])
        (a.numberFilters.getD {}).check := by
      cases hfilters : a.numberFilters with
      | none => exact .ok ()
      | some f => exact guards_numberFilters (hdeclared f hfilters)
    have hcheck : Screens (Inquiry.search a).demands a.check :=
      (guards_checkId "site_id" a.site).bind_screens fun _ =>
        (guards_checkOffset a.offset).bind_screens fun _ =>
          (guards_checkLimit 1000 a.limit).bind_screens fun _ =>
            (guards_checkSortOrder a.sortOrder).bind_screens fun _ =>
              hbounds.bind_later fun _ => (not_refused_requireWritable _).bind fun _ => .ok _
    exact hcheck.bind_ok
  | searchSites a =>
    have hcheck : Guards (Inquiry.searchSites a).demands a.check := by
      rw [a.check_eq]
      exact (guards_checkSiteCount a.sites).bind fun _ =>
        (Guards.mapM (guards_checkId "site_ids") a.sites).bind fun _ =>
          (guards_checkSomeText a.search).bind fun _ => (guards_checkLimit 100 a.limit).bind_ok
    exact hcheck.screens.bind_ok
  | trend today a =>
    have hcheck : Guards (Inquiry.trend today a).demands a.check :=
      (guards_checkId "site_id" a.site).bind fun _ =>
        (guards_checkChoice "analysis_type" Stats.AnalysisType.all Stats.AnalysisType.name
          a.analysisType).bind fun _ =>
        (guards_checkChoice "period" Calendar.Period.all Calendar.Period.name a.period).bind_ok
    exact hcheck.screens.bind_ok
  | statusSummary a =>
    have hcheck : Guards (Inquiry.statusSummary a).demands a.check :=
      (guards_checkId "site_id" a.site).bind fun _ =>
        (guards_checkChoice "group_by" Stats.GroupBy.all Stats.GroupBy.name a.groupBy).bind_ok
    exact hcheck.screens.bind_ok

section Run

variable {c : Client} {inquiry : Inquiry} (hdeclared : inquiry.IsDeclared) {σ : Type}
  {server : Server σ} {s : σ}

include hdeclared

theorem run_of_refuses {rule : BrokenRule} (hrule : Refuses inquiry.demands rule) :
    (inquiry.call c).run server s = ⟨.error (.ofRule rule), [], s⟩ :=
  run_of_check_eq_error ((screens_check hdeclared).refuses rule hrule) c server s

/-- Nothing behind the check counts as a refusal, so what is refused was refused by the check. -/
theorem unmet_of_refusal
    (hserver : ∀ s request, (server s request).1.BreaksOnly fun failure => ¬ IsRefusal failure)
    {failure : Failure} (hresult : ((inquiry.call c).run server s).result = .error failure)
    (hrefusal : IsRefusal failure) : ∃ demand ∈ inquiry.demands, ¬ demand.Met := by
  by_contra hmet
  push Not at hmet
  have hwithin : (inquiry.call c).Within (IsWellFormed c inquiry)
      (fun failure => ¬ IsRefusal failure) _ :=
    call_within (fun _ hname => hname) ((screens_check hdeclared).admits hmet)
  exact (hwithin.run server hserver s).1 failure hresult hrefusal

/-- Against a remote that does not itself break with a refusal. -/
theorem refused_iff_refuses
    (hserver : ∀ s request, (server s request).1.BreaksOnly fun failure => ¬ IsRefusal failure) :
    (∃ failure, ((inquiry.call c).run server s).result = .error failure ∧ IsRefusal failure) ↔
      ∃ rule, Refuses inquiry.demands rule ∧ rule.isWritable = true := by
  constructor
  · rintro ⟨failure, hresult, hrefusal⟩
    obtain ⟨rule, hrule⟩ :=
      exists_refuses_iff.2 (unmet_of_refusal hdeclared hserver hresult hrefusal)
    rw [run_of_refuses hdeclared hrule] at hresult
    obtain rfl := Except.error.inj hresult
    exact ⟨rule, hrule, isRefusal_ofRule_iff.1 hrefusal⟩
  · rintro ⟨rule, hrule, hwritable⟩
    rw [run_of_refuses hdeclared hrule]
    exact ⟨_, rfl, isRefusal_ofRule_iff.2 hwritable⟩

end Run

/-- A rule is refused for the value in its demand. -/
theorem Refuses.exists_demand {demands : List Demand} {rule : BrokenRule}
    (h : Refuses demands rule) : ∃ demand ∈ demands, demand.rule = rule := by
  induction h with
  | here _ => exact ⟨_, List.mem_cons_self, rfl⟩
  | later _ _ ih =>
    obtain ⟨demand, hmem, hrule⟩ := ih
    exact ⟨demand, List.mem_cons_of_mem _ hmem, hrule⟩

end IssueGateway.Operation
