import IssueGateway.Proofs.MultiSite
import IssueGateway.Proofs.Operation.Inquiry
import IssueGateway.Proofs.Page
import IssueGateway.Proofs.Stats.Existence

/-!
# Failures that no operation announces

A remote that answers in form can still make an operation fail in a way that it does not announce,
as the parts of an accepted reply are taken for what they should be. `fails_unannounced_iff` says
when: just if the reply is no listing, or the statistics of the records in it do not exist. Nothing
of this escapes from a search of many sites. An operation that has nothing to ask for, because of its
arguments or because a number in them cannot be written, fails before the remote can do anything.
-/

namespace IssueGateway

open Json Remote

namespace Operation

open Stats

/-- A page of a site, if the id of the site can be written. -/
def asked (site : Int) (query : Query.Payload) : Except Failure (Option (Int × Query.Payload)) :=
  if (Value.int site).isWritable then .ok (some (site, query)) else .error .integerTooLong

namespace Inquiry

/-- The page that an operation asks for once its arguments are accepted and written. The search of
many sites asks for more than one. -/
def page? : Inquiry → Except Failure (Option (Int × Query.Payload))
  | .listIssues a => do
    let (site, query) ← a.check
    asked site query
  | .getIssue site issue => do
    let (site, issue) ← checkLookup site issue
    let query ← Source.recordQuery issue
    asked site query
  | .search a => do
    let (site, query) ← a.check
    asked site query
  | .searchSites a => do
    let _ ← a.check
    return none
  | .trend today a => do
    let (site, analysisType, period) ← a.check
    let firstDay ← (period.windowStart today).mapError Failure.date
    asked site (trendQuery analysisType firstDay a.groupBy)
  | .statusSummary a => do
    let (site, _) ← a.check
    asked site { limit := analysisLimit }

/-- Whether an accepted reply makes an operation fail. -/
def BreaksOn (body : Fields) : Inquiry → Prop
  | .listIssues _ | .getIssue _ _ | .search _ => Page.isMalformed body = true
  | .searchSites _ => False
  | .trend _ a => Page.isMalformed body = true ∨ ∃ site analysisType period,
      a.check = .ok (site, analysisType, period) ∧
        Unanalyzable analysisType period a.groupBy (Page.listed body)
  | .statusSummary a => Page.isMalformed body = true ∨ ∃ site groupBy,
      a.check = .ok (site, groupBy) ∧ Unsummarizable groupBy (Page.listed body)

end Inquiry

section Operations

variable {σ : Type} {server : Server σ}

/-- The answer to the lookup of an issue. -/
def found (site issue : Int) : Option Record → Except Failure Record
  | some record => .ok record
  | none => .error (.notFound issue site)

theorem asked_eq_ok_iff {site : Int} {query : Query.Payload}
    {page? : Option (Int × Query.Payload)} : asked site query = .ok page? ↔
      (Value.int site).isWritable = true ∧ some (site, query) = page? := by
  rw [asked]
  split <;> simp_all

section Unasked

variable {failure : Failure} {s : σ}

theorem page_of_unasked {c : Client} {site : Int} {query : Query.Payload} {α : Type}
    (h : asked site query = .error failure) (f : Page → Call α) :
    ((source c).page site query >>= f).run server s = ⟨.error failure, [], s⟩ := by
  rw [asked] at h
  split at h
  · cases h
  · next hsite =>
    obtain rfl := Except.error.inj h
    exact Call.run_bind_of_error (page_run_of_not_isWritable c hsite query s) f

/-- What fails before a page is asked for fails a call that goes the same way. -/
theorem run_of_unasked {α β γ : Type} {x : Except Failure α} {page : α → Except Failure γ}
    {f : α → Call β} (h : x >>= page = .error failure)
    (hf : ∀ a, page a = .error failure → (f a).run server s = ⟨.error failure, [], s⟩) :
    ((MonadExcept.ofExcept x : Call α) >>= f).run server s = ⟨.error failure, [], s⟩ := by
  rw [Call.run_ofExcept_bind]
  rcases bind_eq_error_iff.1 h with hx | ⟨a, hx, hpage⟩
  · rw [hx]
  · rw [hx]
    exact hf a hpage

/-- An operation without a page to ask for does nothing but fail. -/
theorem run_of_no_page {inquiry : Inquiry} (h : inquiry.page? = .error failure) (c : Client) :
    (inquiry.call c).run server s = ⟨.error failure, [], s⟩ := by
  have hpage {site : Int} {query : Query.Payload} (h : asked site query = .error failure) :
      ((source c).page site query).run server s = ⟨.error failure, [], s⟩ := by
    rw [← bind_pure ((source c).page site query)]
    exact page_of_unasked h pure
  cases inquiry with
  | listIssues a =>
    apply Call.run_map_of_error
    exact run_of_unasked h fun _ => hpage
  | getIssue site issue =>
    apply Call.run_map_of_error
    refine run_of_unasked h fun _ h => ?_
    simp only [Source.record?, bind_assoc, pure_bind]
    exact run_of_unasked h fun _ h => page_of_unasked h _
  | search a =>
    apply Call.run_map_of_error
    exact run_of_unasked h fun _ => hpage
  | searchSites a =>
    apply Call.run_map_of_error
    refine run_of_unasked h fun _ h => ?_
    cases h
  | trend today a =>
    apply Call.run_map_of_error
    refine run_of_unasked h fun _ h => ?_
    exact run_of_unasked h fun _ h => page_of_unasked h _
  | statusSummary a =>
    apply Call.run_map_of_error
    exact run_of_unasked h fun _ h => page_of_unasked h _

end Unasked

variable (hplain : ∀ s request, (server s request).1.IsPlain) (c : Client) {site : Int}
  (hsite : (Value.int site).isWritable = true) (s : σ)

include hplain hsite

theorem listIssues_fails_iff {a : ListArguments} {query : Query.Payload}
    (hcheck : a.check = .ok (site, query)) :
    (∃ failure, ((listIssues c a).run server s).result = .error failure ∧
      ¬ failure.IsAnnounced) ↔
    ∃ body, ((c.items site query.request).run server s).result = .ok body ∧
      Page.isMalformed body = true := by
  rw [listIssues, run_of_check hcheck]
  exact page_fails_iff_isMalformed hplain c hsite query s

theorem search_fails_iff {a : SearchArguments} {query : Query.Payload}
    (hcheck : a.check = .ok (site, query)) :
    (∃ failure, ((search c a).run server s).result = .error failure ∧ ¬ failure.IsAnnounced) ↔
    ∃ body, ((c.items site query.request).run server s).result = .ok body ∧
      Page.isMalformed body = true := by
  rw [search, run_of_check hcheck]
  exact page_fails_iff_isMalformed hplain c hsite query s

/-- That an issue does not exist is announced. -/
theorem getIssue_fails_iff {givenSite givenIssue : Value} {issue : Int} {query : Query.Payload}
    (hcheck : checkLookup givenSite givenIssue = .ok (site, issue))
    (hquery : Source.recordQuery issue = .ok query) :
    (∃ failure, ((getIssue c givenSite givenIssue).run server s).result = .error failure ∧
      ¬ failure.IsAnnounced) ↔
    ∃ body, ((c.items site query.request).run server s).result = .ok body ∧
      Page.isMalformed body = true := by
  rw [getIssue, run_of_check hcheck]
  simp only [Source.record?, bind_assoc, pure_bind]
  rw [run_of_check hquery]
  refine (page_fails_unannounced_iff hplain c hsite query s
    (fun page => found site issue page.records.head?) _ ?_ (fun _ => False) ?_).trans ?_
  · intro page s
    cases page.records.head? <;> rfl
  · intro page
    cases page.records.head? <;> simp [found, Failure.IsAnnounced, Failure.name]
  · simp only [or_false]

theorem trend_fails_iff {today firstDay : Calendar.Date} {a : TrendArguments}
    {analysisType : AnalysisType} {period : Calendar.Period}
    (hcheck : a.check = .ok (site, analysisType, period))
    (hwindow : (period.windowStart today).mapError Failure.date = .ok firstDay) :
    (∃ failure, ((trend c today a).run server s).result = .error failure ∧
      ¬ failure.IsAnnounced) ↔
    ∃ body, ((c.items site (trendQuery analysisType firstDay a.groupBy).request).run server
        s).result = .ok body ∧
      (Page.isMalformed body = true ∨
        Unanalyzable analysisType period a.groupBy (Page.listed body)) := by
  rw [trend, run_of_check hcheck]
  simp only
  rw [run_of_check hwindow]
  refine page_fails_unannounced_iff hplain c hsite _ s _ _
    (fun page s => run_calculation _ (fun analysis s => rfl) s) _ fun page => ?_
  have hanalyze := unannounced_analyze page.records analysisType.name period.name a.groupBy none
  rw [unannounced_iff (hanalyze.bind fun _ => .ok _), not_iff_comm, ← exists_analyze_iff]
  simp only [bind_eq_ok_iff]
  exact ⟨fun ⟨analysis, h⟩ => ⟨_, analysis, h, rfl⟩, fun ⟨_, analysis, h, _⟩ => ⟨analysis, h⟩⟩

theorem statusSummary_fails_iff {a : SummaryArguments} {groupBy : GroupBy}
    (hcheck : a.check = .ok (site, groupBy)) :
    (∃ failure, ((statusSummary c a).run server s).result = .error failure ∧
      ¬ failure.IsAnnounced) ↔
    ∃ body, ((c.items site (Query.Payload.request { limit := analysisLimit })).run server
        s).result = .ok body ∧
      (Page.isMalformed body = true ∨ Unsummarizable groupBy (Page.listed body)) := by
  rw [statusSummary, run_of_check hcheck]
  refine page_fails_unannounced_iff hplain c hsite _ s _ _
    (fun page s => run_calculation _ (fun groups s =>
      run_calculation _ (fun totals s => rfl) s) s) _ fun page => ?_
  have haggregate := unannounced_aggregate page.records groupBy.select
  rw [unannounced_iff (haggregate.bind fun groups =>
    (unannounced_overview page.records groups).bind fun _ => .ok _), not_iff_comm,
    ← exists_summary_iff]
  simp only [bind_eq_ok_iff]
  exact ⟨fun ⟨groups, hgroups, totals, htotals⟩ => ⟨_, groups, hgroups, totals, htotals, rfl⟩,
    fun ⟨_, groups, hgroups, totals, htotals, _⟩ => ⟨groups, hgroups, totals, htotals⟩⟩

omit hplain hsite in
/-- Whatever the sites reply, the search of many sites does not fail. -/
theorem searchSites_result {a : MultiSiteArguments} {asked : List Int × Int}
    (hcheck : a.check = .ok asked) :
    ∃ report, ((searchSites c a).run server s).result = .ok report := by
  rw [searchSites, run_of_check hcheck]
  obtain ⟨_, last, hreport, -⟩ := search_run_interleaved server c asked.1 a.search asked.2 s
  exact ⟨reportOf a.search last, hreport⟩

end Operations

section Inquiries

variable {body : Fields}

theorem trend_breaksOn_iff {today : Calendar.Date} {a : TrendArguments} {site : Int}
    {analysisType : AnalysisType} {period : Calendar.Period}
    (hcheck : a.check = .ok (site, analysisType, period)) :
    (Inquiry.trend today a).BreaksOn body ↔
      Page.isMalformed body = true ∨
        Unanalyzable analysisType period a.groupBy (Page.listed body) := by
  refine or_congr_right ⟨?_, fun h => ⟨site, analysisType, period, hcheck, h⟩⟩
  rintro ⟨_, _, _, hcheck', h⟩
  cases hcheck.symm.trans hcheck'
  exact h

theorem statusSummary_breaksOn_iff {a : SummaryArguments} {site : Int} {groupBy : GroupBy}
    (hcheck : a.check = .ok (site, groupBy)) :
    (Inquiry.statusSummary a).BreaksOn body ↔
      Page.isMalformed body = true ∨ Unsummarizable groupBy (Page.listed body) := by
  refine or_congr_right ⟨?_, fun h => ⟨site, groupBy, hcheck, h⟩⟩
  rintro ⟨_, _, hcheck', h⟩
  cases hcheck.symm.trans hcheck'
  exact h

/-- There is one page to ask for. -/
theorem exists_asked_iff {site : Int} {query : Query.Payload}
    {p : Int → Query.Payload → Fields → Prop} :
    (∃ site' query' body, some (site, query) = some (site', query') ∧ p site' query' body) ↔
      ∃ body, p site query body := by
  simp only [Option.some.injEq, Prod.mk.injEq]
  constructor
  · rintro ⟨_, _, body, ⟨rfl, rfl⟩, h⟩
    exact ⟨body, h⟩
  · rintro ⟨body, h⟩
    exact ⟨site, query, body, ⟨rfl, rfl⟩, h⟩

/-- An operation that knows what to ask for fails unannounced when the accepted reply breaks it. -/
theorem fails_iff_breaksOn {σ : Type} (c : Client) {server : Server σ}
    (hplain : ∀ s request, (server s request).1.IsPlain) (s : σ) {inquiry : Inquiry}
    {page? : Option (Int × Query.Payload)} (haccepted : inquiry.page? = .ok page?) :
    (∃ failure, ((inquiry.call c).run server s).result = .error failure ∧
        ¬ failure.IsAnnounced) ↔
      ∃ site query body, page? = some (site, query) ∧
        ((c.items site query.request).run server s).result = .ok body ∧
        inquiry.BreaksOn body := by
  cases inquiry with
  | listIssues a =>
    obtain ⟨⟨site, query⟩, hcheck, hasked⟩ := bind_eq_ok_iff.1 haccepted
    obtain ⟨hsite, rfl⟩ := asked_eq_ok_iff.1 hasked
    simp only [Inquiry.call, Call.result_map_eq_error_iff, exists_asked_iff]
    exact listIssues_fails_iff hplain c hsite s hcheck
  | getIssue givenSite givenIssue =>
    obtain ⟨⟨site, issue⟩, hcheck, hrest⟩ := bind_eq_ok_iff.1 haccepted
    obtain ⟨query, hquery, hasked⟩ := bind_eq_ok_iff.1 hrest
    obtain ⟨hsite, rfl⟩ := asked_eq_ok_iff.1 hasked
    simp only [Inquiry.call, Call.result_map_eq_error_iff, exists_asked_iff]
    exact getIssue_fails_iff hplain c hsite s hcheck hquery
  | search a =>
    obtain ⟨⟨site, query⟩, hcheck, hasked⟩ := bind_eq_ok_iff.1 haccepted
    obtain ⟨hsite, rfl⟩ := asked_eq_ok_iff.1 hasked
    simp only [Inquiry.call, Call.result_map_eq_error_iff, exists_asked_iff]
    exact search_fails_iff hplain c hsite s hcheck
  | searchSites a =>
    obtain ⟨asked, hcheck, -⟩ := bind_eq_ok_iff.1 haccepted
    have hresult : ∃ report, ((searchSites c a).run server s).result = .ok report :=
      searchSites_result c s hcheck
    obtain ⟨report, hreport⟩ := hresult
    refine iff_of_false ?_ fun ⟨_, _, _, _, _, hbreaks⟩ => hbreaks
    rintro ⟨failure, hfails, -⟩
    rw [Inquiry.call, Call.result_map_eq_error_iff, hreport] at hfails
    cases hfails
  | trend today a =>
    obtain ⟨⟨site, analysisType, period⟩, hcheck, hrest⟩ := bind_eq_ok_iff.1 haccepted
    obtain ⟨firstDay, hwindow, hasked⟩ := bind_eq_ok_iff.1 hrest
    obtain ⟨hsite, rfl⟩ := asked_eq_ok_iff.1 hasked
    simp only [Inquiry.call, Call.result_map_eq_error_iff, exists_asked_iff,
      trend_breaksOn_iff hcheck]
    exact trend_fails_iff hplain c hsite s hcheck hwindow
  | statusSummary a =>
    obtain ⟨⟨site, groupBy⟩, hcheck, hasked⟩ := bind_eq_ok_iff.1 haccepted
    obtain ⟨hsite, rfl⟩ := asked_eq_ok_iff.1 hasked
    simp only [Inquiry.call, Call.result_map_eq_error_iff, exists_asked_iff,
      statusSummary_breaksOn_iff hcheck]
    exact statusSummary_fails_iff hplain c hsite s hcheck

end Inquiries

/-- Against a remote that replies in whatever way, as long as every request gets a reply: an
operation that has no page to ask for, be it for its arguments or for a number in them that cannot
be written, fails for just this and sends nothing; any other fails without having announced it
exactly when the reply that it accepts breaks it. (Values of any depth count as readable; a bound on
nesting would be one of the machine.) -/
theorem fails_unannounced_iff {σ : Type} (c : Client) (server : Server σ)
    (hplain : ∀ s request, (server s request).1.IsPlain) (s : σ) (inquiry : Inquiry) :
    (∀ failure, inquiry.page? = .error failure →
      (inquiry.call c).run server s = ⟨.error failure, [], s⟩) ∧
    ∀ page?, inquiry.page? = .ok page? →
      ((∃ failure, ((inquiry.call c).run server s).result = .error failure ∧
          ¬ failure.IsAnnounced) ↔
        ∃ site query body, page? = some (site, query) ∧
          ((c.items site query.request).run server s).result = .ok body ∧
          inquiry.BreaksOn body) :=
  ⟨fun _ h => run_of_no_page h c, fun _ h => fails_iff_breaksOn c hplain s h⟩

/-- A remote whose every reply has a list where the listing should be. -/
theorem fails_unannounced_on_list :
    let c : Client := { base := {}, apiKey := "key" }
    let server : Server Unit := fun _ _ =>
      (.response { body := "\x7b\"Response\":[1]\x7d".toList.map Char.toUInt8 }, ())
    let inquiry : Inquiry := .listIssues { site := .int 1 }
    (∀ s request, (server s request).1.IsPlain) ∧
      inquiry.page? = .ok (some (1, { limit := 50 })) ∧
      ∃ failure, ((inquiry.call c).run server ()).result = .error failure ∧
        ¬ failure.IsAnnounced := by
  intro c server inquiry
  have hplain : ∀ s request, (server s request).1.IsPlain := fun _ _ => trivial
  have hpage : inquiry.page? = .ok (some (1, { limit := 50 })) := rfl
  have hmalformed : (((c.items 1 (Query.Payload.request { limit := 50 })).run server ()).result.map
      Page.isMalformed).toOption = some true := by
    decide +kernel
  obtain ⟨body, hpost, hmalformed⟩ := exists_ok_of_toOption_map hmalformed
  exact ⟨hplain, hpage, ((fails_unannounced_iff c server hplain () inquiry).2 _ hpage).2
    ⟨1, { limit := 50 }, body, rfl, hpost, hmalformed⟩⟩

end Operation

end IssueGateway
