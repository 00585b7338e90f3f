import IssueGateway.MultiSite
import IssueGateway.Proofs.Listing
import IssueGateway.Proofs.Remote.Interleaving

/-!
# Isolation of the sites of a search

The search of a site is the listing of that site with its outcome written down as an entry, so it
always comes to an entry (`searchSite_run`). Since a call among others does what it does alone, the
entries of many sites going on together are those of each site by itself, in whatever order things
happen. The search as it runs, one site after the other, is one of those orders.
-/

namespace IssueGateway

open Remote Operation

theorem Failure.report_eq (failure : Failure) :
    failure.report = if failure.message = "" then failure.name.text else failure.message := by
  simp only [report, String.isEmpty_iff]

/-- Every failure can be told in words. -/
theorem Failure.report_ne_empty (failure : Failure) : failure.report ≠ "" := by
  rw [report_eq]
  split
  · exact failure.name.text_ne_empty
  · assumption

namespace SiteResult

/-- What an entry says about the listing of its site. -/
def Tells (entry : SiteResult) : Except Failure Page → Prop
  | .ok page => entry.isSuccess = true ∧ entry.records = page.records ∧ entry.error? = none
  | .error failure => entry.isSuccess = false ∧ entry.records = [] ∧
      entry.error? = some (if failure.message = "" then failure.name.text else failure.message) ∧
      entry.error? ≠ some ""

theorem ofListing_site (site : Int) (outcome : Except Failure Page) :
    (ofListing site outcome).site = site := by
  cases outcome <;> rfl

theorem ofListing_tells (site : Int) (outcome : Except Failure Page) :
    (ofListing site outcome).Tells outcome := by
  cases outcome with
  | ok page => exact ⟨rfl, rfl, rfl⟩
  | error failure =>
    refine ⟨rfl, rfl, ?_, ?_⟩
    · rw [← failure.report_eq]
      rfl
    · intro hempty
      exact failure.report_ne_empty (Option.some.inj hempty)

end SiteResult

section Search

variable {σ : Type} (server : Server σ) (c : Client) (query : Query.Payload)

/-- The search of a site does what its listing does and ends with the entry of the outcome. -/
theorem searchSite_run (site : Int) (s : σ) :
    ((source c).searchSite query site).run server s =
      (((source c).page site query).run server s).mapResult
        fun outcome => .ok (.ofListing site outcome) := by
  have hanswer := Call.run_tryCatch_pure server
    (do let page ← (source c).page site query; return ⟨site, .ok page.records⟩)
    (fun failure => SiteResult.mk site (.error failure.report)) s
  rw [Call.run_bind_return] at hanswer
  rw [Source.searchSite, hanswer]
  cases hresult : (((source c).page site query).run server s).result <;>
    simp [Run.mapResult, hresult, Except.map, SiteResult.ofListing]

/-- The searches of some sites before any of them has begun. -/
def searchPool (sites : List Int) : List (Errand SiteResult) :=
  sites.map fun site => .ready ((source c).searchSite query site)

/-- The searches of some sites when all of them have come to their entries. -/
def finishedPool (entries : List SiteResult) : List (Errand SiteResult) :=
  entries.map fun entry => .ready (.done (.ok entry))

/-- The report of the searches of some sites, from where they stand when all have come to an end. -/
def reportOf (term : String) (pool : List (Errand SiteResult)) : SearchReport :=
  .ofEntries term (pool.filterMap Errand.answer?)

theorem reportOf_finishedPool (term : String) (entries : List SiteResult) :
    reportOf term (finishedPool entries) = .ofEntries term entries := by
  rw [reportOf, finishedPool, List.filterMap_map]
  exact congrArg (SearchReport.ofEntries term) List.filterMap_some

theorem isDone_finishedPool {entries : List SiteResult} :
    ∀ errand ∈ finishedPool entries, errand.IsDone := by
  intro errand herrand
  obtain ⟨entry, _, rfl⟩ := List.mem_map.1 herrand
  exact ⟨_, rfl⟩

/-- The listing of a site alone with the replies that its search was given in a history. -/
def listedAlone (history : History) (i : Nat) (site : Int) : Run Page (List Reply) :=
  ((source c).page site query).run queueServer (delivered (movesOf i history))

/-- The entries to which the searches of some sites come in a history. -/
def entriesOf (history : History) (sites : List Int) : List SiteResult :=
  sites.mapIdx fun i site => .ofListing site (listedAlone c query history i site).result

variable {c query} {sites : List Int} {history : History} {last : List (Errand SiteResult)}

/-- One search among the others, seen alone. -/
theorem search_run_alone (hrun : PoolRun (searchPool c query sites) history last)
    (hdone : ∀ errand ∈ last, errand.IsDone) {i : Nat} {site : Int}
    (hsite : sites[i]? = some site) :
    last[i]? = some (.ready (.done (.ok
        (.ofListing site (listedAlone c query history i site).result)))) ∧
      (listedAlone c query history i site).events = seen (movesOf i history) ∧
      (listedAlone c query history i site).state = [] := by
  have hcall : (searchPool c query sites)[i]? =
      some (.ready ((source c).searchSite query site)) := by
    rw [searchPool, List.getElem?_map, hsite]
    rfl
  obtain ⟨result, hlast, halone⟩ := hrun.run_alone hdone hcall
  rw [searchSite_run, Run.mapResult] at halone
  obtain ⟨hresult, hevents, hstate⟩ := Run.mk.inj halone
  exact ⟨hresult ▸ hlast, hevents, hstate⟩

/-- When all searches have come to an end they stand at their entries. -/
theorem search_run_finished (hrun : PoolRun (searchPool c query sites) history last)
    (hdone : ∀ errand ∈ last, errand.IsDone) :
    last = finishedPool (entriesOf c query history sites) := by
  apply List.ext_getElem?
  intro i
  rw [finishedPool, entriesOf, List.getElem?_map, List.getElem?_mapIdx]
  cases hsite : sites[i]? with
  | none =>
    have hlength := hrun.errand_run.1
    rw [searchPool, List.length_map] at hlength
    have houtside : last.length ≤ i := hlength ▸ List.getElem?_eq_none_iff.1 hsite
    exact List.getElem?_eq_none houtside
  | some site => exact (search_run_alone hrun hdone hsite).1

theorem length_entriesOf : (entriesOf c query history sites).length = sites.length := by
  rw [entriesOf, List.length_mapIdx]

end Search

/-- What a finished search of many sites reports. -/
structure Reports (c : Client) (sites : List Int) (term : String) (perSiteLimit : Int)
    (history : History) (report : SearchReport) : Prop where
  asked : report.term = term
  length : report.sites.length = sites.length
  /-- Each entry is that of its site by itself: of the listing alone with the replies that came to
  this site's search, which made no other moves than that listing makes. -/
  entry : ∀ (i : Nat) (site : Int), sites[i]? = some site → ∃ entry, report.sites[i]? = some entry ∧
    entry.site = site ∧
    let alone := ((source c).page site (Source.searchQuery term perSiteLimit)).run queueServer
      (delivered (movesOf i history))
    entry.Tells alone.result ∧ alone.events = seen (movesOf i history) ∧ alone.state = [] ∧
      (requests (seen (movesOf i history))).length ≤ c.retry.retries.toNat + 1
  totalSites : report.totalSites = sites.length
  successfulSites : report.successfulSites = (report.sites.filter (·.isSuccess)).length
  totalResults : report.totalResults = (report.sites.map fun entry => entry.records.length).sum
  sitesWithResults : report.sitesWithResults =
    (report.sites.filter fun entry => entry.records ≠ []).length

/-- In whatever order the searches of some sites make their moves and whatever replies they get,
when all have come to an end each has an entry, and in the report of these entries each is that of
its site by itself. -/
theorem search_isolated (c : Client) (sites : List Int) (term : String) (perSiteLimit : Int)
    (history : History) (last : List (Errand SiteResult))
    (hrun : PoolRun (searchPool c (Source.searchQuery term perSiteLimit) sites) history last)
    (hdone : ∀ errand ∈ last, errand.IsDone) :
    last = finishedPool (reportOf term last).sites ∧
      Reports c sites term perSiteLimit history (reportOf term last) := by
  have hlast := search_run_finished hrun hdone
  have hreport : reportOf term last =
      .ofEntries term (entriesOf c (Source.searchQuery term perSiteLimit) history sites) :=
    hlast ▸ reportOf_finishedPool term _
  rw [hreport]
  refine ⟨hlast, rfl, length_entriesOf, ?_, length_entriesOf, ?_, ?_, ?_⟩
  · intro i site hsite
    obtain ⟨_, hevents, hstate⟩ := search_run_alone hrun hdone hsite
    refine ⟨_, ?_, SiteResult.ofListing_site site _, SiteResult.ofListing_tells site _, hevents,
      hstate, ?_⟩
    · rw [SearchReport.ofEntries, entriesOf, List.getElem?_mapIdx, hsite]
      rfl
    · rw [← hevents]
      exact length_requests_page_le queueServer c site _ _
  · exact List.countP_eq_length_filter
  · rfl
  · rw [SearchReport.sitesWithResults, List.countP_eq_length_filter]
    congr 2
    funext entry
    simp only [SiteResult.count, List.length_pos_iff]

/-- One site twice: while the first search waits out a rate limit, the second finds nothing; then
the first breaks down with a failure that says nothing. -/
theorem search_isolated_same_site_twice :
    let c : Client := { base := {}, apiKey := "key", retry := { retries := 1 } }
    let request := c.request (Client.itemsEndpoint 7) (Source.searchQuery "leak" 5).request
    let history : History :=
      [(0, .send request), (1, .send request), (0, .receive (.response { status := 429 })),
        (0, .sleep (.float 1.0)), (1, .receive (.response { body := [0x7b, 0x7d] })), (0, .wake),
        (0, .send request), (0, .receive (.fault (.told (.other "ZeroDivisionError") "" none)))]
    let last := finishedPool [⟨7, .error "ZeroDivisionError"⟩, ⟨7, .ok []⟩]
    PoolRun (searchPool c (Source.searchQuery "leak" 5) [7, 7]) history last ∧
      (∀ errand ∈ last, errand.IsDone) ∧
      (reportOf "leak" last).sites.map SiteResult.error? = [some "ZeroDivisionError", none] ∧
      Reports c [7, 7] "leak" 5 history (reportOf "leak" last) := by
  intro c request history last
  have hrun : PoolRun (searchPool c (Source.searchQuery "leak" 5) [7, 7]) history last := by
    refine .cons (.move rfl (.send _ _)) (.cons (.move rfl (.send _ _)) ?_)
    refine .cons (.move rfl (.receive _ _)) (.cons (.move rfl (.sleep _ _)) ?_)
    refine .cons (.move rfl (.receive _ _)) (.cons (.move rfl (.wake _)) ?_)
    refine .cons (.move rfl (.send _ _)) (.cons (.move rfl (.receive _ _)) ?_)
    exact .nil _
  have hdone : ∀ errand ∈ last, errand.IsDone := isDone_finishedPool
  exact ⟨hrun, hdone, rfl, (search_isolated c [7, 7] "leak" 5 history last hrun hdone).2⟩

/-! ### The search as it runs -/

theorem seen_append (moves others : List Move) :
    seen (moves ++ others) = seen moves ++ seen others :=
  List.filterMap_append

theorem searchSites_cons_run {σ : Type} (server : Server σ) (c : Client) (query : Query.Payload)
    (site : Int) (rest : List Int) (s : σ) {entry : SiteResult}
    (hentry : (((source c).searchSite query site).run server s).result = .ok entry) :
    ((source c).searchSites query (site :: rest)).run server s =
      let first := ((source c).searchSite query site).run server s
      let others := ((source c).searchSites query rest).run server first.state
      ⟨others.result.map (entry :: ·), first.events ++ others.events, others.state⟩ := by
  rw [Source.searchSites, Call.run_bind_of_ok server hentry, Call.run_bind_return]
  rfl

/-- Searching the sites one by one is one way for their searches to go on, behind whatever searches
are there already. -/
theorem searchSites_run_interleaved {σ : Type} (server : Server σ) (c : Client)
    (query : Query.Payload) (sites : List Int) (s : σ) (before : List (Errand SiteResult)) :
    ∃ entries history,
      (((source c).searchSites query sites).run server s).result = .ok entries ∧
      seen (history.map Prod.snd) = (((source c).searchSites query sites).run server s).events ∧
      PoolRun (before ++ searchPool c query sites) history (before ++ finishedPool entries) := by
  induction sites generalizing s before with
  | nil => exact ⟨[], [], rfl, rfl, .nil _⟩
  | cons site rest ih =>
    obtain ⟨entry, hentry⟩ :
        ∃ entry, (((source c).searchSite query site).run server s).result = .ok entry :=
      ⟨_, by rw [searchSite_run]; rfl⟩
    obtain ⟨moves, hmoves, hseen⟩ := ((source c).searchSite query site).moves_of_run server s
    rw [hentry] at hmoves
    obtain ⟨entries, history, hentries, hevents, hrest⟩ :=
      ih (((source c).searchSite query site).run server s).state
        (before ++ [.ready (.done (.ok entry))])
    rw [searchSites_cons_run server c query site rest s hentry]
    refine ⟨entry :: entries, moves.map (fun m => (before.length, m)) ++ history, ?_, ?_, ?_⟩
    · simp only [hentries, Except.map]
    · have hown : (moves.map fun m => (before.length, m)).map Prod.snd = moves := by
        rw [List.map_map]
        exact List.map_id moves
      rw [List.map_append, seen_append, hown, hevents, hseen]
    · have hfirst := hmoves.poolRun before (searchPool c query rest)
      rw [List.append_assoc, List.append_assoc] at hrest
      exact hfirst.trans hrest

/-- The search comes to a report against any server. What it does is one of the orders in which the
searches of its sites can make their moves, and its report is that of where they end. -/
theorem search_run_interleaved {σ : Type} (server : Server σ) (c : Client) (sites : List Int)
    (term : String) (perSiteLimit : Int) (s : σ) :
    ∃ history last,
      (((source c).search sites term perSiteLimit).run server s).result =
        .ok (reportOf term last) ∧
      seen (history.map Prod.snd) =
        (((source c).search sites term perSiteLimit).run server s).events ∧
      PoolRun (searchPool c (Source.searchQuery term perSiteLimit) sites) history last ∧
      ∀ errand ∈ last, errand.IsDone := by
  obtain ⟨entries, history, hentries, hevents, hrun⟩ :=
    searchSites_run_interleaved server c (Source.searchQuery term perSiteLimit) sites s []
  refine ⟨history, finishedPool entries, ?_, ?_, hrun, isDone_finishedPool⟩
  · rw [Source.search, Call.run_bind_return, Run.mapResult_result, hentries, reportOf_finishedPool]
    rfl
  · rw [hevents, Source.search, Call.run_bind_return, Run.mapResult_events]

end IssueGateway
