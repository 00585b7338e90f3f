import IssueGateway.Proofs.MultiSite
import IssueGateway.Proofs.Operation.Demands
import IssueGateway.Proofs.Operation.Inquiry
import IssueGateway.Proofs.Page
import IssueGateway.Proofs.Query.View
import IssueGateway.Proofs.Remote.Limits
import IssueGateway.Proofs.Remote.Target
import IssueGateway.Proofs.Stats.Existence

/-!
# What goes to the remote

Every operation keeps to the limits of the pages that it asks for (`call_within`): each request goes
to a site that the caller named and has the credentials, a page and at most a view, in this order,
whatever the texts of the caller are. A failure on the way is one of the check, of an exchange, or
none that has to do with arguments.
-/

namespace IssueGateway.Operation

open Json Remote

namespace Inquiry

/-- The sites that the caller names. -/
def sites : Inquiry → List Value
  | .listIssues a => [a.site]
  | .getIssue site _ => [site]
  | .search a => [a.site]
  | .searchSites a => a.sites
  | .trend _ a => [a.site]
  | .statusSummary a => [a.site]

/-- Where the page begins: where the caller says, or at the first record. -/
def offset : Inquiry → Value
  | .listIssues a => a.offset
  | .search a => a.offset
  | _ => .int 0

/-- How many records a page has: as many as the caller says, or what the operation needs. -/
def pageSize : Inquiry → Value
  | .listIssues a => a.limit
  | .getIssue _ _ => .int 1
  | .search a => a.limit
  | .searchSites a => a.limit
  | .trend _ _ | .statusSummary _ => .int 1000

/-- A page that an inquiry may ask for. -/
structure Asks (inquiry : Inquiry) (site : Int) (query : Query.Payload) : Prop where
  passed : inquiry.check = .ok ()
  named : .int site ∈ inquiry.sites
  positive : 0 < site
  offset_eq : .int query.offset = inquiry.offset
  limit_eq : .int query.limit = inquiry.pageSize
  offset_nonneg : 0 ≤ query.offset
  one_le_limit : 1 ≤ query.limit
  limit_le : query.limit ≤ 1000

end Inquiry

/-- A request that an inquiry may send once its check has passed: to a site that is named, with the
credentials, a page and at most a view. Only an unusual base keeps the site from being the
target. -/
structure IsWellFormed (c : Client) (inquiry : Inquiry) (r : Request) : Prop where
  passed : inquiry.check = .ok ()
  site : ∃ site : Int, .int site ∈ inquiry.sites ∧ 0 < site ∧
    r.address = c.base.below (Client.itemsEndpoint site) ∧
    (c.base.IsPlain → r.target = String.ofList (Text.integer site))
  body : ∃ (offset limit : Int) (view : Fields),
    r.body = [("ApiVersion", .float 1.0), ("ApiKey", .str c.apiKey), ("Offset", .int offset),
      ("PageSize", .int limit)] ++ view ∧
    .int offset = inquiry.offset ∧ 0 ≤ offset ∧
    .int limit = inquiry.pageSize ∧ 1 ≤ limit ∧ limit ≤ 1000 ∧
    (view = [] ∨ ∃ parts, view = [("View", .obj parts)] ∧ Query.IsView parts)

theorem Inquiry.Asks.isWellFormed {inquiry : Inquiry} {site : Int} {query : Query.Payload}
    (h : inquiry.Asks site query) (c : Client) :
    IsWellFormed c inquiry (c.request (Client.itemsEndpoint site) query.request) where
  passed := h.passed
  site := by
    have haddress : (c.request (Client.itemsEndpoint site) query.request).address =
        c.base.below (Client.itemsEndpoint site) := by
      rw [Client.request]
    exact ⟨site, h.named, h.positive, haddress,
      fun hbase => target_of_items hbase h.positive haddress⟩
  body := by
    obtain ⟨view, hrequest, hview⟩ := query.request_eq
    refine ⟨query.offset, query.limit, view, ?_, h.offset_eq, h.offset_nonneg, h.limit_eq,
      h.one_le_limit, h.limit_le, hview⟩
    rw [c.request_body, hrequest]
    rfl

/-- Checks that pass make a page. -/
theorem Inquiry.asks_of_checks {inquiry : Inquiry} {name : String} {given : Value} {site : Int}
    {query : Query.Payload} {maximum : Nat} (hpassed : inquiry.check = .ok ())
    (hgiven : given ∈ inquiry.sites) (hsite : checkId name given = .ok site)
    (hoffset : checkOffset inquiry.offset = .ok query.offset)
    (hlimit : checkLimit maximum inquiry.pageSize = .ok query.limit) (hmaximum : maximum ≤ 1000) :
    inquiry.Asks site query := by
  obtain ⟨rfl, hpositive⟩ := checkId_eq_ok_iff.1 hsite
  obtain ⟨hoffset, hnonneg⟩ := checkOffset_eq_ok_iff.1 hoffset
  obtain ⟨hlimit, hone, hle⟩ := checkLimit_eq_ok_iff.1 hlimit
  constructor
  · exact hpassed
  · exact hgiven
  · exact hpositive
  · exact hoffset.symm
  · exact hlimit.symm
  · exact hnonneg
  · exact hone
  · omega

/-! ### What goes out for one page -/

section Limits

variable {fails : Failure → Prop} {c : Client} {inquiry : Inquiry} {site : Int}
  {query : Query.Payload}

theorem failsOnly_of_slips {α : Type} {x : Except Failure α}
    (hother : ∀ failure : Failure, failure.name ≠ .validation → fails failure) (hx : Slips x) :
    FailsOnly fails x :=
  hx.mono fun failure hslip => hother failure hslip.name_ne_validation

theorem page_within (hother : ∀ failure : Failure, failure.name ≠ .validation → fails failure)
    (hasks : inquiry.Asks site query) :
    ((source c).page site query).Within (IsWellFormed c inquiry) fails
      (c.retry.retries.toNat + 1) := by
  have hremote (cause : RemoteFailure) : fails (.remote cause) := by
    apply hother
    intro hname
    have hannounced := RemoteFailure.isAnnounced cause
    simp [Failure.IsAnnounced, hname] at hannounced
  have hitems : (c.items site query.request).Within (IsWellFormed c inquiry) fails
      (c.retry.retries.toNat + 1) :=
    c.items_within query hremote (fun _ => hother _ (by simp [Failure.name]))
      (hasks.isWellFormed c)
  apply (hitems.map Value.obj).bind_silent
  intro response
  apply Call.within_ofExcept
  exact failsOnly_of_slips hother (Page.slips_ofResponse site query response)

theorem searchSite_within (hasks : inquiry.Asks site query) :
    ((source c).searchSite query site).Within (IsWellFormed c inquiry) fails
      (c.retry.retries.toNat + 1) := by
  -- every failure becomes an entry, so the page may fail in any way
  have hpage : ((source c).page site query).Within (IsWellFormed c inquiry) (fun _ => True)
      (c.retry.retries.toNat + 1) := page_within (fun _ _ => trivial) hasks
  apply Call.Within.tryCatch_pure
  exact hpage.bind_silent fun page => Call.within_pure _

theorem searchEach_within {sites : List Int} (hasks : ∀ site ∈ sites, inquiry.Asks site query) :
    ((source c).searchSites query sites).Within (IsWellFormed c inquiry) fails
      ((c.retry.retries.toNat + 1) * sites.length) := by
  induction sites with
  | nil => exact Call.within_pure []
  | cons site rest ih =>
    obtain ⟨hfirst, hrest⟩ := List.forall_mem_cons.1 hasks
    have hsite : ((source c).searchSite query site).Within (IsWellFormed c inquiry) fails
        (c.retry.retries.toNat + 1) := searchSite_within hfirst
    rw [List.length_cons, Nat.mul_succ, Nat.add_comm]
    apply hsite.bind
    intro entry
    exact (ih hrest).bind_silent fun entries => Call.within_pure (entry :: entries)

/-! ### What goes out for an inquiry -/

section Operations

variable (hother : ∀ failure : Failure, failure.name ≠ .validation → fails failure)

include hother

theorem listIssues_within {a : ListArguments} (hcheck : FailsOnly fails a.check) :
    (listIssues c a).Within (IsWellFormed c (.listIssues a)) fails (c.retry.retries.toNat + 1) := by
  apply Call.within_ofExcept_bind hcheck
  rintro ⟨site, query⟩ h
  have hpassed : (Inquiry.listIssues a).check = .ok () := bind_eq_ok_iff.2 ⟨_, h, rfl⟩
  simp only [ListArguments.check, bind_eq_ok_iff, pure_eq_ok_iff, Prod.mk.injEq] at h
  obtain ⟨_, hsite, _, hoffset, _, hlimit, _, -, _, -, rfl, rfl⟩ := h
  apply page_within hother
  exact Inquiry.asks_of_checks hpassed (List.mem_singleton.2 rfl) hsite hoffset hlimit
    (Nat.le_refl 1000)

theorem getIssue_within {givenSite givenIssue : Value}
    (hcheck : FailsOnly fails (checkLookup givenSite givenIssue)) :
    (getIssue c givenSite givenIssue).Within (IsWellFormed c (.getIssue givenSite givenIssue)) fails
      (c.retry.retries.toNat + 1) := by
  apply Call.within_ofExcept_bind hcheck
  rintro ⟨_, _⟩ h
  have hpassed : (Inquiry.getIssue givenSite givenIssue).check = .ok () :=
    bind_eq_ok_iff.2 ⟨_, h, rfl⟩
  simp only [checkLookup, bind_eq_ok_iff, pure_eq_ok_iff, Prod.mk.injEq] at h
  obtain ⟨site, hsite, issue, -, rfl, rfl⟩ := h
  have hasks : (Inquiry.getIssue givenSite givenIssue).Asks site (Source.idQuery issue) :=
    Inquiry.asks_of_checks hpassed (List.mem_singleton.2 rfl) hsite rfl rfl (Nat.le_refl 1000)
  simp only [record?_eq]
  apply Call.Within.bind_silent
  · split
    · exact (page_within hother hasks).bind_silent fun page => Call.within_pure page.records.head?
    · exact .done (.error (hother _ (by simp [Failure.name])))
  · intro record?
    cases record? with
    | some record => exact Call.within_pure record
    | none => exact .done (.error (hother _ (by simp [Failure.name])))

theorem search_within {a : SearchArguments} (hcheck : FailsOnly fails a.check) :
    (search c a).Within (IsWellFormed c (.search a)) fails (c.retry.retries.toNat + 1) := by
  apply Call.within_ofExcept_bind hcheck
  rintro ⟨site, query⟩ h
  have hpassed : (Inquiry.search a).check = .ok () := bind_eq_ok_iff.2 ⟨_, h, rfl⟩
  simp only [SearchArguments.check, bind_eq_ok_iff, pure_eq_ok_iff, Prod.mk.injEq] at h
  obtain ⟨_, hsite, _, hoffset, _, hlimit, _, -, _, -, _, -, rfl, rfl⟩ := h
  apply page_within hother
  exact Inquiry.asks_of_checks hpassed (List.mem_singleton.2 rfl) hsite hoffset hlimit
    (Nat.le_refl 1000)

omit hother in
theorem asks_of_sites {a : MultiSiteArguments} {sites : List Int} {limit : Int}
    (h : a.check = .ok (sites, limit)) :
    sites.length = a.sites.length ∧ ∀ site ∈ sites,
      (Inquiry.searchSites a).Asks site (Source.searchQuery a.search limit) := by
  have hpassed : (Inquiry.searchSites a).check = .ok () := bind_eq_ok_iff.2 ⟨_, h, rfl⟩
  rw [a.check_eq] at h
  simp only [bind_eq_ok_iff, Except.ok.injEq, Prod.mk.injEq] at h
  obtain ⟨_, -, _, hsites, _, -, _, hlimit, rfl, rfl⟩ := h
  refine ⟨(mapM_eq_ok_iff.1 hsites).length_eq.symm, ?_⟩
  intro site hsite
  obtain ⟨given, hgiven, hcheck⟩ := (mem_of_mapM_eq_ok hsites).1 hsite
  exact Inquiry.asks_of_checks hpassed hgiven hcheck rfl hlimit (by decide)

omit hother in
theorem searchSites_within {a : MultiSiteArguments} (hcheck : FailsOnly fails a.check) :
    (searchSites c a).Within (IsWellFormed c (.searchSites a)) fails
      ((c.retry.retries.toNat + 1) * a.sites.length) := by
  apply Call.within_ofExcept_bind hcheck
  rintro ⟨sites, limit⟩ h
  obtain ⟨hlength, hasks⟩ := asks_of_sites h
  rw [← hlength]
  exact (searchEach_within hasks).bind_silent fun entries => Call.within_pure _

theorem trend_within {today : Calendar.Date} {a : TrendArguments}
    (hcheck : FailsOnly fails a.check) :
    (trend c today a).Within (IsWellFormed c (.trend today a)) fails
      (c.retry.retries.toNat + 1) := by
  apply Call.within_ofExcept_bind hcheck
  rintro ⟨site, analysisType, period⟩ h
  have hpassed : (Inquiry.trend today a).check = .ok () := bind_eq_ok_iff.2 ⟨_, h, rfl⟩
  simp only [TrendArguments.check, bind_eq_ok_iff, pure_eq_ok_iff, Prod.mk.injEq] at h
  obtain ⟨_, hsite, _, -, _, -, rfl, -, -⟩ := h
  have hdate (cause : Calendar.DateError) : fails (.date cause) := by
    apply hother
    cases cause <;> simp [Failure.name]
  apply Call.within_ofExcept_bind (.mapError hdate)
  intro firstDay _
  have hasks : (Inquiry.trend today a).Asks _ (trendQuery analysisType firstDay a.groupBy) :=
    Inquiry.asks_of_checks hpassed (List.mem_singleton.2 rfl) hsite rfl rfl (Nat.le_refl 1000)
  apply (page_within hother hasks).bind_silent
  intro page
  apply Call.within_ofExcept_bind (failsOnly_of_slips hother (Stats.slips_analyze _ _ _ _ _))
  exact fun analysis _ => Call.within_pure _

theorem statusSummary_within {a : SummaryArguments} (hcheck : FailsOnly fails a.check) :
    (statusSummary c a).Within (IsWellFormed c (.statusSummary a)) fails
      (c.retry.retries.toNat + 1) := by
  apply Call.within_ofExcept_bind hcheck
  rintro ⟨site, groupBy⟩ h
  have hpassed : (Inquiry.statusSummary a).check = .ok () := bind_eq_ok_iff.2 ⟨_, h, rfl⟩
  simp only [SummaryArguments.check, bind_eq_ok_iff, pure_eq_ok_iff, Prod.mk.injEq] at h
  obtain ⟨_, hsite, _, -, rfl, -⟩ := h
  have hasks : (Inquiry.statusSummary a).Asks _ { limit := analysisLimit } :=
    Inquiry.asks_of_checks hpassed (List.mem_singleton.2 rfl) hsite rfl rfl (Nat.le_refl 1000)
  apply (page_within hother hasks).bind_silent
  intro page
  apply Call.within_ofExcept_bind (failsOnly_of_slips hother (Stats.slips_aggregate _ _))
  intro groups _
  apply Call.within_ofExcept_bind (failsOnly_of_slips hother (Stats.slips_overview _ _))
  exact fun overview _ => Call.within_pure _

/-- An inquiry keeps to its form, and to the budget of one page for each site, whatever comes back.
Behind its check it fails in no way that has to do with arguments. -/
theorem call_within {inquiry : Inquiry} (hcheck : FailsOnly fails inquiry.check) :
    (inquiry.call c).Within (IsWellFormed c inquiry) fails
      ((c.retry.retries.toNat + 1) * inquiry.sites.length) := by
  have hsingle : c.retry.retries.toNat + 1 ≤ (c.retry.retries.toNat + 1) * 1 :=
    Nat.le_of_eq (Nat.mul_one _).symm
  cases inquiry with
  | searchSites a => exact (searchSites_within hcheck.of_bind).map Answer.report
  | listIssues a => exact ((listIssues_within hother hcheck.of_bind).map Answer.page).mono hsingle
  | getIssue site issue =>
    exact ((getIssue_within hother hcheck.of_bind).map Answer.issue).mono hsingle
  | search a => exact ((search_within hother hcheck.of_bind).map Answer.page).mono hsingle
  | trend today a => exact ((trend_within hother hcheck.of_bind).map Answer.trend).mono hsingle
  | statusSummary a =>
    exact ((statusSummary_within hother hcheck.of_bind).map Answer.summary).mono hsingle

end Operations

/-- The searches of some sites that stand side by side, each with the budget of one page. -/
theorem searchPool_within {sites : List Int} (hasks : ∀ site ∈ sites, inquiry.Asks site query) :
    List.Forall₂ (Errand.Within (IsWellFormed c inquiry))
      (List.replicate sites.length (c.retry.retries.toNat + 1)) (searchPool c query sites) := by
  induction sites with
  | nil => exact .nil
  | cons site rest ih =>
    obtain ⟨hfirst, hrest⟩ := List.forall_mem_cons.1 hasks
    exact .cons (searchSite_within hfirst) (ih hrest)

end Limits

/-- What an inquiry has sent keeps to its form and to its budget. -/
structure KeepsForm (c : Client) (inquiry : Inquiry) (events : List Event) : Prop where
  wellFormed : ∀ r ∈ requests events, IsWellFormed c inquiry r
  count : (requests events).length ≤ (c.retry.retries.toNat + 1) * inquiry.sites.length

theorem call_keepsForm (c : Client) (inquiry : Inquiry) {σ : Type} (server : Server σ) (s : σ) :
    KeepsForm c inquiry ((inquiry.call c).run server s).events := by
  have hwithin : (inquiry.call c).Within (IsWellFormed c inquiry) (fun _ => True)
      ((c.retry.retries.toNat + 1) * inquiry.sites.length) :=
    call_within (fun _ _ => trivial) fun _ _ => trivial
  obtain ⟨-, hform, hcount⟩ := hwithin.run server (fun _ _ _ _ => trivial) s
  exact ⟨hform, hcount⟩

/-- The searches of many sites keep to the form of their inquiry in whatever order they move. -/
theorem searchPool_keepsForm (c : Client) {a : MultiSiteArguments} {sites : List Int} {limit : Int}
    (hcheck : a.check = .ok (sites, limit)) {history : History} {last : List (Errand SiteResult)}
    (hrun : PoolRun (searchPool c (Source.searchQuery a.search limit) sites) history last) :
    KeepsForm c (.searchSites a) (seen (history.map Prod.snd)) := by
  obtain ⟨hlength, hasks⟩ := asks_of_sites hcheck
  obtain ⟨hform, hcount⟩ := hrun.within (searchPool_within hasks)
  refine ⟨hform, ?_⟩
  rw [List.sum_replicate, smul_eq_mul, Nat.mul_comm, hlength] at hcount
  exact hcount

/-- In a session of any length and against any remote, each inquiry keeps to its form; and so do
the searches of many sites when they go on side by side. -/
theorem session_keepsForm (c : Client) {σ : Type} (server : Server σ) (steps : List (Step σ))
    (s : σ) :
    List.Forall₂ (fun step run => KeepsForm c step.inquiry run.events) steps
        (session server c steps s) ∧
      ∀ (a : MultiSiteArguments) (sites : List Int) (limit : Int), a.check = .ok (sites, limit) →
        ∀ (history : History) (last : List (Errand SiteResult)),
          PoolRun (searchPool c (Source.searchQuery a.search limit) sites) history last →
          KeepsForm c (.searchSites a) (seen (history.map Prod.snd)) := by
  constructor
  · exact forall₂_session server (P := fun inquiry run => KeepsForm c inquiry run.events)
      (fun inquiry s => call_keepsForm c inquiry server s) steps s
  · intro a sites limit hcheck history last hrun
    exact searchPool_keepsForm c hcheck hrun

/-- Two sites side by side: one gives no reply in time, the other is asked twice. -/
theorem session_keepsForm_side_by_side :
    let c : Client := { base := {}, apiKey := "key", retry := { retries := 1 } }
    let a : MultiSiteArguments := { sites := [.int 7, .int 8], search := "ApiKey", limit := .int 5 }
    let asked := fun site =>
      c.request (Client.itemsEndpoint site) (Source.searchQuery "ApiKey" 5).request
    let history : History :=
      [(1, .send (asked 8)), (0, .send (asked 7)), (1, .receive (.response { status := 429 })),
        (1, .sleep (.float 1.0)), (0, .receive .timeout), (1, .wake), (1, .send (asked 8)),
        (1, .receive (.response { body := [0x7b, 0x7d] }))]
    let last := finishedPool [⟨7, .error "timeout calling /api/items/7/get"⟩, ⟨8, .ok []⟩]
    a.check = .ok ([7, 8], 5) ∧
      PoolRun (searchPool c (Source.searchQuery "ApiKey" 5) [7, 8]) history last ∧
      KeepsForm c (.searchSites a) (seen (history.map Prod.snd)) := by
  intro c a asked history last
  have hcheck : a.check = .ok ([7, 8], 5) := rfl
  have hrun : PoolRun (searchPool c (Source.searchQuery "ApiKey" 5) [7, 8]) history last := by
    refine .cons (.move rfl (.send _ _)) (.cons (.move rfl (.send _ _)) ?_)
    refine .cons (.move rfl (.receive _ _)) (.cons (.move rfl (.sleep _ _)) ?_)
    refine .cons (.move rfl (.receive _ _)) (.cons (.move rfl (.wake _)) ?_)
    refine .cons (.move rfl (.send _ _)) (.cons (.move rfl (.receive _ _)) ?_)
    exact .nil _
  refine ⟨hcheck, hrun, ?_⟩
  exact (session_keepsForm c Script.server [{ inquiry := .searchSites a }] {}).2 a [7, 8] 5 hcheck
    history last hrun

end IssueGateway.Operation
