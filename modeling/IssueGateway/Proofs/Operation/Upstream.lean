import IssueGateway.Proofs.Operation.Escape
import IssueGateway.Proofs.Remote.Judgement
import IssueGateway.Proofs.Remote.Retry

/-!
# Failures from upstream

All operations but the search of many sites ask for one page or for none, and nothing that they do
before or behind it counts as a failed exchange (`AsksAtMostOnce`). So they fail as an exchange just
when the last reply that the retry loop takes is a failure (`call_fails_upstream_iff`).
-/

namespace IssueGateway

open Json Remote

/-! ### Replies that are failures -/

namespace Remote

/-- A reply that is a failure: there is no response, or the response has an error status, no object,
or an object that reports an error status. -/
def Reply.Fails : Reply → Prop
  | .response r => 400 ≤ r.status ∨ (∀ body, decode r.body ≠ .ok (.obj body)) ∨
      ∃ body, decode r.body = .ok (.obj body) ∧
        ∃ n : Int, Fields.get body "StatusCode" = .int n ∧ 400 ≤ n
  | .timeout | .unreachable _ => True
  | .fault _ => False

theorem Response.fails_iff {r : Response} :
    (Reply.response r).Fails ↔ ∀ body, ¬ r.Accepts body := by
  constructor
  · rintro (hstatus | hobject | ⟨body, hbody, hreported⟩) other haccepts
    · exact absurd haccepts.status_lt (Nat.not_lt.2 hstatus)
    · exact hobject other haccepts.decoded
    · have hsame : other = body := by
        have hboth := haccepts.decoded.symm.trans hbody
        cases hboth
        rfl
      exact haccepts.unreported (hsame ▸ hreported)
  · intro hnone
    by_contra hfine
    rw [Reply.Fails, not_or, not_or] at hfine
    obtain ⟨hstatus, hobject, hreported⟩ := hfine
    obtain ⟨body, hbody⟩ := not_forall_not.1 hobject
    exact hnone body ⟨Nat.not_le.1 hstatus, hbody, fun hn => hreported ⟨body, hbody, hn⟩⟩

/-- A reply that is a failure is the failure of its exchange, and any other gives an object. -/
theorem Reply.outcome_of_isPlain {reply : Reply} (hplain : reply.IsPlain) (endpoint : String) :
    reply.Fails ∧ (∃ cause, reply.outcome endpoint = .error (.remote cause)) ∨
      ¬ reply.Fails ∧ ∃ body, reply.outcome endpoint = .ok body := by
  cases reply with
  | response r =>
    rw [Response.fails_iff, outcome_response]
    rcases Response.accepts_or_refusedAs endpoint r with ⟨body, haccepts⟩ | ⟨cause, hcause, hrefused⟩
    · refine Or.inr ⟨fun hnone => hnone body haccepts, body, ?_⟩
      rw [haccepts.outcome_eq endpoint]
    · refine Or.inl ⟨hrefused.not_accepted, cause, ?_⟩
      rw [hcause]
  | timeout => exact Or.inl ⟨trivial, _, rfl⟩
  | unreachable detail => exact Or.inl ⟨trivial, _, rfl⟩
  | fault cause => exact hplain.elim

end Remote

/-! ### Failures that tell of no exchange -/

theorem RemoteFailure.isFetch (cause : RemoteFailure) : (Failure.remote cause).isFetch = true := by
  have hname := cause.name_mem
  simp only [List.mem_cons, List.not_mem_nil, or_false] at hname
  rcases hname with h | h | h <;> rw [Failure.isFetch, Failure.name, h] <;> rfl

/-- A failure of this side. -/
abbrev Failure.IsLocal (failure : Failure) : Prop :=
  failure.isFetch = false

theorem Failure.IsSlip.isLocal {failure : Failure} (h : failure.IsSlip) : failure.IsLocal := by
  simp only [IsSlip, List.mem_cons, List.not_mem_nil, or_false] at h
  rcases h with h | h | h | h <;> rw [IsLocal, isFetch, h] <;> rfl

namespace Operation

section AsksOnce

variable {α β : Type} {c : Client}

/-- A call for one page with something behind it that is no exchange. -/
def AsksOnce (c : Client) (call : Call α) : Prop :=
  ∃ (site : Int) (query : Query.Payload) (f : Page → Except Failure α),
    (Value.int site).isWritable = true ∧ (∀ page, FailsOnly Failure.IsLocal (f page)) ∧
    ∀ {σ : Type} (server : Server σ) (s : σ), call.run server s =
      (((source c).page site query).run server s).mapResult (·.bind f)

/-- A call for one page or for none. Without a page it fails of itself. -/
def AsksAtMostOnce (c : Client) (call : Call α) : Prop :=
  AsksOnce c call ∨ ∃ failure : Failure, failure.IsLocal ∧ call = .done (.error failure)

theorem asksAtMostOnce_of_page (site : Int) (query : Query.Payload) {f : Page → Except Failure α}
    {g : Page → Call α}
    (hpure : ∀ {σ : Type} (server : Server σ) page s, (g page).run server s = ⟨f page, [], s⟩)
    (hlocal : ∀ page, FailsOnly Failure.IsLocal (f page)) :
    AsksAtMostOnce c ((source c).page site query >>= g) := by
  by_cases hsite : (Value.int site).isWritable = true
  · exact Or.inl ⟨site, query, f, hsite, hlocal,
      fun server s => Call.run_bind_pure server _ f g (hpure server) s⟩
  · refine Or.inr ⟨.integerTooLong, rfl, ?_⟩
    rw [Source.page, source, c.items_of_not_isWritable hsite]
    rfl

theorem AsksOnce.map {call : Call α} (h : AsksOnce c call) (g : α → β) : AsksOnce c (g <$> call) := by
  obtain ⟨site, query, f, hsite, hlocal, hrun⟩ := h
  refine ⟨site, query, fun page => f page >>= fun a => .ok (g a), hsite, ?_, ?_⟩
  · exact fun page => (hlocal page).bind fun a => .ok (g a)
  · intro σ server s
    have hresult (x : Except Failure Page) :
        (x.bind f).map g = x.bind fun page => f page >>= fun a => .ok (g a) := by
      cases x with
      | error failure => rfl
      | ok page =>
        change (f page).map g = f page >>= fun a => .ok (g a)
        cases f page <;> rfl
    simp only [Call.run_map, hrun, Run.mapResult, hresult]

theorem AsksAtMostOnce.map {call : Call α} (h : AsksAtMostOnce c call) (g : α → β) :
    AsksAtMostOnce c (g <$> call) := by
  rcases h with honce | ⟨failure, hlocal, rfl⟩
  · exact Or.inl (honce.map g)
  · exact Or.inr ⟨failure, hlocal, rfl⟩

/-- What a stream of replies makes of a call for one page: the loop takes replies up to the one that
decides it, and the call fails as an exchange just if this is a failure. -/
theorem AsksOnce.run {call : Call α} (h : AsksOnce c call) {replies : Stream' Reply}
    (hplain : ∀ i, (replies.get i).IsPlain) :
    ∃ k, (requests (call.run streamServer replies).events).length = k + 1 ∧
      (call.run streamServer replies).state = replies.drop (k + 1) ∧
      ((∃ failure, (call.run streamServer replies).result = .error failure ∧
        failure.isFetch = true) ↔ (replies.get k).Fails) := by
  obtain ⟨site, query, f, hsite, hlocal, hrun⟩ := h
  have hbehind : ∀ body, FailsOnly Failure.IsLocal
      (Page.ofResponse site query (.obj body) >>= f) := fun body =>
    ((Page.slips_ofResponse site query (.obj body)).mono fun _ => Failure.IsSlip.isLocal).bind hlocal
  refine ⟨retriesUsed c.retry.retries.toNat replies, ?_⟩
  rw [hrun, page_run, c.items_eq_exchange hsite, exchange_run]
  simp only [Run.mapResult]
  refine ⟨by rw [requests_attempts, List.length_replicate], trivial, ?_⟩
  rcases Reply.outcome_of_isPlain (hplain (retriesUsed c.retry.retries.toNat replies))
    (Client.itemsEndpoint site) with ⟨hfails, cause, hcause⟩ | ⟨hfine, body, hbody⟩
  · rw [hcause]
    exact iff_of_true ⟨_, rfl, cause.isFetch⟩ hfails
  · rw [hbody]
    refine iff_of_false ?_ hfine
    rintro ⟨failure, hfailure, hfetch⟩
    have hnot : failure.isFetch = false := hbehind body failure hfailure
    rw [hfetch] at hnot
    cases hnot

/-! ### The operations on one site -/

/-- A call behind a check that passes. -/
theorem ofExcept_bind_of_ok {x : Except Failure α} {a : α} (h : x = .ok a) (f : α → Call β) :
    (MonadExcept.ofExcept x : Call α) >>= f = f a := by
  rw [h]
  rfl

theorem asksAtMostOnce_page (site : Int) (query : Query.Payload) :
    AsksAtMostOnce c ((source c).page site query) := by
  have hpage : AsksAtMostOnce c ((source c).page site query >>= pure) :=
    asksAtMostOnce_of_page site query (fun _ _ _ => rfl) fun page => .ok page
  rwa [bind_pure] at hpage

theorem asksAtMostOnce_getIssue {site issue : Value} {checked : Int × Int}
    (hcheck : checkLookup site issue = .ok checked) : AsksAtMostOnce c (getIssue c site issue) := by
  rw [getIssue, ofExcept_bind_of_ok hcheck]
  simp only [record?_eq]
  split
  · simp only [bind_assoc, pure_bind]
    apply asksAtMostOnce_of_page (f := fun page => found checked.1 checked.2 page.records.head?)
    · intro σ server page s
      cases page.records.head? <;> rfl
    · intro page
      cases page.records.head? with
      | none => exact .error rfl
      | some record => exact .ok record
  · exact Or.inr ⟨.integerTooLong, rfl, rfl⟩

theorem local_of_slips {x : Except Failure α} (hx : Slips x) : FailsOnly Failure.IsLocal x :=
  hx.mono fun _ => Failure.IsSlip.isLocal

theorem asksAtMostOnce_statusSummary {a : SummaryArguments} {checked : Int × Stats.GroupBy}
    (hcheck : a.check = .ok checked) : AsksAtMostOnce c (statusSummary c a) := by
  rw [statusSummary, ofExcept_bind_of_ok hcheck]
  refine asksAtMostOnce_of_page checked.1 _ (fun server page s => run_calculation _ (fun groups s =>
    run_calculation _ (fun overview s => rfl) s) s) fun page => ?_
  exact (local_of_slips (Stats.slips_aggregate _ _)).bind fun groups =>
    (local_of_slips (Stats.slips_overview _ _)).bind fun overview => .ok _

/-- A window may begin before the calendar does. Then a trend fails without asking for anything. -/
theorem asksAtMostOnce_trend {today : Calendar.Date} {a : TrendArguments}
    {checked : Int × Stats.AnalysisType × Calendar.Period} (hcheck : a.check = .ok checked) :
    AsksAtMostOnce c (trend c today a) := by
  rw [trend, ofExcept_bind_of_ok hcheck]
  simp only
  cases checked.2.2.windowStart today with
  | error cause => exact Or.inr ⟨.date cause, by cases cause <;> rfl, rfl⟩
  | ok firstDay =>
    rw [Except.mapError, ofExcept_bind_of_ok rfl]
    refine asksAtMostOnce_of_page checked.1 _ (fun server page s => run_calculation _
      (fun analysis s => rfl) s) fun page => ?_
    exact (local_of_slips (Stats.slips_analyze _ _ _ _ _)).bind fun analysis => .ok _

/-- An inquiry that passes its check asks for one page or none, unless it is a search of many
sites. -/
theorem call_asksAtMostOnce {inquiry : Inquiry} (hpassed : inquiry.check = .ok ())
    (hsingle : ∀ a, inquiry ≠ .searchSites a) : AsksAtMostOnce c (inquiry.call c) := by
  cases inquiry with
  | listIssues a =>
    obtain ⟨checked, hcheck, -⟩ := bind_eq_ok_iff.1 hpassed
    refine AsksAtMostOnce.map ?_ Answer.page
    rw [listIssues, ofExcept_bind_of_ok hcheck]
    exact asksAtMostOnce_page _ _
  | getIssue site issue =>
    obtain ⟨checked, hcheck, -⟩ := bind_eq_ok_iff.1 hpassed
    exact (asksAtMostOnce_getIssue hcheck).map Answer.issue
  | search a =>
    obtain ⟨checked, hcheck, -⟩ := bind_eq_ok_iff.1 hpassed
    refine AsksAtMostOnce.map ?_ Answer.page
    rw [search, ofExcept_bind_of_ok hcheck]
    exact asksAtMostOnce_page _ _
  | searchSites a => exact absurd rfl (hsingle a)
  | trend today a =>
    obtain ⟨checked, hcheck, -⟩ := bind_eq_ok_iff.1 hpassed
    exact (asksAtMostOnce_trend hcheck).map Answer.trend
  | statusSummary a =>
    obtain ⟨checked, hcheck, -⟩ := bind_eq_ok_iff.1 hpassed
    exact (asksAtMostOnce_statusSummary hcheck).map Answer.summary

end AsksOnce

/-- The last of the first replies of a stream, if there is one and it is a failure. -/
def EndsInFailure (replies : Stream' Reply) (count : Nat) : Prop :=
  ∃ k, count = k + 1 ∧ (replies.get k).Fails

/-- Against a remote that replies in whatever way, an operation on one site takes one reply for each
request and fails as an exchange just if the last reply that it takes is a failure. -/
theorem call_fails_upstream_iff (c : Client) {inquiry : Inquiry} (hpassed : inquiry.check = .ok ())
    (hsingle : ∀ a, inquiry ≠ .searchSites a) {replies : Stream' Reply}
    (hplain : ∀ i, (replies.get i).IsPlain) :
    let run := (inquiry.call c).run streamServer replies
    run.state = replies.drop (requests run.events).length ∧
      ((∃ failure, run.result = .error failure ∧ failure.isFetch = true) ↔
        EndsInFailure replies (requests run.events).length) := by
  intro run
  rcases call_asksAtMostOnce (c := c) hpassed hsingle with honce | ⟨cause, hlocal, hcause⟩
  · obtain ⟨k, hcount, hstate, hfails⟩ := honce.run hplain
    rw [hcount]
    refine ⟨hstate, hfails.trans ⟨fun h => ⟨k, rfl, h⟩, ?_⟩⟩
    rintro ⟨_, hk, h⟩
    cases hk
    exact h
  · have hrun : run = ⟨.error cause, [], replies⟩ := by
      simp only [run, hcause]
      rfl
    rw [hrun]
    refine ⟨rfl, iff_of_false ?_ ?_⟩
    · rintro ⟨failure, hfailure, hfetch⟩
      obtain rfl := Except.error.inj hfailure
      rw [hlocal] at hfetch
      cases hfetch
    · rintro ⟨k, hcount, -⟩
      cases hcount

end Operation

end IssueGateway
