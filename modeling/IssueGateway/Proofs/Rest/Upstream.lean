import IssueGateway.Proofs.Json.Equality
import IssueGateway.Proofs.Operation.Upstream
import IssueGateway.Proofs.Rest.Inquiry

/-!
# Bad gateways

What goes wrong at the remote is answered with a status of its own, and nothing else is: a request in
order gets a bad gateway just if the last reply that its retry loop takes is a failure
(`respond_badGateway_iff`).
-/

namespace IssueGateway.Rest

open Json Remote Operation

/-- A gateway tells with this status that what is behind it has failed. -/
abbrev badGateway : Nat := 502

theorem failureStatus?_eq_badGateway_iff (name : FailureName) :
    failureStatus? name = some badGateway ↔ name.isFetch = true := by
  cases name <;> simp [failureStatus?, FailureName.isFetch]

section Response

variable (app : App) (fresh : String) (request : Request) (inquiry : Inquiry)

theorem response_of_failure {failure : Failure} (hfetch : failure.isFetch = true) :
    app.response fresh request (reaction inquiry (.error failure)) =
      app.response fresh request (some (badGateway, detail failure.message)) := by
  rw [reaction, failureReaction, (failureStatus?_eq_badGateway_iff failure.name).2 hfetch]
  rfl

theorem response_badGateway_iff (result : Except Failure Answer) :
    (app.response fresh request (reaction inquiry result)).status = badGateway ↔
      ∃ failure, result = .error failure ∧ failure.isFetch = true := by
  cases result with
  | ok answer =>
    refine iff_of_false ?_ ?_
    · rw [reaction]
      cases body? inquiry answer <;> simp [App.response]
    · rintro ⟨failure, hfailure, -⟩
      cases hfailure
  | error failure =>
    rw [reaction, failureReaction]
    simp only [Except.error.injEq, exists_eq_left']
    rw [Failure.isFetch, ← failureStatus?_eq_badGateway_iff]
    cases failureStatus? failure.name <;> simp [App.response]

end Response

theorem method_ne_head {request : Request} {route : Route} (hmethod : route.method = request.method) :
    request.method ≠ "HEAD" := by
  rw [← hmethod]
  cases route <;> simp [Route.method]

theorem not_searchSites {today : Calendar.Date} {request : Request} {route : Route}
    (hsingle : route ≠ .multiSite) {inquiry : Inquiry}
    (hinquiry : route.inquiry? today request = some inquiry) (a : MultiSiteArguments) :
    inquiry ≠ .searchSites a := by
  rintro rfl
  cases route with
  | health => cases hinquiry
  | multiSite => exact hsingle rfl
  | _ =>
    obtain ⟨_, _, hother⟩ := Option.map_eq_some_iff.1 hinquiry
    cases hother

/-- Against a remote that replies in whatever way, a request about one site whose arguments are
accepted is answered with a bad gateway just if the last reply that the retry loop takes is a
failure. The answer then tells the failure that the operation ends with. -/
theorem respond_badGateway_iff {app : App} {c : Client} (hstarted : app.client = some c)
    (fresh : String) {today : Calendar.Date} {request : Request} {route : Route}
    (hroute : Route.ofPath? request.path = some route) (hmethod : route.method = request.method)
    (hsingle : route ≠ .multiSite) {inquiry : Inquiry}
    (hinquiry : route.inquiry? today request = some inquiry) (hpassed : inquiry.check = .ok ())
    {replies : Stream' Reply} (hplain : ∀ i, (replies.get i).IsPlain) :
    let run := (app.respond fresh today request).run streamServer replies
    let taken := (requests run.events).length
    run.state = replies.drop taken ∧ ∃ response, run.result = .ok response ∧
      (response.status = badGateway ↔ EndsInFailure replies taken) ∧
      (response.status = badGateway → ∃ failure,
        ((inquiry.call c).run streamServer replies).result = .error failure ∧
          failure.isFetch = true ∧ response.body = detail failure.message) := by
  rw [respond_run hstarted streamServer replies fresh hroute hmethod hinquiry]
  obtain ⟨hstate, hfails⟩ :=
    call_fails_upstream_iff c hpassed (not_searchSites hsingle hinquiry) hplain
  have hstatus := response_badGateway_iff app fresh request inquiry
    ((inquiry.call c).run streamServer replies).result
  refine ⟨hstate, _, rfl, hstatus.trans hfails, ?_⟩
  intro h
  obtain ⟨failure, hfailure, hfetch⟩ := hstatus.1 h
  refine ⟨failure, hfailure, hfetch, ?_⟩
  rw [hfailure, response_of_failure app fresh request inquiry hfetch]
  exact if_neg (mt beq_iff_eq.1 (method_ne_head hmethod))

/-- A site is asked twice: the first reply is a rate limit, the second reports an error itself. -/
theorem respond_badGateway_of_report :
    let c : Client := { base := {}, apiKey := "key", retry := { retries := 1 } }
    let app : App := { client := some c }
    let request : Request := { method := "GET", path := "/api/v1/sites/7/issues" }
    let today : Calendar.Date := ⟨2024, 2, 5, by decide⟩
    let replies : Stream' Reply := Stream'.cons (.response { status := 429 })
      (Stream'.const (.response { body := "\x7b\"StatusCode\":500\x7d".toUTF8.toList }))
    let run := (app.respond "fresh" today request).run streamServer replies
    Route.ofPath? request.path = some (.issues "7") ∧
      (∃ inquiry, Route.inquiry? today request (.issues "7") = some inquiry ∧
        inquiry.check = .ok ()) ∧
      (∀ i, (replies.get i).IsPlain) ∧
      ∃ response, run.result = .ok response ∧ response.status = 502 := by
  intro c app request today replies run
  have hroute : Route.ofPath? request.path = some (.issues "7") := by decide +kernel
  have hinquiry : ∃ inquiry, Route.inquiry? today request (.issues "7") = some inquiry ∧
      inquiry.check = .ok () := ⟨_, rfl, rfl⟩
  have hplain : ∀ i, (replies.get i).IsPlain := by
    intro i
    cases i <;> exact trivial
  refine ⟨hroute, hinquiry, hplain, ?_⟩
  obtain ⟨inquiry, hasked, hpassed⟩ := hinquiry
  have hstarted : app.client = some c := rfl
  obtain ⟨-, response, hresponse, hstatus, -⟩ :=
    respond_badGateway_iff hstarted "fresh" hroute rfl nofun hasked hpassed hplain
  refine ⟨response, hresponse, hstatus.2 ⟨1, ?_, ?_⟩⟩
  · decide +kernel
  · exact Or.inr (Or.inr ⟨[("StatusCode", .int 500)], by decide +kernel, 500, rfl, by decide⟩)

end IssueGateway.Rest
