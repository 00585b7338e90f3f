import IssueGateway.Proofs.Operation.Inquiry
import IssueGateway.Rest.App

/-!
# Requests as inquiries

A request whose parts can be read asks for one of the operations (`Route.inquiry?`). Answering it is
that inquiry and nothing else: the same exchanges, with the answer or the failure put into a
response at the end (`respond_run`).
-/

namespace IssueGateway.Rest

open Json Remote Operation

def valid? {α : Type} : Validated α → Option α
  | .ok a => some a
  | .error _ => none

theorem eq_ok_of_valid? {α : Type} {v : Validated α} {a : α} (h : valid? v = some a) : v = .ok a := by
  cases v with
  | ok b => exact congrArg Except.ok (Option.some.inj h)
  | error problems => cases h

/-- What the body of a request holds for a reader. -/
def bodyArguments? {α : Type} (request : Request) (reader : Reader α) : Option α :=
  match request.readBody with
  | .ok body => valid? (body.read reader)
  | .error _ => none

/-- What a request to a route asks for, if its path, query or body can be read. -/
def Route.inquiry? (today : Calendar.Date) (request : Request) : Route → Option Inquiry
  | .health => none
  | .issues site => (valid? (listArguments site request.query)).map .listIssues
  | .issue site number => (valid? (lookupArguments site number)).map fun asked =>
    .getIssue (.int asked.1) (.int asked.2)
  | .search => (bodyArguments? request readSearchArguments).map .search
  | .multiSite => (bodyArguments? request readMultiSiteArguments).map .searchSites
  | .trend => (bodyArguments? request readTrendArguments).map (.trend today)
  | .summary site => (valid? (summaryArguments site request.query)).map .statusSummary

/-- The body that tells the answer to an inquiry, unless the answer does not fit its form. -/
def body? : Inquiry → Answer → Option Value
  | .search a, .page page => searchResult? a.toConditions page
  | _, .page page => listing? page
  | _, .issue record => some (.obj record.columns)
  | _, .report report => some (searchReport report)
  | _, .trend report => some (trendReport report)
  | _, .summary summary => summary? summary

def reaction (inquiry : Inquiry) : Except Failure Answer → Reaction
  | .ok answer => (body? inquiry answer).map fun body => (200, body)
  | .error failure => failureReaction failure

/-- The response that a reaction becomes. -/
def App.response (app : App) (fresh : String) (request : Request) : Reaction → Response
  | none => { status := 500, body := .str "Internal Server Error" }
  | some (status, body) =>
    { status, body := sentBody request body
      requestId := some (requestId fresh (request.header? "x-request-id"))
      allowOrigin := app.allowOrigin request }

theorem respond_eq (app : App) (fresh : String) (today : Calendar.Date) (request : Request) :
    app.respond fresh today request =
      app.react today request >>= fun r => pure (app.response fresh request r) := by
  rw [App.respond]
  refine congrArg _ (funext fun r => ?_)
  cases r <;> rfl

section Run

variable {app : App} {c : Client} (hstarted : app.client = some c) {σ : Type} (server : Server σ)
  (s : σ)

include hstarted

/-- An operation behind its arguments: what it gives is rendered, and a failure has its reaction. -/
theorem operate_run {α β : Type} {arguments : Validated α} {a : α} (hvalid : arguments = .ok a)
    {run : Client → α → Call (Option Value)} {call : Call β} {render : β → Option Value}
    (hrun : run c a = render <$> call) {inquiry : Inquiry} {wrap : β → Answer}
    (hcall : inquiry.call c = wrap <$> call) (hrender : ∀ b, body? inquiry (wrap b) = render b) :
    (app.operate arguments run).run server s =
      ((inquiry.call c).run server s).mapResult fun result => .ok (reaction inquiry result) := by
  have hoperate : app.operate arguments run =
      tryCatch ((render <$> call) >>= fun rendered => pure (rendered.map fun body => (200, body)))
        fun failure => pure (failureReaction failure) := by
    rw [hvalid, ← hrun]
    simp only [App.operate, hstarted]
    rfl
  rw [hoperate, Call.run_tryCatch_pure, Call.run_bind_return, Call.run_map, hcall, Call.run_map]
  cases hresult : (call.run server s).result with
  | error failure => simp [Run.mapResult, hresult, Except.map, reaction]
  | ok b => simp [Run.mapResult, hresult, Except.map, reaction, hrender]

theorem operateOnBody_run {α β : Type} {request : Request} {reader : Reader α} {a : α}
    (hvalid : bodyArguments? request reader = some a)
    {run : Client → α → Call (Option Value)} {call : Call β} {render : β → Option Value}
    (hrun : run c a = render <$> call) {inquiry : Inquiry} {wrap : β → Answer}
    (hcall : inquiry.call c = wrap <$> call) (hrender : ∀ b, body? inquiry (wrap b) = render b) :
    (app.operateOnBody request reader run).run server s =
      ((inquiry.call c).run server s).mapResult fun result => .ok (reaction inquiry result) := by
  rw [bodyArguments?] at hvalid
  rw [App.operateOnBody]
  cases hbody : request.readBody with
  | error e =>
    rw [hbody] at hvalid
    cases hvalid
  | ok body =>
    rw [hbody] at hvalid
    exact operate_run hstarted server s (eq_ok_of_valid? hvalid) hrun hcall hrender

/-- A route serves a request by the inquiry that it asks for. -/
theorem serve_run {today : Calendar.Date} {request : Request} {route : Route} {inquiry : Inquiry}
    (hinquiry : route.inquiry? today request = some inquiry) :
    (app.serve today request route).run server s =
      ((inquiry.call c).run server s).mapResult fun result => .ok (reaction inquiry result) := by
  cases route with
  | health => cases hinquiry
  | issues site =>
    obtain ⟨a, ha, rfl⟩ := Option.map_eq_some_iff.1 hinquiry
    exact operate_run hstarted server s (eq_ok_of_valid? ha) rfl rfl fun page => rfl
  | issue site number =>
    obtain ⟨a, ha, rfl⟩ := Option.map_eq_some_iff.1 hinquiry
    exact operate_run hstarted server s (eq_ok_of_valid? ha) rfl rfl fun record => rfl
  | search =>
    obtain ⟨a, ha, rfl⟩ := Option.map_eq_some_iff.1 hinquiry
    exact operateOnBody_run hstarted server s ha rfl rfl fun page => rfl
  | multiSite =>
    obtain ⟨a, ha, rfl⟩ := Option.map_eq_some_iff.1 hinquiry
    exact operateOnBody_run hstarted server s ha rfl rfl fun report => rfl
  | trend =>
    obtain ⟨a, ha, rfl⟩ := Option.map_eq_some_iff.1 hinquiry
    exact operateOnBody_run hstarted server s ha rfl rfl fun report => rfl
  | summary site =>
    obtain ⟨a, ha, rfl⟩ := Option.map_eq_some_iff.1 hinquiry
    exact operate_run hstarted server s (eq_ok_of_valid? ha) rfl rfl fun summary => rfl

/-- A request in order is answered by its inquiry. -/
theorem respond_run (fresh : String) {today : Calendar.Date} {request : Request} {route : Route}
    (hroute : Route.ofPath? request.path = some route) (hmethod : route.method = request.method)
    {inquiry : Inquiry} (hinquiry : route.inquiry? today request = some inquiry) :
    (app.respond fresh today request).run server s =
      ((inquiry.call c).run server s).mapResult fun result =>
        .ok (app.response fresh request (reaction inquiry result)) := by
  have hreact : app.react today request = app.serve today request route := by
    rw [App.react, hroute]
    exact if_pos (beq_iff_eq.2 hmethod)
  rw [respond_eq, Call.run_bind_return, hreact, serve_run hstarted server s hinquiry]
  rfl

end Run

end IssueGateway.Rest
