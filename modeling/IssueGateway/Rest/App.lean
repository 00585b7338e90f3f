import IssueGateway.Logging.Setup
import IssueGateway.Rest.Arguments
import IssueGateway.Rest.Render
import IssueGateway.Rest.Request
import IssueGateway.Rest.RequestId
import IssueGateway.Rest.Route
import IssueGateway.Settings

/-!
# The web application

A request is routed, its body and then its arguments are read, the operation runs, and its result or
failure becomes a response. Failures of the operations and of the remote have statuses of their own;
any other failure, and a result that does not fit its form, is an internal error, which carries
neither a request id nor a note for browsers.
-/

namespace IssueGateway.Rest

open Json Remote

structure Response where
  status : Nat
  body : Value
  requestId : Option String := none
  allowOrigin : Option String := none
  deriving Repr

/-- A status and a body, or nothing where nobody takes care of a failure. -/
abbrev Reaction := Option (Nat × Value)

/-- A body that only says what happened. -/
def detail (message : String) : Value :=
  .obj [("detail", .str message)]

def refusal (message : String) : Nat × Value :=
  (422, detail message)

def failureStatus? (name : FailureName) : Option Nat :=
  match name with
  | .service => some 500
  | .validation => some 422
  | .notFound => some 404
  | .fetch | .transport | .remoteApi | .rateLimit => some 502
  | _ => none

def failureReaction (f : Failure) : Reaction :=
  (failureStatus? f.name).map fun status => (status, detail f.message)

/-- The running application. Without a client it has not been started. -/
structure App where
  client : Option Client := none
  origins : List String := []

def originsOf (list : String) : List String :=
  (list.toList.splitOn ',').map fun cs => Text.trimBlanks (String.ofList cs)

/-- The origins that are allowed when the environment does not say. -/
def defaultOrigins : String := "http://localhost:3000"

/-- Sets the application up. Logging is set up first; then, unless the start is left out, the
settings are read and the remote is asked whether it answers, which it need not. -/
def App.start (env : Environment) (connect : Bool) : Call App := do
  if let .error e := Logging.Setup.make env none none false then
    throw (.told .value e.message none)
  let origins := originsOf ((Assoc.get? env "ISSUESCOPE_CORS_ORIGINS").getD defaultOrigins)
  if !connect then return { origins }
  match Settings.load env with
  | .error e => throw (.told .config e.message none)
  | .ok settings =>
    let _ ← settings.client.isReachable
    return { client := some settings.client, origins }

def App.operate (app : App) (arguments : Validated α) (run : Client → α → Call (Option Value)) :
    Call Reaction :=
  match app.client, arguments with
  | none, _ => return none
  | some _, .error problems => return some (refusal (problemText problems))
  | some client, .ok a =>
    tryCatch (do return (← run client a).map fun body => (200, body))
      fun failure => return failureReaction failure

def App.operateOnBody (app : App) (request : Request) (reader : Reader α)
    (run : Client → α → Call (Option Value)) : Call Reaction :=
  match request.readBody with
  | .error (.malformed position) =>
    return some (refusal (problemText
      [⟨["body", String.ofList (Text.natural position)], .malformedJson⟩]))
  | .error .unreadable => return some (400, detail "There was an error parsing the body")
  | .ok body => app.operate (body.read reader) run

def App.health (app : App) : Call Reaction :=
  match app.client with
  | none => return none
  | some client =>
    tryCatch (do
      let reachable ← client.isReachable
      let status := if reachable then "ok" else "degraded"
      return some (if reachable then 200 else 503,
        .obj [("status", .str status), ("pleasanter", .bool reachable)]))
      fun failure => return failureReaction failure

def App.serve (app : App) (today : Calendar.Date) (request : Request) : Route → Call Reaction
  | .health => app.health
  | .issues site => app.operate (listArguments site request.query) fun c a =>
    listing? <$> Operation.listIssues c a
  | .issue site issue => app.operate (lookupArguments site issue) fun c (site, issue) => do
    let record ← Operation.getIssue c (.int site) (.int issue)
    return some (.obj record.columns)
  | .search => app.operateOnBody request readSearchArguments fun c a =>
    searchResult? a.toConditions <$> Operation.search c a
  | .multiSite => app.operateOnBody request readMultiSiteArguments fun c a => do
    return some (searchReport (← Operation.searchSites c a))
  | .trend => app.operateOnBody request readTrendArguments fun c a => do
    return some (trendReport (← Operation.trend c today a))
  | .summary site => app.operate (summaryArguments site request.query) fun c a =>
    summary? <$> Operation.statusSummary c a

def App.react (app : App) (today : Calendar.Date) (request : Request) : Call Reaction :=
  match Route.ofPath? request.path with
  | none => return some (404, detail "Not Found")
  | some route =>
    if route.method == request.method then app.serve today request route
    else return some (405, detail "Method Not Allowed")

def anyOrigin : String := "*"

/-- The origin that a response names: the requesting one if it is allowed. Where any origin is
allowed, only a request with cookies needs its own named. -/
def App.allowOrigin (app : App) (request : Request) : Option String := do
  let origin ← request.header? "origin"
  if app.origins.contains anyOrigin then
    if (request.header? "cookie").isSome then some origin else some anyOrigin
  else if app.origins.contains origin then some origin
  else none

/-- The body that is sent: none to a request for the headers alone. -/
def sentBody (request : Request) (body : Value) : Value :=
  if request.method == "HEAD" then .str "" else withoutNonFinite body

/-- Answers a request; `fresh` is the id of a request that brings none. -/
def App.respond (app : App) (fresh : String) (today : Calendar.Date) (request : Request) :
    Call Response := do
  match ← app.react today request with
  | none => return { status := 500, body := .str "Internal Server Error" }
  | some (status, body) =>
    return { status, body := sentBody request body
             requestId := some (requestId fresh (request.header? "x-request-id"))
             allowOrigin := app.allowOrigin request }

end IssueGateway.Rest
