import IssueGateway.Json.Parser
import IssueGateway.Remote.Call

/-!
# The client of the remote

Every request carries the version of the interface and the key. A reply that says the remote has no
capacity is followed by a fixed wait and the same request again, as often as the policy allows; the
reply that ends this decides the outcome.
-/

namespace IssueGateway.Remote

open Json

/-- How often a request is repeated when the remote has no capacity, and the wait before each
repetition. -/
structure RetryPolicy where
  retries : Int := 3
  delay : Number := .float 1.0
  deriving DecidableEq, Repr

structure Client where
  base : Address
  apiKey : String
  timeout : Number := .float 30.0
  retry : RetryPolicy := {}
  deriving Repr

def apiVersion : Float := 1.0

def contentType : String := "application/json"

def userAgent : String := "IssueScope/1.0.0"

mutual

def holdsNonFinite : Value → Bool
  | .num (.float x) => !x.isFinite
  | .arr items => anyNonFinite items
  | .obj fields => anyFieldNonFinite fields
  | _ => false

def anyNonFinite : List Value → Bool
  | [] => false
  | v :: rest => holdsNonFinite v || anyNonFinite rest

def anyFieldNonFinite : List (String × Value) → Bool
  | [] => false
  | (_, v) :: rest => holdsNonFinite v || anyFieldNonFinite rest

end

def Response.object? (r : Response) : Option Fields :=
  match decode r.body with
  | .ok (.obj fields) => some fields
  | _ => none

def firstErrorStatus : Nat := 400

/-- The status that a body reports beside the status of its response. -/
def reportedStatus? (body : Fields) : Option Int :=
  match Fields.get body "StatusCode" with
  | .num (.int n) => some n
  | _ => none

def Response.message (r : Response) : Value :=
  match r.object? with
  | some body => Fields.get body "Message"
  | none => .null

/-- What a response amounts to: its object, unless it or its body reports an error. -/
def Response.outcome (endpoint : String) (r : Response) : Except RemoteFailure Fields :=
  if firstErrorStatus ≤ r.status then
    .error (if r.message.isPresent then .refused r.status r.message
      else .refusedBare r.status r.reason)
  else
    match r.object? with
    | none => .error (.noObject endpoint)
    | some body =>
      match reportedStatus? body with
      | some status =>
        if firstErrorStatus ≤ status then .error (.reported status (Fields.get body "Message"))
        else .ok body
      | none => .ok body

def Reply.outcome (endpoint : String) : Reply → Except Failure Fields
  | .response r => (r.outcome endpoint).mapError .remote
  | .timeout => .error (.remote (.timeout endpoint))
  | .unreachable detail => .error (.remote (.unreachable endpoint detail))
  | .fault cause => .error cause

/-- Whether a reply says that the remote has no capacity. -/
def Reply.isRateLimit : Reply → Bool
  | .response r => r.status == rateLimitStatus
  | _ => false

/-- Sends a request until the reply is no rate limit, at most so many times more than once. -/
def exchange (endpoint : String) (request : Request) (delay : Number) : Nat → Call Fields
  | 0 => .send request fun reply => .done (reply.outcome endpoint)
  | budget + 1 => .send request fun reply =>
    if reply.isRateLimit then .sleep delay (exchange endpoint request delay budget)
    else .done (reply.outcome endpoint)

namespace Client

def credentials (c : Client) : Fields :=
  [("ApiVersion", .float apiVersion), ("ApiKey", .str c.apiKey)]

/-- A request to an endpoint; the data goes over the credentials. -/
def request (c : Client) (endpoint : String) (data : Fields) : Request :=
  ⟨c.base.below endpoint, Fields.overlay c.credentials data⟩

/-- Sends data to an endpoint, by a policy, and gives the object that comes back. -/
def postBy (c : Client) (retry : RetryPolicy) (endpoint : String) (data : Fields) : Call Fields :=
  let request := c.request endpoint data
  if anyFieldNonFinite request.body then throw .nonFinite
  else exchange endpoint request retry.delay retry.retries.toNat

def post (c : Client) (endpoint : String) (data : Fields) : Call Fields :=
  c.postBy c.retry endpoint data

def itemsEndpoint (site : Int) : String :=
  "/api/items/" ++ String.ofList (Text.integer site) ++ "/get"

def usersEndpoint : String := "/api/users/get"

/-- Asks for items of a site. The id of the site has to be written into the endpoint. -/
def items (c : Client) (site : Int) (data : Fields) : Call Fields :=
  if (Value.int site).isWritable then c.post (itemsEndpoint site) data else throw .integerTooLong

def users (c : Client) (data : Fields) : Call Fields :=
  c.post usersEndpoint data

/-- Whether the remote answers a listing of one user. Only a failed exchange is an answer to that
question; other failures stay failures. -/
def isReachable (c : Client) : Call Bool :=
  tryCatch (do let _ ← c.users [("PageSize", .int 1)]; return true)
    fun failure => if failure.isFetch then return false else throw failure

end Client

end IssueGateway.Remote
