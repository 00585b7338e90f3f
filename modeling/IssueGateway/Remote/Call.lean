import IssueGateway.Failure
import IssueGateway.Address

/-!
# Calls

A call is what a program does against the remote: it sends requests, each answered by a reply,
waits between them, and ends with a value or a failure. It is data, so that one call can be run
against any server, or step by step beside others.
-/

namespace IssueGateway.Remote

/-- A request: where it goes and the JSON object that it carries. -/
structure Request where
  address : Address
  body : Json.Fields
  deriving Repr

/-- A response; the reason phrase says in words what the status says. -/
structure Response where
  status : Nat := 200
  reason : String := ""
  body : List UInt8 := []
  deriving Repr

/-- How a request ends. -/
inductive Reply where
  | response (response : Response)
  /-- Nothing came in time. -/
  | timeout
  | unreachable (detail : String)
  /-- Anything else that goes wrong with a request, as when it cannot be put into bytes. -/
  | fault (cause : Failure)
  deriving Repr

inductive Call (α : Type) where
  | done (result : Except Failure α)
  | send (request : Request) (next : Reply → Call α)
  | sleep (delay : Number) (next : Call α)

namespace Call

variable {α β : Type}

def bind (call : Call α) (f : α → Call β) : Call β :=
  match call with
  | .done (.ok a) => f a
  | .done (.error e) => .done (.error e)
  | .send request next => .send request fun reply => (next reply).bind f
  | .sleep delay next => .sleep delay (next.bind f)

def handle (call : Call α) (f : Failure → Call α) : Call α :=
  match call with
  | .done (.ok a) => .done (.ok a)
  | .done (.error e) => f e
  | .send request next => .send request fun reply => (next reply).handle f
  | .sleep delay next => .sleep delay (next.handle f)

instance : Monad Call where
  pure a := .done (.ok a)
  bind := Call.bind

instance : MonadExcept Failure Call where
  throw e := .done (.error e)
  tryCatch := Call.handle

end Call

inductive Event where
  | sent (request : Request)
  | slept (delay : Number)
  deriving Repr

abbrev Server (σ : Type) := σ → Request → Reply × σ

/-- A finished call: its result, what it did, and the state in which it left the server. -/
structure Run (α σ : Type) where
  result : Except Failure α
  events : List Event
  state : σ

def Call.run {α σ : Type} (server : Server σ) : Call α → σ → Run α σ
  | .done result, s => ⟨result, [], s⟩
  | .send request next, s =>
    let (reply, s) := server s request
    let rest := (next reply).run server s
    { rest with events := .sent request :: rest.events }
  | .sleep delay next, s =>
    let rest := next.run server s
    { rest with events := .slept delay :: rest.events }

section Run

variable {α β σ : Type} (server : Server σ)

@[simp] theorem Call.run_done (result : Except Failure α) (s : σ) :
    (Call.done result).run server s = ⟨result, [], s⟩ := rfl

@[simp] theorem Call.run_send (request : Request) (next : Reply → Call α) (s : σ) :
    (Call.send request next).run server s =
      { (next (server s request).1).run server (server s request).2 with
        events := .sent request ::
          ((next (server s request).1).run server (server s request).2).events } := rfl

@[simp] theorem Call.run_sleep (delay : Number) (next : Call α) (s : σ) :
    (Call.sleep delay next).run server s =
      { next.run server s with events := .slept delay :: (next.run server s).events } := rfl

/-- What a run is followed by, given the value it ends with. -/
def Run.andThen (first : Run α σ) (f : α → σ → Run β σ) : Run β σ :=
  match first.result with
  | .ok a => { f a first.state with events := first.events ++ (f a first.state).events }
  | .error e => ⟨.error e, first.events, first.state⟩

/-- A call that goes on runs as its two parts, one after the other. -/
theorem Call.run_bind (call : Call α) (f : α → Call β) (s : σ) :
    (call.bind f).run server s =
      (call.run server s).andThen fun a s => (f a).run server s := by
  induction call generalizing s with
  | done result => cases result <;> rfl
  | send request next ih =>
    simp only [Call.bind, Call.run_send, ih]
    simp only [Run.andThen]
    split <;> rfl
  | sleep delay next ih =>
    simp only [Call.bind, Call.run_sleep, ih]
    simp only [Run.andThen]
    split <;> rfl

end Run

def requests (events : List Event) : List Request :=
  events.filterMap fun
    | .sent request => some request
    | .slept _ => none

def sleeps (events : List Event) : List Number :=
  events.filterMap fun
    | .sent _ => none
    | .slept delay => some delay

end IssueGateway.Remote
