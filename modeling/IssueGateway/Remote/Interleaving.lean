import IssueGateway.Remote.Script

/-!
# Calls side by side

Several calls go on at once. Each stands somewhere on its own way: about to act, waiting for a
reply, or asleep. At any time any one of them may make its next move, and nothing says which; a
reply that comes in is any reply at all. A history tells who moved, and how, in order of time.
-/

namespace IssueGateway.Remote

variable {α : Type}

/-- Where a call stands between two moves. -/
inductive Errand (α : Type) where
  | ready (call : Call α)
  | awaiting (next : Reply → Call α)
  | asleep (next : Call α)

inductive Move where
  | send (request : Request)
  | receive (reply : Reply)
  | sleep (delay : Number)
  | wake
  deriving Repr

inductive Errand.Step : Errand α → Move → Errand α → Prop where
  | send (request : Request) (next : Reply → Call α) :
    Step (.ready (.send request next)) (.send request) (.awaiting next)
  | receive (next : Reply → Call α) (reply : Reply) :
    Step (.awaiting next) (.receive reply) (.ready (next reply))
  | sleep (delay : Number) (next : Call α) :
    Step (.ready (.sleep delay next)) (.sleep delay) (.asleep next)
  | wake (next : Call α) : Step (.asleep next) .wake (.ready next)

def Errand.IsDone (errand : Errand α) : Prop :=
  ∃ result, errand = .ready (.done result)

/-- What a call has come to, once it has. -/
def Errand.answer? : Errand α → Option α
  | .ready (.done (.ok a)) => some a
  | _ => none

abbrev History := List (Nat × Move)

/-- One of several calls makes a move and the others stay where they are. -/
inductive PoolStep : List (Errand α) → Nat × Move → List (Errand α) → Prop where
  | move {pool : List (Errand α)} {i : Nat} {errand next : Errand α} {m : Move}
    (here : pool[i]? = some errand) (step : errand.Step m next) :
    PoolStep pool (i, m) (pool.set i next)

inductive PoolRun : List (Errand α) → History → List (Errand α) → Prop where
  | nil (pool : List (Errand α)) : PoolRun pool [] pool
  | cons {pool middle last : List (Errand α)} {moved : Nat × Move} {history : History}
    (step : PoolStep pool moved middle) (rest : PoolRun middle history last) :
    PoolRun pool (moved :: history) last

def movesOf (i : Nat) (history : History) : List Move :=
  history.filterMap fun (j, m) => if j = i then some m else none

def delivered (moves : List Move) : List Reply :=
  moves.filterMap fun
    | .receive reply => some reply
    | _ => none

def seen (moves : List Move) : List Event :=
  moves.filterMap fun
    | .send request => some (.sent request)
    | .sleep delay => some (.slept delay)
    | _ => none

/-- A server that answers with the replies of a list, one after the other. -/
def queueServer : Server (List Reply) := fun replies _ => (upcoming replies, replies.tail)

end IssueGateway.Remote
