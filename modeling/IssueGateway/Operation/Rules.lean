import IssueGateway.Failure

/-!
# Rules for arguments

Callers may hand in any value. Each check gives what the operation works with or fails for the rule
that the value breaks. A truth value is never a number here.
-/

namespace IssueGateway.Operation

open Json

def checkId (name : String) (v : Value) : Except Failure Int :=
  match v with
  | .num (.int n) => if 0 < n then .ok n else .error (.ofRule (.id name v))
  | _ => .error (.ofRule (.id name v))

def checkOffset (v : Value) : Except Failure Int :=
  match v with
  | .num (.int n) => if 0 ≤ n then .ok n else .error (.ofRule (.offset v))
  | _ => .error (.ofRule (.offset v))

def checkLimit (maximum : Nat) (v : Value) : Except Failure Int :=
  match v with
  | .num (.int n) =>
    if 1 ≤ n ∧ n ≤ maximum then .ok n else .error (.ofRule (.limit maximum v))
  | _ => .error (.ofRule (.limit maximum v))

def sortOrders : List String := ["asc", "desc"]

/-- A sort order is one of the two, or none is given. -/
def checkSortOrder (v : Value) : Except Failure (Option String) :=
  match v with
  | .null => .ok none
  | .str s => if sortOrders.contains s then .ok (some s) else .error (.ofRule (.sortOrder v))
  | _ => .error (.ofRule (.sortOrder v))

/-- A name is one of some choices; `all` are the choices and `name` tells their names. -/
def checkChoice (argument : String) (all : List α) (name : α → String) (v : Value) :
    Except Failure α :=
  let broken := .error (.ofRule (.choice argument (all.map name) v))
  match v with
  | .str s => match all.find? fun a => name a == s with
    | some a => .ok a
    | none => broken
  | _ => broken

/-- A progress bound lies between 0 and 100; only numbers and truth values can be compared. -/
def checkProgressBound (bound : Query.Bound) : Except Failure Unit :=
  let within := fun n : Number => Number.le (.int 0) n && n.le (.int 100)
  match bound with
  | .number n => if within n then .ok () else .error (.ofRule (.progressBound bound))
  | .flag _ => .ok ()
  | .text _ => .error (.incomparable .str)

end IssueGateway.Operation
