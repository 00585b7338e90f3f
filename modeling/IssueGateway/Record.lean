import IssueGateway.Calendar.Reading

/-!
# Records

A record is one item of a site, an issue or a result, with every column as the remote sent it. The
functions here give the columns that statistics look at.
-/

namespace IssueGateway

structure Record where
  columns : Json.Fields
  deriving Repr

namespace Record

open Json

def completedStatus : Int := 900

/-- The value of a column; an absent column is `null`. -/
def get (r : Record) (column : String) : Value :=
  Fields.get r.columns column

/-- The value of a column, or `default` if the record does not have it. -/
def getD (r : Record) (column : String) (default : Value) : Value :=
  (Assoc.get? r.columns column).getD default

def id (r : Record) : Value :=
  (r.get "IssueId").orElse (r.get "ResultId")

def title (r : Record) : Value := r.get "Title"

def status (r : Record) : Value := r.get "Status"

def number? (r : Record) (column : String) : Option Number :=
  match r.get column with
  | .num n => some n
  | _ => none

def progressRate? (r : Record) : Option Number := r.number? "ProgressRate"

def workValue? (r : Record) : Option Number := r.number? "WorkValue"

def time? (r : Record) (column : String) : Option Calendar.Timestamp :=
  Calendar.Timestamp.ofValue? (r.get column)

def isNumber (v : Value) (n : Int) : Bool :=
  match v with
  | .num m => m.equals (.int n)
  | _ => false

def isCompleted (r : Record) : Bool :=
  isNumber r.status completedStatus

end Record

end IssueGateway
