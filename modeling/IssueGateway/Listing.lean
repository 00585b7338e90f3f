import IssueGateway.Query.Payload
import IssueGateway.Record
import IssueGateway.Failure

/-!
# Listings

One page of a site's items, read from what the remote sends back. Absent parts count as empty, rows
that are no objects are skipped, and parts of the wrong kind are failures.
-/

namespace IssueGateway

open Json

/-- One page of a site's items with what the remote says beside them. -/
structure Page where
  site : Int
  records : List Record
  totalCount : Value
  remainingCalls : Value
  dailyLimit : Value
  offset : Int
  limit : Int
  deriving Repr

namespace Page

def hasMore (p : Page) : Bool :=
  (p.records.length : Int) == p.limit

def asObject : Value → Except Failure Fields
  | .obj fields => .ok fields
  | v => .error (.notAnObject v.kind)

def record? : Value → Option Record
  | .obj fields => some ⟨fields⟩
  | _ => none

/-- The records in a list of rows. The parts of a text or an object are no rows. -/
def recordsOf : Value → Except Failure (List Record)
  | .arr rows => .ok (rows.filterMap record?)
  | .str _ | .obj _ => .ok []
  | v => .error (.notAList v.kind)

def ofResponse (site : Int) (query : Query.Payload) (response : Value) : Except Failure Page := do
  let response ← asObject response
  let body ← asObject ((Fields.get response "Response").orElse (.obj []))
  let records ← recordsOf ((Fields.get body "Data").orElse (.arr []))
  return { site, records
           totalCount := Fields.get body "TotalCount"
           remainingCalls := Fields.get response "LimitRemaining"
           dailyLimit := Fields.get response "LimitPerDate"
           offset := query.offset, limit := query.limit }

end Page

/-- Where listings come from: given a site and a request, the value that comes back. -/
abbrev Source (m : Type → Type) := Int → Fields → m Value

namespace Source

variable {m : Type → Type} [Monad m] [MonadExcept Failure m]

def page (source : Source m) (site : Int) (query : Query.Payload) : m Page := do
  let response ← source site query.request
  MonadExcept.ofExcept (Page.ofResponse site query response)

def recordQuery (id : Int) : Except Failure Query.Payload := do
  return { columnFilters := [("IssueId", ← (Value.int id).write)], limit := 1 }

def record? (source : Source m) (site id : Int) : m (Option Record) := do
  let query ← MonadExcept.ofExcept (recordQuery id)
  let page ← source.page site query
  return page.records.head?

end Source

end IssueGateway
