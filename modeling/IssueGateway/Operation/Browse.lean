import IssueGateway.Listing
import IssueGateway.Operation.Rules
import IssueGateway.Remote.Client

/-!
# Browsing a site

Listing the issues of a site, page by page, and looking one up.
-/

namespace IssueGateway.Operation

open Json Remote

def source (c : Client) : Source Call := fun site request =>
  Value.obj <$> c.items site request

structure ListArguments where
  site : Value
  search : Option String := none
  status : Option String := none
  assignee : Option Int := none
  manager : Option Int := none
  sortBy : Option String := none
  sortOrder : Value := .null
  offset : Value := .int 0
  limit : Value := .int 50
  deriving Repr

def maxLimit : Nat := 1000

/-- The filter of a person: zero is nobody. -/
def personFilter (column : String) : Option Int → Except Failure (Assoc String String)
  | some id => if id = 0 then .ok [] else do return [(column, ← (Value.int id).write)]
  | none => .ok []

def statusFilter (status : Option String) : Assoc String String :=
  match Query.filled status with
  | some status => [("Status", status)]
  | none => []

def ListArguments.filters (a : ListArguments) : Except Failure (Assoc String String) := do
  let owner ← personFilter "Owner" a.assignee
  let manager ← personFilter "Manager" a.manager
  return statusFilter a.status ++ owner ++ manager

def ListArguments.check (a : ListArguments) : Except Failure (Int × Query.Payload) := do
  let site ← checkId "site_id" a.site
  let offset ← checkOffset a.offset
  let limit ← checkLimit maxLimit a.limit
  let sortOrder ← checkSortOrder a.sortOrder
  let filters ← a.filters
  let description : Query.Description :=
    { search := a.search, filters, sortBy := a.sortBy, sortOrder, offset, limit }
  return (site, description.payload)

def listIssues (c : Client) (a : ListArguments) : Call Page := do
  let (site, query) ← MonadExcept.ofExcept a.check
  (source c).page site query

def checkLookup (site issue : Value) : Except Failure (Int × Int) := do
  return (← checkId "site_id" site, ← checkId "issue_id" issue)

def getIssue (c : Client) (site issue : Value) : Call Record := do
  let (site, issue) ← MonadExcept.ofExcept (checkLookup site issue)
  match ← (source c).record? site issue with
  | some record => return record
  | none => throw (.notFound issue site)

end IssueGateway.Operation
