import IssueGateway.MultiSite
import IssueGateway.Operation.Browse

/-!
# Searching

The search of one site takes any equality filters and bounds on three dates and two numbers. The
search of many sites takes a text.
-/

namespace IssueGateway.Operation

open Json Remote

structure DateFilters where
  startFrom : Option String := none
  startTo : Option String := none
  completionFrom : Option String := none
  completionTo : Option String := none
  updatedFrom : Option String := none
  updatedTo : Option String := none
  deriving DecidableEq, Repr

def DateFilters.ranges (f : DateFilters) : Assoc String Query.DateRange :=
  [("StartTime", ⟨f.startFrom, f.startTo⟩), ("CompletionTime", ⟨f.completionFrom, f.completionTo⟩),
    ("UpdatedTime", ⟨f.updatedFrom, f.updatedTo⟩)]

structure NumberFilters where
  progressMin : Option Query.Bound := none
  progressMax : Option Query.Bound := none
  workMin : Option Query.Bound := none
  workMax : Option Query.Bound := none
  deriving DecidableEq, Repr

def NumberFilters.ranges (f : NumberFilters) : Assoc String Query.NumberRange :=
  [("ProgressRate", ⟨f.progressMin, f.progressMax⟩), ("WorkValue", ⟨f.workMin, f.workMax⟩)]

/-- The progress bounds that are given lie between 0 and 100. -/
def NumberFilters.check (f : NumberFilters) : Except Failure Unit := do
  for bound in f.progressMin.toList ++ f.progressMax.toList do
    checkProgressBound bound

/-- The bounds on work become text. Those on progress are small once they are checked. -/
def NumberFilters.requireWritable (f : NumberFilters) : Except Failure Unit :=
  if (f.workMin.toList ++ f.workMax.toList).all fun bound => bound.value.isWritable then .ok ()
  else .error .integerTooLong

/-- What a search of one site asks for, apart from order and page. -/
structure Conditions where
  search : Option String := none
  filters : Option (Assoc String String) := none
  dateFilters : Option DateFilters := none
  numberFilters : Option NumberFilters := none
  deriving DecidableEq, Repr

structure SearchArguments extends Conditions where
  site : Value
  sortBy : Option String := none
  sortOrder : Value := .null
  offset : Value := .int 0
  limit : Value := .int 100
  deriving Repr

def SearchArguments.check (a : SearchArguments) : Except Failure (Int × Query.Payload) := do
  let site ← checkId "site_id" a.site
  let offset ← checkOffset a.offset
  let limit ← checkLimit maxLimit a.limit
  let sortOrder ← checkSortOrder a.sortOrder
  (a.numberFilters.getD {}).check
  (a.numberFilters.getD {}).requireWritable
  let description : Query.Description :=
    { search := a.search, filters := a.filters.getD []
      dateRanges := (a.dateFilters.map DateFilters.ranges).getD []
      numberRanges := (a.numberFilters.map NumberFilters.ranges).getD []
      sortBy := a.sortBy, sortOrder, offset, limit }
  return (site, description.payload)

def search (c : Client) (a : SearchArguments) : Call Page := do
  let (site, query) ← MonadExcept.ofExcept a.check
  (source c).page site query

structure MultiSiteArguments where
  sites : List Value
  search : String
  limit : Value := .int Source.defaultPerSiteLimit
  deriving Repr

def maxSites : Nat := 10

def maxPerSiteLimit : Nat := 100

def MultiSiteArguments.check (a : MultiSiteArguments) : Except Failure (List Int × Int) := do
  if a.sites.isEmpty ∨ maxSites < a.sites.length then
    throw (.ofRule (.siteCount maxSites a.sites.length))
  let sites ← a.sites.mapM (checkId "site_ids")
  if a.search.isEmpty then
    throw (.ofRule .emptySearch)
  let limit ← checkLimit maxPerSiteLimit a.limit
  return (sites, limit)

def searchSites (c : Client) (a : MultiSiteArguments) : Call SearchReport := do
  let (sites, limit) ← MonadExcept.ofExcept a.check
  (source c).search sites a.search limit

end IssueGateway.Operation
