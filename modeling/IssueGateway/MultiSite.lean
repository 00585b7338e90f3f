import IssueGateway.Listing
import IssueGateway.Number.Total

/-!
# Searching many sites

One search text goes to several sites. A site that fails gets an entry that says why and does not
disturb the others; entries are in the order of the sites.
-/

namespace IssueGateway

/-- What the search of one site gave: its records, or why there are none. -/
structure SiteResult where
  site : Int
  outcome : Except String (List Record)

namespace SiteResult

def isSuccess (r : SiteResult) : Bool :=
  match r.outcome with
  | .ok _ => true
  | .error _ => false

def records (r : SiteResult) : List Record :=
  match r.outcome with
  | .ok records => records
  | .error _ => []

def error? (r : SiteResult) : Option String :=
  match r.outcome with
  | .ok _ => none
  | .error text => some text

def count (r : SiteResult) : Nat :=
  r.records.length

end SiteResult

structure SearchReport where
  term : String
  sites : List SiteResult

namespace SearchReport

/-- The report of a search whose entries are finished. -/
def ofEntries (term : String) (entries : List SiteResult) : SearchReport :=
  ⟨term, entries⟩

def totalSites (r : SearchReport) : Nat :=
  r.sites.length

def successfulSites (r : SearchReport) : Nat :=
  r.sites.countP SiteResult.isSuccess

def totalResults (r : SearchReport) : Nat :=
  total (r.sites.map SiteResult.count)

def sitesWithResults (r : SearchReport) : Nat :=
  r.sites.countP fun s => 0 < s.count

end SearchReport

/-- What an entry says about a failure: its wording, or its name if it has no wording. -/
def Failure.report (f : Failure) : String :=
  if f.message.isEmpty then f.name.text else f.message

def SiteResult.ofListing (site : Int) : Except Failure Page → SiteResult
  | .ok page => ⟨site, .ok page.records⟩
  | .error failure => ⟨site, .error failure.report⟩

namespace Source

variable {m : Type → Type} [Monad m] [MonadExcept Failure m]

/-- The number of records asked of each site when nothing else is said. -/
def defaultPerSiteLimit : Int := 20

/-- Searches one site; a failure becomes the outcome. -/
def searchSite (source : Source m) (query : Query.Payload) (site : Int) : m SiteResult :=
  tryCatch (do let page ← source.page site query; return ⟨site, .ok page.records⟩)
    fun failure => return ⟨site, .error failure.report⟩

def searchSites (source : Source m) (query : Query.Payload) : List Int → m (List SiteResult)
  | [] => return []
  | site :: rest => do
    let first ← source.searchSite query site
    return first :: (← source.searchSites query rest)

def searchQuery (term : String) (perSiteLimit : Int) : Query.Payload :=
  { search := some term, limit := perSiteLimit }

def search (source : Source m) (sites : List Int) (term : String)
    (perSiteLimit : Int) : m SearchReport := do
  return .ofEntries term (← source.searchSites (searchQuery term perSiteLimit) sites)

end Source

end IssueGateway
