import IssueGateway.Operation.Analysis
import IssueGateway.Operation.Search
import IssueGateway.Rest.Reader

/-!
# Results on the wire

The JSON form of results. Field names are in camel case, rates and amounts are doubles. A result
that does not fit its form, such as a total that is no integer or a group without a text as its
name, has none.
-/

namespace IssueGateway.Rest

open Json Operation Stats

mutual

def withoutNonFinite : Value → Value
  | .num (.float x) => if x.isFinite then .float x else .null
  | .arr items => .arr (itemsWithoutNonFinite items)
  | .obj fields => .obj (fieldsWithoutNonFinite fields)
  | v => v

/-- Items without non-finite numbers. -/
def itemsWithoutNonFinite : List Value → List Value
  | [] => []
  | v :: rest => withoutNonFinite v :: itemsWithoutNonFinite rest

/-- Fields without non-finite numbers. -/
def fieldsWithoutNonFinite : List (String × Value) → List (String × Value)
  | [] => []
  | (key, v) :: rest => (key, withoutNonFinite v) :: fieldsWithoutNonFinite rest

end

def count (n : Nat) : Value := .int n

def integerOrNull? (v : Value) : Option Value :=
  match readOptional readInteger v with
  | .ok (some n) => some (.int n)
  | .ok none => some .null
  | .error _ => none

def amount? (n : Number) : Option Value :=
  match n.toFloat with
  | .ok x => some (.float x)
  | .error _ => none

def rows (records : List Record) : Value :=
  .arr (records.map fun r => .obj r.columns)

/-- What belongs to every page: its rows under a name, the total, the window and the quota. -/
def pageFields? (name : String) (p : Page) : Option Fields := do
  let total ← integerOrNull? p.totalCount
  let remaining ← integerOrNull? p.remainingCalls
  let daily ← integerOrNull? p.dailyLimit
  return [(name, rows p.records), ("totalCount", total),
    ("pagination", .obj [("offset", .int p.offset), ("limit", .int p.limit),
      ("hasMore", .bool p.hasMore)]),
    ("apiInfo", .obj [("remainingCalls", remaining), ("dailyLimit", daily)])]

def listing? (p : Page) : Option Value :=
  (pageFields? "issues" p).map .obj

def boundValue : Option Query.Bound → Value
  | none => .null
  | some (.number n) => .num n
  | some (.flag b) => .bool b
  | some (.text s) => .str s

def dateFilterFields (f : DateFilters) : Fields :=
  [("startDateFrom", .ofText? f.startFrom), ("startDateTo", .ofText? f.startTo),
    ("completionDateFrom", .ofText? f.completionFrom),
    ("completionDateTo", .ofText? f.completionTo), ("updatedFrom", .ofText? f.updatedFrom),
    ("updatedTo", .ofText? f.updatedTo)]

def numberFilterFields (f : NumberFilters) : Fields :=
  [("progressRateMin", boundValue f.progressMin), ("progressRateMax", boundValue f.progressMax),
    ("workValueMin", boundValue f.workMin), ("workValueMax", boundValue f.workMax)]

def objectOrNull : Option Fields → Value
  | some fields => .obj fields
  | none => .null

def conditions (c : Conditions) : Value :=
  .obj [("search", .ofText? c.search),
    ("filters", objectOrNull (c.filters.map fun m => m.map fun (key, s) => (key, Value.str s))),
    ("dateFilters", objectOrNull (c.dateFilters.map dateFilterFields)),
    ("numberFilters", objectOrNull (c.numberFilters.map numberFilterFields))]

def searchResult? (c : Conditions) (p : Page) : Option Value :=
  (pageFields? "results" p).map fun fields => .obj (fields ++ [("searchConditions", conditions c)])

def siteResult (s : SiteResult) : Value :=
  .obj [("siteId", .int s.site), ("success", .bool s.isSuccess), ("results", rows s.records),
    ("count", count s.count), ("error", .ofText? s.error?)]

def searchReport (r : SearchReport) : Value :=
  .obj [("searchTerm", .str r.term), ("sites", .arr (r.sites.map siteResult)),
    ("summary", .obj [("totalSites", count r.totalSites),
      ("successfulSites", count r.successfulSites), ("totalResults", count r.totalResults),
      ("sitesWithResults", count r.sitesWithResults)])]

def groupSummary (g : GroupSummary) : Value :=
  .obj [("name", .str g.name), ("count", count g.count),
    ("averageProgress", .ofFloat? g.averageProgress),
    ("completionRate", .ofFloat? g.completionRate)]

def trendReport (r : TrendReport) : Value :=
  .obj [("analysisType", .str r.analysisType.name), ("period", .str r.period.name),
    ("dateRange", .obj [("from", .str r.firstDay.iso), ("to", .str r.lastDay.iso)]),
    ("totalIssues", count r.total),
    ("analysis", .obj [("groups", .arr (r.analysis.groups.map groupSummary)),
      ("timeSeries", .arr (r.analysis.series.map fun p =>
        .obj [("period", .str p.period), ("count", count p.count)])),
      ("trends", .obj [("increasing", .bool r.analysis.trend.increasing),
        ("peak", count r.analysis.trend.peak), ("average", .float r.analysis.trend.average)])])]

def groupRow (r : Row) : Value :=
  .obj [("id", r.id), ("title", r.title), ("status", r.status),
    ("progress", .ofNumber? r.progress)]

def group? (key : GroupKey) (g : GroupStats) : Option (String × Value) := do
  let name ← match key with
    | .text s => some s
    | _ => none
  let work ← amount? g.totalWork
  return (name, .obj [("count", count g.count), ("totalWorkValue", work),
    ("averageProgress", .float g.averageProgress), ("completedCount", count g.completedCount),
    ("completionRate", .float g.completionRate), ("records", .arr (g.rows.map groupRow))])

def summary? (s : Summary) : Option Value := do
  let groups ← s.groups.mapM fun (key, g) => group? key g
  let work ← amount? s.overview.totalWork
  return .obj [("groupBy", .str s.groupBy.name), ("totalIssues", count s.total),
    ("groupCount", count s.groupCount), ("summary", .obj groups),
    ("overview", .obj [("totalCompleted", count s.overview.totalCompleted),
      ("overallCompletionRate", .ofFloat? s.completionRate?), ("totalWorkValue", work)])]

end IssueGateway.Rest
