import IssueGateway.Operation.Browse
import IssueGateway.Stats.Aggregate
import IssueGateway.Stats.Trend

/-!
# Analysing a site

Trends count the records of a window that ends today; summaries group all records of one page. Both
look at the first thousand records.
-/

namespace IssueGateway.Operation

open Json Remote Stats Calendar

def analysisLimit : Int := 1000

structure TrendArguments where
  site : Value
  analysisType : Value
  period : Value
  groupBy : Option String := none
  deriving Repr

structure TrendReport where
  analysisType : AnalysisType
  period : Period
  firstDay : Date
  lastDay : Date
  total : Nat
  analysis : TrendAnalysis

def trendQuery (analysisType : AnalysisType) (firstDay : Date) (groupBy : Option String) :
    Query.Payload :=
  let description : Query.Description :=
    { filters := if analysisType = .completion then
          [("Status", String.ofList (Text.integer Record.completedStatus))]
        else []
      dateRanges := [(analysisType.dateColumn, { first := some firstDay.iso })]
      sortBy := groupBy, sortOrder := some "asc", limit := analysisLimit }
  description.payload

def TrendArguments.check (a : TrendArguments) : Except Failure (Int × AnalysisType × Period) := do
  let site ← checkId "site_id" a.site
  let analysisType ← checkChoice "analysis_type" AnalysisType.all AnalysisType.name a.analysisType
  let period ← checkChoice "period" Period.all Period.name a.period
  return (site, analysisType, period)

/-- Counts the records of the window that ends today. -/
def trend (c : Client) (today : Date) (a : TrendArguments) : Call TrendReport := do
  let (site, analysisType, period) ← MonadExcept.ofExcept a.check
  let firstDay ← MonadExcept.ofExcept ((period.windowStart today).mapError Failure.date)
  let page ← (source c).page site (trendQuery analysisType firstDay a.groupBy)
  let analysis ← MonadExcept.ofExcept
    (analyze page.records analysisType.name period.name a.groupBy none)
  return { analysisType, period, firstDay, lastDay := today
           total := page.records.length, analysis }

structure SummaryArguments where
  site : Value
  groupBy : Value := .str "status"
  deriving Repr

structure Summary where
  groupBy : GroupBy
  total : Nat
  groups : Assoc GroupKey GroupStats
  overview : Overview

def Summary.groupCount (s : Summary) : Nat := s.groups.length

/-- The share of completed items over all groups; none when there are no items. -/
def Summary.completionRate? (s : Summary) : Option Float :=
  if s.overview.completionRate.isNaN then none else some s.overview.completionRate

def SummaryArguments.check (a : SummaryArguments) : Except Failure (Int × GroupBy) := do
  let site ← checkId "site_id" a.site
  return (site, ← checkChoice "group_by" GroupBy.all GroupBy.name a.groupBy)

def statusSummary (c : Client) (a : SummaryArguments) : Call Summary := do
  let (site, groupBy) ← MonadExcept.ofExcept a.check
  let page ← (source c).page site { limit := analysisLimit }
  let groups ← MonadExcept.ofExcept (aggregate page.records groupBy.select)
  let overview ← MonadExcept.ofExcept (overview page.records groups)
  return { groupBy, total := page.records.length, groups, overview }

end IssueGateway.Operation
