import IssueGateway.Operation.Analysis
import IssueGateway.Operation.Search
import IssueGateway.Rest.Reader

/-!
# Arguments of requests

What the operations are asked to do, read from the path, the query and the body of a request.
-/

namespace IssueGateway.Rest

open Json Operation

def pathInteger (name value : String) : Validated Int :=
  ((readIntegerText value).inside name).inside "path"

/-- A parameter of the query, which is known by its camel-case name only; the last of several
counts. -/
def queryParameter (query : List (String × String)) (name : String) (default : α)
    (read : Reader α) : Validated α :=
  match query.reverse.lookup (camelCase name) with
  | some s => ((read (.str s)).inside (camelCase name)).inside "query"
  | none => .ok default

def queryOptional (query : List (String × String)) (name : String) (read : Reader α) :
    Validated (Option α) :=
  queryParameter query name none fun v => some <$> read v

/-- A sort order. -/
def readSortOrder : Reader String :=
  readChoice sortOrders id

/-- A sort order as an argument. -/
def sortOrderValue (order : Option String) : Value := .ofText? order

def listArguments (site : String) (query : List (String × String)) : Validated ListArguments :=
  (fun site search status assignee manager sortBy sortOrder offset limit =>
    ({ site := .int site, search, status, assignee, manager, sortBy
       sortOrder := sortOrderValue sortOrder
       offset := .int offset, limit := .int limit } : ListArguments))
    <$> pathInteger "site_id" site
    <*> queryOptional query "search" readText
    <*> queryOptional query "status" readText
    <*> queryOptional query "assignee" readInteger
    <*> queryOptional query "manager" readInteger
    <*> queryOptional query "sort_by" readText
    <*> queryOptional query "sort_order" readSortOrder
    <*> queryParameter query "offset" 0 (readFrom 0)
    <*> queryParameter query "limit" 50 (readBetween 1 maxLimit)

def lookupArguments (site issue : String) : Validated (Int × Int) :=
  (·, ·) <$> pathInteger "site_id" site <*> pathInteger "issue_id" issue

def readDateFilters : Reader DateFilters :=
  readObject fun fields =>
    DateFilters.mk
      <$> optional fields "start_date_from" readText
      <*> optional fields "start_date_to" readText
      <*> optional fields "completion_date_from" readText
      <*> optional fields "completion_date_to" readText
      <*> optional fields "updated_from" readText
      <*> optional fields "updated_to" readText

def doubleBound (x : Option Float) : Option Query.Bound :=
  x.map fun x => .number (.float x)

def readNumberFilters : Reader NumberFilters :=
  readObject fun fields =>
    (fun progressMin progressMax workMin workMax =>
      (⟨doubleBound progressMin, doubleBound progressMax, doubleBound workMin,
        doubleBound workMax⟩ : NumberFilters))
      <$> optional fields "progress_rate_min" readPercentage
      <*> optional fields "progress_rate_max" readPercentage
      <*> optional fields "work_value_min" readDouble
      <*> optional fields "work_value_max" readDouble

def readSearchArguments : Reader SearchArguments :=
  readObject fun fields =>
    (fun site search filters dateFilters numberFilters sortBy sortOrder limit offset =>
      ({ site := .int site, search, filters, dateFilters, numberFilters, sortBy
         sortOrder := sortOrderValue sortOrder
         offset := .int offset, limit := .int limit } : SearchArguments))
      <$> required fields "site_id" (readAbove 0)
      <*> optional fields "search" readText
      <*> optional fields "filters" readTexts
      <*> optional fields "date_filters" readDateFilters
      <*> optional fields "number_filters" readNumberFilters
      <*> optional fields "sort_by" readText
      <*> optional fields "sort_order" readSortOrder
      <*> fieldOr 100 fields "limit" (readBetween 1 maxLimit)
      <*> fieldOr 0 fields "offset" (readFrom 0)

def readMultiSiteArguments : Reader MultiSiteArguments :=
  readObject fun fields =>
    (fun sites search limit =>
      ({ sites := sites.map Value.int, search, limit := .int limit } : MultiSiteArguments))
      <$> required fields "site_ids" (readList maxSites readInteger)
      <*> required fields "search" readFilledText
      <*> fieldOr Source.defaultPerSiteLimit fields "limit" (readBetween 1 maxPerSiteLimit)

def readTrendArguments : Reader TrendArguments :=
  readObject fun fields =>
    (fun site (analysisType : Stats.AnalysisType) (period : Calendar.Period) groupBy =>
      ({ site := .int site, analysisType := .str analysisType.name
         period := .str period.name, groupBy } : TrendArguments))
      <$> required fields "site_id" (readAbove 0)
      <*> required fields "analysis_type"
        (readChoice Stats.AnalysisType.all Stats.AnalysisType.name)
      <*> required fields "period" (readChoice Calendar.Period.all Calendar.Period.name)
      <*> optional fields "group_by" readText

def summaryArguments (site : String) (query : List (String × String)) :
    Validated SummaryArguments :=
  (fun site (groupBy : Stats.GroupBy) =>
    ({ site := .int site, groupBy := .str groupBy.name } : SummaryArguments))
    <$> pathInteger "site_id" site
    <*> queryParameter query "group_by" .status (readChoice Stats.GroupBy.all Stats.GroupBy.name)

end IssueGateway.Rest
