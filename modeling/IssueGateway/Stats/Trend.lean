import IssueGateway.Stats.Amount

/-!
# Trends

Records are counted per calendar bucket of a date column, the buckets ordered by their keys. Weeks
are counted within their month, seven days each. The trend compares the later half of the counts
with the earlier one. Beside it each group of a column has its count and rates.
-/

namespace IssueGateway.Stats

open Json Calendar

inductive AnalysisType where
  | completion | creation | update | progress
  deriving DecidableEq, Repr

namespace AnalysisType

def name : AnalysisType → String
  | .completion => "completion"
  | .creation => "creation"
  | .update => "update"
  | .progress => "progress"

def all : List AnalysisType := [.completion, .creation, .update, .progress]

def ofName? (name : String) : Option AnalysisType :=
  all.find? fun a => a.name == name

def dateColumn : AnalysisType → String
  | .creation => "CreatedTime"
  | .completion | .update | .progress => "UpdatedTime"

end AnalysisType

/-- The column that dates a record in a named analysis; other names go by creation. -/
def dateColumn (analysisType : String) : String :=
  match AnalysisType.ofName? analysisType with
  | some a => a.dateColumn
  | none => "CreatedTime"

def numeral (n : Nat) : String :=
  String.ofList (Text.natural n)

/-- The number of parts of a size that are begun: the quotient, which is a double, rounded up. -/
def partsBegun (n size : Nat) : Nat :=
  ((Number.ceiling? (Number.ratio n size)).getD 0).toNat

/-- The key of the bucket that a date falls into; a name that is no period makes days. -/
def bucketKey (d : Date) (period : String) : String :=
  match Period.ofName? period with
  | some .week => numeral d.year ++ "-W" ++ numeral (partsBegun d.day 7)
  | some .month => numeral d.year ++ "-" ++ String.ofList (Text.padded 2 d.month)
  | some .quarter => numeral d.year ++ "-Q" ++ numeral (partsBegun d.month 3)
  | some .year => numeral d.year
  | none => d.iso

def mean (values : List Number) : Except RangeError Float := do
  (← Number.sum values).dividedBy values.length

/-- The mean of the later half less the mean of the earlier half; an odd one out belongs to the
later half. Fewer than two values have no slope. -/
def slope (values : List Number) : Except RangeError Float :=
  if values.length < 2 then .ok 0.0
  else do
    let middle := values.length / 2
    let later ← mean (values.drop middle)
    let earlier ← mean (values.take middle)
    return later - earlier

/-- Count and rates of a group; an empty group has no rates. -/
structure GroupSummary where
  name : String
  count : Nat
  averageProgress : Option Float
  completionRate : Option Float
  deriving Repr

def summarize (name : String) (records : List Record) : Except Failure GroupSummary :=
  if records.isEmpty then .ok ⟨name, 0, none, none⟩
  else do
    let average ← checked (mean (records.map progress))
    let completed := records.countP Record.isCompleted
    return ⟨name, records.length, some average, some (Number.percent completed records.length)⟩

structure SeriesPoint where
  period : String
  count : Nat
  deriving DecidableEq, Repr

structure Trend where
  increasing : Bool
  peak : Nat
  average : Float
  deriving Repr

structure TrendAnalysis where
  groups : List GroupSummary
  series : List SeriesPoint
  trend : Trend
  deriving Repr

/-- The value that names the group of a record. -/
def groupValue (column : String) (r : Record) : Value :=
  (r.get column).orElse (.str "unknown")

def groupRecord (column : String) (groups : Assoc String (List Record)) (r : Record) :
    Except Failure (Assoc String (List Record)) := do
  let name ← (groupValue column r).write
  return Assoc.update groups name fun members => members.getD [] ++ [r]

/-- The groups of a column; without a column all records are one group. -/
def groupRecords (records : List Record) :
    Option String → Except Failure (Assoc String (List Record))
  | none => .ok [("all", records)]
  | some column => records.foldlM (groupRecord column) []

/-- How many records fall into each bucket, buckets in order of first record. -/
def bucketCounts (records : List Record) (column period : String) : Assoc String Nat :=
  (records.filterMap fun r => (r.time? column).map fun t => bucketKey t.date period).foldl
    (fun counts key => Assoc.update counts key fun n => n.getD 0 + 1) []

/-- The buckets in order of their keys. -/
def series (records : List Record) (column period : String) : List SeriesPoint :=
  ((bucketCounts records column period).map fun (key, n) => SeriesPoint.mk key n).mergeSort
    fun a b => decide (a.period ≤ b.period)

/-- The shape of a series of counts. -/
def Trend.of (counts : List Nat) : Except RangeError Trend := do
  let change ← slope (counts.map fun n : Nat => Number.int n)
  return { increasing := 0.0 < change
           peak := counts.foldl max 0
           average := if counts.isEmpty then 0.0 else Number.ratio (total counts) counts.length }

/-- Counts records per bucket and group. An empty column name is none. -/
def analyze (records : List Record) (analysisType period : String) (groupBy : Option String)
    (dateField : Option String) : Except Failure TrendAnalysis := do
  let column := match dateField with
    | some column => if column.isEmpty then dateColumn analysisType else column
    | none => dateColumn analysisType
  let named ← groupRecords records (groupBy.filter fun g => !g.isEmpty)
  let series := series records column period
  let trend ← checked (Trend.of (series.map (·.count)))
  let groups ← named.mapM fun (name, members) => summarize name members
  return { groups, series, trend }

end IssueGateway.Stats
