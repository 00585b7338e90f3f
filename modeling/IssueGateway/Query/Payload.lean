import IssueGateway.Json.Value
import IssueGateway.Query.Range

/-!
# Queries

A `Description` is what a caller may ask of a listing: search text, equality filters, ranges, one
sort column and a page. A `Payload` is the assembled query. Its request has the page and, unless
nothing restricts it, a view with only those parts that are not empty.
-/

namespace IssueGateway.Query

structure Description where
  search : Option String := none
  filters : Assoc String String := []
  dateRanges : Assoc String DateRange := []
  numberRanges : Assoc String NumberRange := []
  sortBy : Option String := none
  sortOrder : Option String := none
  offset : Int := 0
  limit : Int := 100
  deriving DecidableEq, Repr

structure Payload where
  search : Option String := none
  columnFilters : Assoc String String := []
  columnExpressions : Assoc String String := []
  sorters : Assoc String String := []
  offset : Int := 0
  limit : Int := 100
  deriving DecidableEq, Repr

/-- A text that is not empty. -/
def filled : Option String → Option String
  | some s => if s.isEmpty then none else some s
  | none => none

/-- The order in which a column is sorted when none is given. -/
def defaultSortOrder : String := "desc"

/-- The sorter of a description: none without a column. -/
def Description.sorters (d : Description) : Assoc String String :=
  match filled d.sortBy with
  | some column => [(column, (filled d.sortOrder).getD defaultSortOrder)]
  | none => []

def Description.payload (d : Description) : Payload :=
  { search := filled d.search
    columnFilters := d.filters
    columnExpressions := rangeExpressions d.dateRanges d.numberRanges
    sorters := d.sorters
    offset := d.offset
    limit := d.limit }

def textObject (m : Assoc String String) : Json.Value :=
  .obj (m.map fun (key, s) => (key, .str s))

/-- A part of a view: left out if the map is empty. -/
def viewPart (name : String) (m : Assoc String String) : Json.Fields :=
  if m.isEmpty then [] else [(name, textObject m)]

/-- The search part of a view: left out if there is no text. -/
def searchPart : Option String → Json.Fields
  | some s => if s.isEmpty then [] else [("Search", .str s)]
  | none => []

/-- The parts of the view that are not empty. -/
def Payload.view (p : Payload) : Json.Fields :=
  searchPart p.search ++ viewPart "ColumnFilterHash" p.columnFilters ++
    viewPart "ColumnFilterExpressions" p.columnExpressions ++ viewPart "ColumnSorterHash" p.sorters

/-- The request of a query, without credentials. -/
def Payload.request (p : Payload) : Json.Fields :=
  [("Offset", .int p.offset), ("PageSize", .int p.limit)] ++
    if p.view.isEmpty then [] else [("View", .obj p.view)]

end IssueGateway.Query
