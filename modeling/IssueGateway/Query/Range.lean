import IssueGateway.Json.Value

/-!
# Range expressions

The remote takes the bounds of a column as text, `>=[Column]>=value` for the lower and
`<=[Column]<=value` for the upper one, written one after the other. Dates stand between single
quotes, numbers are bare.
-/

namespace IssueGateway.Query

/-- Inclusive date bounds of a column; an empty text is no bound. -/
structure DateRange where
  first : Option String := none
  last : Option String := none
  deriving DecidableEq, Repr

inductive Bound where
  | number (n : Number)
  | flag (b : Bool)
  | text (s : String)
  deriving DecidableEq, Repr

def Bound.value : Bound → Json.Value
  | .number n => .num n
  | .flag b => .bool b
  | .text s => .str s

structure NumberRange where
  minimum : Option Bound := none
  maximum : Option Bound := none
  deriving DecidableEq, Repr

/-- The numeral of a number in an expression: a whole number has no fraction and no exponent. -/
def wholeOrShortest : Number → String
  | .int n => String.ofList (Text.integer n)
  | .float x => match Number.whole? x with
    | some n => String.ofList (Text.integer n)
    | none => Number.numeral x

def Bound.written : Bound → String
  | .number n => wholeOrShortest n
  | .flag true => "True"
  | .flag false => "False"
  | .text s => s

def lowerClause (column value : String) : String :=
  ">=[" ++ column ++ "]>=" ++ value

def upperClause (column value : String) : String :=
  "<=[" ++ column ++ "]<=" ++ value

def quotedDate (date : String) : String :=
  "'" ++ date ++ "'"

/-- The clause of a date bound; nothing if there is none. -/
def dateClause (clause : String → String → String) (column : String) : Option String → String
  | none => ""
  | some date => if date.isEmpty then "" else clause column (quotedDate date)

/-- The clause of a numeric bound; nothing if there is none. -/
def numberClause (clause : String → String → String) (column : String) : Option Bound → String
  | none => ""
  | some bound => clause column bound.written

/-- An expression without any clause is none. -/
def nonEmpty (expression : String) : Option String :=
  if expression.isEmpty then none else some expression

/-- The expression of date bounds, or none if there are no bounds. -/
def DateRange.expression (column : String) (range : DateRange) : Option String :=
  nonEmpty (dateClause lowerClause column range.first ++ dateClause upperClause column range.last)

/-- The expression of numeric bounds, or none if there are no bounds. -/
def NumberRange.expression (column : String) (range : NumberRange) : Option String :=
  nonEmpty (numberClause lowerClause column range.minimum ++
    numberClause upperClause column range.maximum)

def addExpression (expressions : Assoc String String) (column : String) :
    Option String → Assoc String String
  | none => expressions
  | some expression => Assoc.update expressions column fun old => old.getD "" ++ expression

/-- The expressions of all columns that have a bound: dates first, then numbers, those of one column
joined. -/
def rangeExpressions (dates : Assoc String DateRange) (numbers : Assoc String NumberRange) :
    Assoc String String :=
  let fromDates := dates.foldl
    (fun acc (column, range) => addExpression acc column (range.expression column)) []
  numbers.foldl (fun acc (column, range) => addExpression acc column (range.expression column))
    fromDates

end IssueGateway.Query
