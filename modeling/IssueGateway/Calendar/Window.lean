import IssueGateway.Calendar.Date
import IssueGateway.Text.Digit

/-!
# Analysis windows

An analysis looks back from today by a week, or by one, three or twelve months. Going back by months
keeps the day of the month and stops at the last day of a shorter month.
-/

namespace IssueGateway.Calendar

/-- Why there is no such date. -/
inductive DateError where
  | yearOutOfRange (year : Int)
  | monthOutOfRange
  | dayOutOfRange
  /-- The date would lie before the first day of the calendar. -/
  | beforeCalendar
  deriving DecidableEq, Repr

def DateError.message : DateError → String
  | .yearOutOfRange year => "year " ++ String.ofList (Text.integer year) ++ " is out of range"
  | .monthOutOfRange => "month must be in 1..12"
  | .dayOutOfRange => "day is out of range for month"
  | .beforeCalendar => "date value out of range"

def Date.make (year month day : Int) : Except DateError Date :=
  if year < 1 ∨ 9999 < year then .error (.yearOutOfRange year)
  else if month < 1 ∨ 12 < month then .error .monthOutOfRange
  else if day < 0 then .error .dayOutOfRange
  else match Date.of? year.toNat month.toNat day.toNat with
    | some d => .ok d
    | none => .error .dayOutOfRange

/-- The number of months from year 0 to a date's month. -/
def Date.monthIndex (d : Date) : Int :=
  d.year * 12 + (d.month - 1 : Nat)

/-- The same day some months earlier, or the last day of that month if it is shorter. -/
def Date.monthsBefore (d : Date) (months : Int) : Except DateError Date :=
  let index := d.monthIndex - months
  let year := index / 12
  let month := index % 12 + 1
  Date.make year month (min d.day (daysInMonth year.toNat month.toNat))

inductive Period where
  | week | month | quarter | year
  deriving DecidableEq, Repr

def Period.name : Period → String
  | .week => "week"
  | .month => "month"
  | .quarter => "quarter"
  | .year => "year"

def Period.all : List Period := [.week, .month, .quarter, .year]

def Period.ofName? (name : String) : Option Period :=
  Period.all.find? fun p => p.name == name

/-- The first day of the window that ends today. -/
def Period.windowStart (today : Date) : Period → Except DateError Date
  | .week => match today.daysEarlier? 7 with
    | some d => .ok d
    | none => .error .beforeCalendar
  | .month => today.monthsBefore 1
  | .quarter => today.monthsBefore 3
  | .year => today.monthsBefore 12

/-- The first day of the window with a named period; a name that is none looks back a year. -/
def windowStart (today : Date) (period : String) : Except DateError Date :=
  ((Period.ofName? period).getD .year).windowStart today

end IssueGateway.Calendar
