import IssueGateway.Number.Total

/-!
# Calendar dates

Dates of the Gregorian calendar from year 1 to year 9999, and day counts within a year. A day count
that falls outside its year belongs to the year before or after.
-/

namespace IssueGateway.Calendar

/-- Every fourth year, but of the full centuries only every fourth. -/
def isLeapYear (year : Nat) : Bool :=
  year % 4 == 0 && (year % 100 != 0 || year % 400 == 0)

def daysInMonth (year month : Nat) : Nat :=
  if month = 2 then (if isLeapYear year then 29 else 28)
  else if month = 4 ∨ month = 6 ∨ month = 9 ∨ month = 11 then 30
  else 31

def daysInYear (year : Nat) : Nat :=
  if isLeapYear year then 366 else 365

def IsYear (year : Nat) : Prop := 1 ≤ year ∧ year ≤ 9999

instance : Decidable (IsYear year) := inferInstanceAs (Decidable (_ ∧ _))

def IsDate (year month day : Nat) : Prop :=
  IsYear year ∧ (1 ≤ month ∧ month ≤ 12) ∧ 1 ≤ day ∧ day ≤ daysInMonth year month

instance : Decidable (IsDate year month day) := inferInstanceAs (Decidable (_ ∧ _))

structure Date where
  year : Nat
  month : Nat
  day : Nat
  isDate : IsDate year month day
  deriving DecidableEq

namespace Date

/-- The date with these parts, if there is one. -/
def of? (year month day : Nat) : Option Date :=
  if h : IsDate year month day then some ⟨year, month, day, h⟩ else none

/-- The days of a year before a month. -/
def daysBeforeMonth (year month : Nat) : Nat :=
  total ((List.range (month - 1)).map fun m => daysInMonth year (m + 1))

/-- The days before a year, counted from year 1. -/
def daysBeforeYear (year : Nat) : Nat :=
  let past := year - 1
  past * 365 + past / 4 - past / 100 + past / 400

/-- The day's number within its year, from 1. -/
def dayOfYear (d : Date) : Nat :=
  daysBeforeMonth d.year d.month + d.day

/-- The day's number in the calendar: 1 for the first day of year 1. -/
def ordinal (d : Date) : Nat :=
  daysBeforeYear d.year + d.dayOfYear

/-- Month and day of the month that a day number reaches, counted from the start of `month`, given
how many months may follow. -/
def monthAndDay (year : Nat) : Nat → Nat → Nat → Nat × Nat
  | 0, month, n => (month, n)
  | following + 1, month, n =>
    if n ≤ daysInMonth year month then (month, n)
    else monthAndDay year following (month + 1) (n - daysInMonth year month)

/-- The date with a day number of a year. Numbers below 1 and past the year's end reach into the
neighbouring years. -/
def ofDayOfYear? (year : Nat) (n : Int) : Option Date :=
  let (year, n) : Nat × Int :=
    if n < 1 then (year - 1, n + daysInYear (year - 1))
    else if (daysInYear year : Int) < n then (year + 1, n - daysInYear year)
    else (year, n)
  let (month, day) := monthAndDay year 11 1 n.toNat
  of? year month day

def daysEarlier? (d : Date) (days : Nat) : Option Date :=
  ofDayOfYear? d.year (d.dayOfYear - days)

/-- The weekday of the first of January, from Monday as 0. -/
def newYearWeekday (year : Nat) : Nat :=
  daysBeforeYear year % 7

/-- Whether a year has a week 53: it starts on a Thursday, or on a Wednesday and is a leap year. -/
def hasWeek53 (year : Nat) : Bool :=
  newYearWeekday year == 3 || (newYearWeekday year == 2 && isLeapYear year)

/-- The date of a weekday (Monday is 1) in a numbered week. Week 1 is the one with the year's first
Thursday. -/
def ofWeek? (year week weekday : Nat) : Option Date :=
  if IsYear year ∧ 1 ≤ week ∧ (week ≤ 52 ∨ (week = 53 ∧ hasWeek53 year)) ∧
      1 ≤ weekday ∧ weekday ≤ 7 then
    let start : Int := 1 - newYearWeekday year
    let firstMonday := if 3 < newYearWeekday year then start + 7 else start
    ofDayOfYear? year (firstMonday + (week - 1 : Nat) * 7 + (weekday - 1 : Nat))
  else none

end Date

end IssueGateway.Calendar
