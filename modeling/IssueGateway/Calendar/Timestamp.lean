import IssueGateway.Calendar.Date
import IssueGateway.Text.Digit

/-!
# Timestamps

A moment is a date, a time of day to the microsecond and possibly an offset from universal time.
-/

namespace IssueGateway.Calendar

def IsTime (hour minute second microsecond : Nat) : Prop :=
  hour < 24 ∧ minute < 60 ∧ second < 60 ∧ microsecond < 1000000

instance : Decidable (IsTime hour minute second microsecond) := inferInstanceAs (Decidable (_ ∧ _))

structure Time where
  hour : Nat := 0
  minute : Nat := 0
  second : Nat := 0
  microsecond : Nat := 0
  isTime : IsTime hour minute second microsecond := by decide
  deriving DecidableEq

/-- The time with these parts, if there is one. -/
def Time.of? (hour minute second microsecond : Nat) : Option Time :=
  if h : IsTime hour minute second microsecond then some ⟨hour, minute, second, microsecond, h⟩
  else none

def Time.midnight : Time := {}

/-- A moment; the offset is in microseconds east of universal time. -/
structure Timestamp where
  date : Date
  time : Time := Time.midnight
  offset : Option Int := none
  deriving DecidableEq

/-- `YYYY-MM-DD`. -/
def Date.isoChars (d : Date) : List Char :=
  Text.padded 4 d.year ++ '-' :: Text.padded 2 d.month ++ '-' :: Text.padded 2 d.day

/-- `YYYY-MM-DD`. -/
def Date.iso (d : Date) : String :=
  String.ofList d.isoChars

/-- A point and six digits, or nothing for zero. -/
def fractionChars (microsecond : Nat) : List Char :=
  if microsecond = 0 then [] else '.' :: Text.padded 6 microsecond

/-- `HH:MM:SS`, with a fraction unless it is zero. -/
def Time.isoChars (t : Time) : List Char :=
  Text.padded 2 t.hour ++ ':' :: Text.padded 2 t.minute ++ ':' :: Text.padded 2 t.second ++
    fractionChars t.microsecond

/-- Sign, hours and minutes; seconds only where they or their fraction are not zero. -/
def offsetChars (offset : Int) : List Char :=
  let magnitude := offset.natAbs
  let seconds := magnitude / 1000000
  let fraction := magnitude % 1000000
  (if offset < 0 then '-' else '+') :: Text.padded 2 (seconds / 3600) ++
    ':' :: Text.padded 2 (seconds / 60 % 60) ++
    if seconds % 60 = 0 ∧ fraction = 0 then []
    else ':' :: Text.padded 2 (seconds % 60) ++ fractionChars fraction

/-- The standard form of a moment: date, `T`, time and, if there is one, the offset. -/
def Timestamp.iso (t : Timestamp) : String :=
  String.ofList (t.date.isoChars ++ 'T' :: t.time.isoChars ++ (t.offset.map offsetChars).getD [])

end IssueGateway.Calendar
