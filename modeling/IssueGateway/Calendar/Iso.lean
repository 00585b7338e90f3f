import IssueGateway.Calendar.Timestamp

/-!
# Reading the standard form

Dates are `YYYY-MM-DD`, `YYYYMMDD` or a numbered week with or without its weekday, dashed or not.
One character of any kind separates the time, which is written with or without colons and may stop
after the hours or the minutes. An offset is a sign and a clock. The text is looked at as bytes:
digits are ASCII, and positions count bytes.
-/

namespace IssueGateway.Calendar

def textBytes (cs : List Char) : List UInt8 :=
  cs.flatMap String.utf8EncodeChar

def ascii (c : Char) : UInt8 := UInt8.ofNat c.toNat

def byteDigit? (b : UInt8) : Option Nat :=
  if 48 ≤ b.toNat ∧ b.toNat ≤ 57 then some (b.toNat - 48) else none

def isDigitAt (s : List UInt8) (i : Nat) : Bool :=
  (s[i]?.bind byteDigit?).isSome

def isCharAt (s : List UInt8) (i : Nat) (c : Char) : Bool :=
  s[i]? == some (ascii c)

/-- The number that `count` digits from a position on denote. -/
def digitsAt? (s : List UInt8) (i count : Nat) : Option Nat :=
  ((List.range count).mapM fun k => s[i + k]?.bind byteDigit?).map Text.ofDigits

/-- Past the digits from a position on. -/
def skipDigits (s : List UInt8) (i : Nat) : Nat :=
  i + ((s.drop i).takeWhile fun b => (byteDigit? b).isSome).length

/-- Where the date ends, if the text can start with one. -/
def dateLength? (s : List UInt8) : Option Nat :=
  let n := s.length
  if n < 7 then none
  else if n = 7 then some 7
  else if isCharAt s 4 '-' then
    if isCharAt s 5 'W' then
      if 8 < n ∧ isCharAt s 8 '-' then
        if n = 9 then none
        else if 10 < n ∧ isDigitAt s 10 then some 8
        else some 10
      else some 8
    else some 10
  else if isCharAt s 4 'W' then
    let stop := skipDigits s 7
    some (if stop < 9 then stop else if stop % 2 = 0 then 7 else 8)
  else some 8

/-- Reads the date that ends at `length`. -/
def readDate? (s : List UInt8) (length : Nat) : Option Date := do
  let year ← digitsAt? s 0 4
  let dashed := isCharAt s 4 '-'
  let start := if dashed then 5 else 4
  if isCharAt s start 'W' then
    let week ← digitsAt? s (start + 1) 2
    let next := start + 3
    if next < length then
      if dashed && !isCharAt s next '-' then none
      else
        let weekday ← digitsAt? s (if dashed then next + 1 else next) 1
        Date.ofWeek? year week weekday
    else Date.ofWeek? year week 1
  else
    let month ← digitsAt? s start 2
    let next := start + 2
    if dashed && !isCharAt s next '-' then none
    else
      let dayAt := if dashed then next + 1 else next
      let day ← digitsAt? s dayAt 2
      if dayAt + 2 = length then Date.of? year month day else none

/-- A clock: hours, minutes, seconds and microseconds, and whether text is left behind it. -/
structure Clock where
  fields : List Nat
  microsecond : Nat
  leftover : Bool
  deriving DecidableEq, Repr

/-- A field of a clock; fields that are not written are zero. -/
def Clock.get (c : Clock) (i : Nat) : Nat :=
  c.fields.getD i 0

/-- Reads the fraction of a clock from a position on: six digits count, more are skipped. -/
def readFraction? (s : List UInt8) (position stop : Nat) (fields : List Nat) : Option Clock := do
  let count := min 6 (stop - position)
  let digits ← digitsAt? s position count
  let last := skipDigits s (position + count)
  return ⟨fields, digits * Nat.pow 10 (6 - count), last < s.length⟩

/-- Reads up to `count` more fields of a clock that ends at `stop`. Whether colons separate them is
settled after the first field. -/
def readFields? (s : List UInt8) (stop : Nat) :
    (count : Nat) → (separated : Option Bool) → (position : Nat) → (fields : List Nat) →
      Option Clock
  | 0, _, position, fields => readFraction? s position stop fields
  | count + 1, separated, position, fields => do
    let value ← digitsAt? s position 2
    let fields := fields ++ [value]
    let next := s[position + 2]?
    let colon := next == some (ascii ':')
    let separated := separated.getD colon
    if stop ≤ position + 3 then return ⟨fields, 0, next.isSome⟩
    else if separated && colon then
      readFields? s stop count (some separated) (position + 3) fields
    else if next == some (ascii '.') || next == some (ascii ',') then
      readFraction? s (position + 3) stop fields
    else if !separated then readFields? s stop count (some separated) (position + 2) fields
    else none

def readClock? (s : List UInt8) (start stop : Nat) : Option Clock :=
  readFields? s stop 3 none start []

/-- The offset of a clock behind a sign, less than a day. Below a second it counts as none. -/
def Clock.offset? (c : Clock) (negative : Bool) : Option Int :=
  let seconds := c.get 0 * 3600 + c.get 1 * 60 + c.get 2
  let magnitude := seconds * 1000000 + c.microsecond
  if seconds = 0 then some 0
  else if magnitude < 86400 * 1000000 then some (if negative then -(magnitude : Int) else magnitude)
  else none

/-- Reads a time of day with or without an offset. What is left of the clock before a sign does not
matter. -/
def readTime? (s : List UInt8) : Option (Time × Option Int) := do
  if s.isEmpty then none
  let sign := s.findIdx fun b => b == ascii '+' || b == ascii '-'
  let clock ← readClock? s 0 sign
  let time ← Time.of? (clock.get 0) (clock.get 1) (clock.get 2) clock.microsecond
  if sign = s.length then
    if clock.leftover then none else return (time, none)
  else
    let zone ← readClock? s (sign + 1) s.length
    if zone.leftover then none
    else
      let offset ← zone.offset? (isCharAt s sign '-')
      return (time, some offset)

def charLength (b : UInt8) : Nat :=
  if b < 0x80 then 1 else if b < 0xE0 then 2 else if b < 0xF0 then 3 else 4

def Timestamp.ofIso? (cs : List Char) : Option Timestamp := do
  let s := textBytes cs
  let length ← dateLength? s
  let date ← readDate? s length
  match s.drop length with
  | [] => return { date }
  | separator :: rest =>
    let (time, offset) ← readTime? (rest.drop (charLength separator - 1))
    return { date, time, offset }

end IssueGateway.Calendar
