import IssueGateway.Calendar.Timestamp
import IssueGateway.Text.Blank

/-!
# Reading the slash form

`YYYY/M/D`, with a time `H:M` or `H:M:S` after blanks. Fields after the year have one or two digits
of any script, padded or not. A pattern lists its matches from the preferred one on, longer numbers
before shorter ones; the preferred match of the whole form must use up the text.
-/

namespace IssueGateway.Calendar

open Text

/-- What a pattern finds at the start of a text: values with the text behind them, best first. -/
abbrev Pattern (α : Type) := List Char → List (α × List Char)

namespace Pattern

def andThen (p : Pattern α) (q : α → Pattern β) : Pattern β :=
  fun cs => (p cs).flatMap fun (a, rest) => q a rest

/-- The matches of one pattern before those of the other. -/
def orElse (p q : Pattern α) : Pattern α :=
  fun cs => p cs ++ q cs

/-- Nothing, with a value. -/
def done (a : α) : Pattern α :=
  fun cs => [(a, cs)]

def one (value? : Char → Option α) : Pattern α
  | [] => []
  | c :: rest => match value? c with
    | some a => [(a, rest)]
    | none => []

def char (c : Char) : Pattern Unit :=
  one fun d => if d = c then some () else none

def digitBetween (low high : Nat) : Pattern Nat :=
  one fun c => (asciiDigit? c).filter fun n => low ≤ n && n ≤ high

def digit : Pattern Nat :=
  one digitValue?

/-- Two digits as a number. -/
def pair (p q : Pattern Nat) : Pattern Nat :=
  p.andThen fun a => q.andThen fun b => done (10 * a + b)

/-- At least one blank, as many as there are before fewer. -/
def blanks : Pattern Unit :=
  fun cs =>
    let count := (cs.takeWhile isBlank).length
    ((List.range count).reverse.map fun k => ((), cs.drop (k + 1)))

/-- Four digits. -/
def year : Pattern Nat :=
  (pair digit digit).andThen fun a => (pair digit digit).andThen fun b => done (100 * a + b)

/-- A month, 1 to 12. -/
def month : Pattern Nat :=
  (pair (digitBetween 1 1) (digitBetween 0 2)).orElse
    ((pair (digitBetween 0 0) (digitBetween 1 9)).orElse (digitBetween 1 9))

/-- A day, 1 to 31; a single digit may have a space in front. -/
def day : Pattern Nat :=
  (pair (digitBetween 3 3) (digitBetween 0 1)).orElse
    ((pair (digitBetween 1 2) digit).orElse
      ((pair (digitBetween 0 0) (digitBetween 1 9)).orElse
        ((digitBetween 1 9).orElse ((char ' ').andThen fun _ => digitBetween 1 9))))

/-- An hour, 0 to 23. -/
def hour : Pattern Nat :=
  (pair (digitBetween 2 2) (digitBetween 0 3)).orElse
    ((pair (digitBetween 0 1) digit).orElse digit)

/-- A minute, 0 to 59. -/
def minute : Pattern Nat :=
  (pair (digitBetween 0 5) digit).orElse digit

/-- A second, 0 to 61. -/
def second : Pattern Nat :=
  (pair (digitBetween 6 6) (digitBetween 0 1)).orElse minute

/-- `YYYY/M/D`. -/
def date : Pattern (Nat × Nat × Nat) :=
  year.andThen fun y => (char '/').andThen fun _ => month.andThen fun m =>
    (char '/').andThen fun _ => day.andThen fun d => done (y, m, d)

/-- `H:M`. -/
def hourMinute : Pattern (Nat × Nat) :=
  hour.andThen fun h => (char ':').andThen fun _ => minute.andThen fun m => done (h, m)

end Pattern

structure SlashParts where
  date : Nat × Nat × Nat
  hour : Nat := 0
  minute : Nat := 0
  second : Nat := 0
  deriving DecidableEq, Repr

open Pattern in
def slashForms : List (Pattern SlashParts) :=
  [ date.andThen fun d => blanks.andThen fun _ => hourMinute.andThen fun (h, m) =>
      (char ':').andThen fun _ => second.andThen fun s => done ⟨d, h, m, s⟩,
    date.andThen fun d => blanks.andThen fun _ => hourMinute.andThen fun (h, m) =>
      done ⟨d, h, m, 0⟩,
    date.andThen fun d => done ⟨d, 0, 0, 0⟩ ]

/-- The moment that the parts name, if there is one. -/
def SlashParts.timestamp? (p : SlashParts) : Option Timestamp := do
  let date ← Date.of? p.date.1 p.date.2.1 p.date.2.2
  let time ← Time.of? p.hour p.minute p.second 0
  return { date, time }

/-- Reads a moment in one slash form: the preferred match must use up the text. -/
def readSlash? (form : Pattern SlashParts) (cs : List Char) : Option Timestamp :=
  match form cs with
  | (parts, []) :: _ => parts.timestamp?
  | _ => none

def Timestamp.ofSlash? (cs : List Char) : Option Timestamp :=
  slashForms.findSome? fun form => readSlash? form cs

end IssueGateway.Calendar
