import IssueGateway.Stats.Amount

/-!
# Groups of records

Records are grouped by the value of a selector, groups in the order in which their keys first come.
A group has its count, its totals, its completed items and a row for each record. Averages divide by
the size of the whole group.
-/

namespace IssueGateway.Stats

open Json

inductive GroupKey where
  | null
  | flag (b : Bool)
  | number (n : Number)
  | text (s : String)
  deriving Repr

namespace GroupKey

/-- The number that a key counts as when keys are compared: truth is one, falsehood zero. -/
def number? : GroupKey → Option Number
  | .flag b => some (.int (if b then 1 else 0))
  | .number n => some n
  | _ => none

/-- Keys that are the same: equal texts, or numbers and flags of equal value. The non-number equals
no number, but it is one key. -/
def same : GroupKey → GroupKey → Bool
  | .null, .null => true
  | .text s, .text t => s == t
  | a, b => match a.number?, b.number? with
    | some m, some n => m.equals n || (m.isNaN && n.isNaN)
    | _, _ => false

instance : BEq GroupKey := ⟨same⟩

/-- A value as a key; lists and objects cannot be keys. -/
def ofValue : Value → Except Failure GroupKey
  | .null => .ok .null
  | .bool b => .ok (.flag b)
  | .num n => .ok (.number n)
  | .str s => .ok (.text s)
  | v => .error (.noGroupKey v.kind)

def value : GroupKey → Value
  | .null => .null
  | .flag b => .bool b
  | .number n => .num n
  | .text s => .str s

end GroupKey

abbrev Selector := Record → Value

inductive GroupBy where
  | status | assignee | manager | classA | classB
  deriving DecidableEq, Repr

namespace GroupBy

def name : GroupBy → String
  | .status => "status"
  | .assignee => "assignee"
  | .manager => "manager"
  | .classA => "classA"
  | .classB => "classB"

def all : List GroupBy := [.status, .assignee, .manager, .classA, .classB]

def ofName? (name : String) : Option GroupBy :=
  all.find? fun g => g.name == name

/-- The text of a column, or `fallback` where it is null. -/
def textOr (fallback : String) : Value → Value
  | .null => .str fallback
  | v => .str v.text

/-- The key of a record: the text of its status or person, or its class as it is. -/
def select : GroupBy → Selector
  | .status, r => textOr "unknown" r.status
  | .assignee, r => textOr "unassigned" (r.get "Owner")
  | .manager, r => textOr "unassigned" (r.get "Manager")
  | .classA, r => (r.get "ClassA").orElse (.str "uncategorized")
  | .classB, r => (r.get "ClassB").orElse (.str "uncategorized")

end GroupBy

/-- The selector with a name; a name that is none puts every record into one group. -/
def selector (groupBy : String) : Selector :=
  match GroupBy.ofName? groupBy with
  | some g => g.select
  | none => fun _ => .str "unknown"

structure Row where
  id : Value
  title : Value
  status : Value
  progress : Option Number
  deriving Repr

def Row.of (r : Record) : Row :=
  ⟨r.id, r.title, r.status, r.progressRate?⟩

structure Tally where
  count : Nat := 0
  work : Number := 0
  progress : Number := 0
  completed : Nat := 0
  rows : List Row := []
  deriving Repr

def Tally.add (t : Tally) (r : Record) : Except Failure Tally := do
  let work ← checked (t.work.add (Stats.work r))
  let progress ← checked (t.progress.add (Stats.progress r))
  return { count := t.count + 1, work, progress
           completed := if r.isCompleted then t.completed + 1 else t.completed
           rows := t.rows ++ [Row.of r] }

structure GroupStats where
  count : Nat
  totalWork : Number
  averageProgress : Float
  completedCount : Nat
  completionRate : Float
  rows : List Row
  deriving Repr

def Tally.stats (t : Tally) : Except Failure GroupStats := do
  let averageProgress ← checked (t.progress.dividedBy t.count)
  return { count := t.count, totalWork := t.work, averageProgress, completedCount := t.completed
           completionRate := Number.percent t.completed t.count, rows := t.rows }

def tallyRecord (select : Selector) (groups : Assoc GroupKey Tally) (r : Record) :
    Except Failure (Assoc GroupKey Tally) := do
  let key ← GroupKey.ofValue (select r)
  let tally ← ((Assoc.get? groups key).getD {}).add r
  return Assoc.set groups key tally

def aggregate (records : List Record) (select : Selector) :
    Except Failure (Assoc GroupKey GroupStats) := do
  let tallies ← records.foldlM (tallyRecord select) []
  tallies.mapM fun (key, tally) => do return (key, ← tally.stats)

/-- Totals over all groups. The rate is no number when there are no records. -/
structure Overview where
  totalCompleted : Nat
  completionRate : Float
  totalWork : Number
  deriving Repr

def overview (records : List Record) (groups : Assoc GroupKey GroupStats) :
    Except Failure Overview := do
  let totalCompleted := total (groups.map fun (_, g) => g.completedCount)
  let totalWork ← checked (Number.sum (records.map work))
  return { totalCompleted
           completionRate := if records.isEmpty then Number.notANumber
             else Number.percent totalCompleted records.length
           totalWork }

end IssueGateway.Stats
