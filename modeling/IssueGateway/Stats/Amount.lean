import IssueGateway.Failure
import IssueGateway.Number.Total
import IssueGateway.Record

/-!
# Amounts of records

What a record adds to a total. A missing amount and a zero of either kind add the integer zero, so a
total is a double only if some amount is a double other than zero.
-/

namespace IssueGateway.Stats

def addend : Option Number → Number
  | some n => if n.isZero then .int 0 else n
  | none => .int 0

def work (r : Record) : Number := addend r.workValue?

def progress (r : Record) : Number := addend r.progressRate?

def checked (x : Except RangeError α) : Except Failure α :=
  x.mapError .range

end IssueGateway.Stats
