/-!
# Totals

The sum of some counts.
-/

namespace IssueGateway

/-- The sum of some counts. -/
def total (counts : List Nat) : Nat :=
  counts.foldr (· + ·) 0

end IssueGateway
