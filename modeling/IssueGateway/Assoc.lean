/-!
# Maps in order

A map is the list of its entries in the order in which the keys first came. Setting a key that is
there changes its entry in place; a new key goes to the end.
-/

namespace IssueGateway

/-- A map as its entries, each key once, in order of first insertion. -/
abbrev Assoc (α β : Type) := List (α × β)

namespace Assoc

variable {α β : Type} [BEq α]

def get? (m : Assoc α β) (key : α) : Option β :=
  m.lookup key

/-- Changes the value of a key, given what it was; a new key is added at the end. -/
def update (m : Assoc α β) (key : α) (f : Option β → β) : Assoc α β :=
  match m with
  | [] => [(key, f none)]
  | (k, v) :: rest => if key == k then (k, f (some v)) :: rest else (k, v) :: update rest key f

def set (m : Assoc α β) (key : α) (value : β) : Assoc α β :=
  m.update key fun _ => value

/-- The keys in order. -/
def keys (m : Assoc α β) : List α :=
  m.map Prod.fst

/-- The values in order of their keys. -/
def values (m : Assoc α β) : List β :=
  m.map Prod.snd

end Assoc

end IssueGateway
