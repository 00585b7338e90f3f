import IssueGateway.Record

/-!
# Equality of JSON values

Two values are equal or not, and which of the two can be calculated.
-/

namespace IssueGateway.Json

mutual

def Value.same : Value → Value → Bool
  | .null, .null => true
  | .bool a, .bool b => a == b
  | .num m, .num n => m == n
  | .str s, .str t => s == t
  | .arr items, .arr others => sameItems items others
  | .obj fields, .obj others => sameFields fields others
  | _, _ => false

def sameItems : List Value → List Value → Bool
  | [], [] => true
  | v :: rest, w :: others => v.same w && sameItems rest others
  | _, _ => false

def sameFields : List (String × Value) → List (String × Value) → Bool
  | [], [] => true
  | (key, v) :: rest, (name, w) :: others => key == name && v.same w && sameFields rest others
  | _, _ => false

end

mutual

theorem Value.same_iff (v w : Value) : v.same w = true ↔ v = w := by
  cases v with
  | arr items => cases w <;> simp [Value.same, sameItems_iff items]
  | obj fields => cases w <;> simp [Value.same, sameFields_iff fields]
  | _ => cases w <;> simp [Value.same]

theorem sameItems_iff (items others : List Value) :
    sameItems items others = true ↔ items = others := by
  cases items with
  | nil => cases others <;> simp [sameItems]
  | cons v rest => cases others <;> simp [sameItems, v.same_iff, sameItems_iff rest]

theorem sameFields_iff (fields others : List (String × Value)) :
    sameFields fields others = true ↔ fields = others := by
  cases fields with
  | nil => cases others <;> simp [sameFields]
  | cons field rest =>
    cases others <;> simp [sameFields, field.2.same_iff, sameFields_iff rest, Prod.ext_iff]

end

instance : DecidableEq Value := fun v w => decidable_of_iff _ (v.same_iff w)

end IssueGateway.Json

namespace IssueGateway

deriving instance DecidableEq for Record

end IssueGateway
