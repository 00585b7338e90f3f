import IssueGateway.Proofs.Number.Value
import IssueGateway.Stats.Aggregate

/-!
# Keys that are the same

The integer one, the double one and truth are one key, so keys are not compared lawfully. They are
compared by what they are worth, though (`same_iff`), and that makes sameness an equivalence, which
is all that a map needs.
-/

namespace IssueGateway.Stats

namespace GroupKey

/-- What keys are compared by. -/
inductive Sameness where
  | null
  | text (s : String)
  | number (worth : Option Number.Worth)

def sameness : GroupKey → Sameness
  | .null => .null
  | .flag b => .number (Number.value? (.int (if b then 1 else 0)))
  | .number n => .number n.value?
  | .text s => .text s

theorem number_same_iff (m n : Number) :
    (m.equals n || (m.isNaN && n.isNaN)) = true ↔ m.value? = n.value? := by
  rw [Bool.or_eq_true, Bool.and_eq_true, Number.equals_iff, Number.isNaN_iff, Number.isNaN_iff]
  constructor
  · rintro (⟨w, hm, hn⟩ | ⟨hm, hn⟩)
    · rw [hm, hn]
    · rw [hm, hn]
  · intro h
    cases hm : m.value? with
    | none => exact Or.inr ⟨rfl, h ▸ hm⟩
    | some w => exact Or.inl ⟨w, rfl, h ▸ hm⟩

theorem same_iff (a b : GroupKey) : (a == b) = true ↔ a.sameness = b.sameness := by
  have hnumber : ∀ m n : Number, (m.equals n || (m.isNaN && n.isNaN)) = true ↔
      Sameness.number m.value? = Sameness.number n.value? := by
    intro m n
    rw [number_same_iff, Sameness.number.injEq]
  change same a b = true ↔ _
  cases a with
  | null => cases b <;> simp [same, sameness, number?]
  | text s => cases b <;> simp [same, sameness, number?]
  | flag p =>
    cases b with
    | flag q => exact hnumber _ _
    | number n => exact hnumber _ _
    | null => simp [same, sameness, number?]
    | text s => simp [same, sameness, number?]
  | number m =>
    cases b with
    | flag q => exact hnumber _ _
    | number n => exact hnumber _ _
    | null => simp [same, sameness, number?]
    | text s => simp [same, sameness, number?]

instance : EquivBEq GroupKey where
  rfl := (same_iff _ _).2 rfl
  symm h := (same_iff _ _).2 ((same_iff _ _).1 h).symm
  trans h h' := (same_iff _ _).2 (((same_iff _ _).1 h).trans ((same_iff _ _).1 h'))

end GroupKey

end IssueGateway.Stats
