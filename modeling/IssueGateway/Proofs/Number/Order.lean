import IssueGateway.Proofs.Number.Value

/-!
# Integers as bounds

An integer is at most a number if the number is worth at least as much, or is the positive infinity,
and likewise at least a number. So a number between two integers is worth a rational between them:
neither infinity lies there, and the non-number is in order with nothing (`between_iff`).
-/

namespace IssueGateway.Number

theorem zero_unpack : (0 : Float).toModel.unpack = .zero .positive := by rfl

theorem unpack_of_not_finite {x : Float} (h : finite? x = none) :
    x.toModel.unpack = .notANumber ∨ ∃ s, x.toModel.unpack = .infinity s := by
  rw [finite?_eq] at h
  cases hx : x.toModel.unpack with
  | notANumber => exact Or.inl rfl
  | infinity s => exact Or.inr ⟨s, rfl⟩
  | zero s =>
    rw [hx] at h
    cases h
  | finite s m e hm =>
    rw [hx] at h
    cases h

/-- Of the doubles that are not finite, the positive infinity is above zero. -/
theorem zero_lt_iff {x : Float} (h : finite? x = none) :
    0 < x ↔ value? (.float x) = some (.infinite false) := by
  change decide ((0 : Float).toModel.unpack.lt x.toModel.unpack = true) = true ↔ _
  rw [decide_eq_true_iff, zero_unpack, value?]
  rcases unpack_of_not_finite h with hx | ⟨s, hx⟩
  · rw [hx]
    decide
  · rw [hx]
    cases s <;> decide

theorem lt_zero_iff {x : Float} (h : finite? x = none) :
    x < 0 ↔ value? (.float x) = some (.infinite true) := by
  change decide (x.toModel.unpack.lt (0 : Float).toModel.unpack = true) = true ↔ _
  rw [decide_eq_true_iff, zero_unpack, value?]
  rcases unpack_of_not_finite h with hx | ⟨s, hx⟩
  · rw [hx]
    decide
  · rw [hx]
    cases s <;> decide

theorem Binary.le_toRat_iff (b : Binary) (n : Int) :
    n * b.denominator ≤ b.numerator ↔ (n : ℚ) ≤ b.toRat := by
  have hdenominator : (0 : ℚ) < b.denominator := by exact_mod_cast b.denominator_pos
  rw [← mul_le_mul_iff_of_pos_right hdenominator, b.toRat_mul_denominator]
  exact_mod_cast Iff.rfl

theorem Binary.toRat_le_iff (b : Binary) (n : Int) :
    b.numerator ≤ n * b.denominator ↔ b.toRat ≤ n := by
  have hdenominator : (0 : ℚ) < b.denominator := by exact_mod_cast b.denominator_pos
  rw [← mul_le_mul_iff_of_pos_right hdenominator, b.toRat_mul_denominator]
  exact_mod_cast Iff.rfl

theorem int_le_iff (n : Int) (a : Number) : le (.int n) a = true ↔
    (∃ q : ℚ, a.value? = some (.rational q) ∧ n ≤ q) ∨ a.value? = some (.infinite false) := by
  cases a with
  | int m => simp [le, value?]
  | float x =>
    rw [le]
    cases hx : finite? x with
    | none =>
      simp only [value?_float_of_not_finite hx, false_and, exists_false, false_or,
        decide_eq_true_eq]
      exact zero_lt_iff hx
    | some b => simp [value?_float_of_finite? hx, b.le_toRat_iff]

theorem le_int_iff (n : Int) (a : Number) : le a (.int n) = true ↔
    (∃ q : ℚ, a.value? = some (.rational q) ∧ q ≤ n) ∨ a.value? = some (.infinite true) := by
  cases a with
  | int m => simp [le, value?]
  | float x =>
    rw [le]
    cases hx : finite? x with
    | none =>
      simp only [value?_float_of_not_finite hx, false_and, exists_false, false_or,
        decide_eq_true_eq]
      exact lt_zero_iff hx
    | some b => simp [value?_float_of_finite? hx, b.toRat_le_iff]

/-- What lies between two integers is worth a rational there. -/
theorem between_iff (m n : Int) (a : Number) : (le (.int m) a && le a (.int n)) = true ↔
    ∃ q : ℚ, a.value? = some (.rational q) ∧ m ≤ q ∧ q ≤ n := by
  rw [Bool.and_eq_true, int_le_iff, le_int_iff]
  constructor
  · rintro ⟨⟨q, hq, hmq⟩ | hinf, ⟨q', hq', hqn⟩ | hinf'⟩
    · obtain rfl := Worth.rational.inj (Option.some.inj (hq.symm.trans hq'))
      exact ⟨q, hq, hmq, hqn⟩
    · cases hq.symm.trans hinf'
    · cases hinf.symm.trans hq'
    · cases hinf.symm.trans hinf'
  · rintro ⟨q, hq, hmq, hqn⟩
    exact ⟨Or.inl ⟨q, hq, hmq⟩, Or.inl ⟨q, hq, hqn⟩⟩

end IssueGateway.Number
