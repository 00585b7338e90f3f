import IssueGateway.Number.Basic
import IssueGateway.Proofs.Number.Binary64
import Mathlib

/-!
# The value of a number

Every number but the non-number has a value: a rational or one of the infinities. Equality of
numbers is equality of values, across integers and doubles alike (`equals_iff`). That takes one fact
about doubles: their parts are in normal form, so two doubles with one rational have the same parts,
apart from the sign of zero.
-/

namespace IssueGateway.Number

open Float.Model (UnpackedFloat)
open Float.Model.UnpackedFloat (Sign)

namespace Binary

/-- Parts as they come from a double: the significand is as long as it can be, unless the exponent
is as low as it can be. -/
structure Normal (b : Binary) : Prop where
  short : b.significand < 2 ^ 53
  least_le : leastExponent ≤ b.exponent
  long : b.exponent ≠ leastExponent → 2 ^ 52 ≤ b.significand

/-- The rational that parts stand for. -/
def toRat (b : Binary) : ℚ :=
  (if b.negative then -1 else 1) * (b.significand * 2 ^ b.exponent)

theorem denominator_pos (b : Binary) : 0 < b.denominator := by
  rw [denominator]
  split
  · exact Nat.one_pos
  · exact Nat.two_pow_pos _

theorem toRat_mul_denominator (b : Binary) : b.toRat * b.denominator = b.numerator := by
  rw [toRat, denominator, numerator]
  by_cases hexponent : 0 ≤ b.exponent
  · obtain ⟨k, hk⟩ := Int.eq_ofNat_of_zero_le hexponent
    simp only [hk, Int.natCast_nonneg, if_true, zpow_natCast, Int.toNat_natCast]
    split <;> simp
  · have hunit : (2 : ℚ) ^ b.exponent * (Nat.pow 2 (-b.exponent).toNat : Nat) = 1 :=
      zpow_mul_toNat two_ne_zero hexponent
    simp only [hexponent, if_false]
    rw [mul_assoc, mul_assoc, hunit]
    split <;> simp

theorem abs_toRat (b : Binary) : |b.toRat| = b.significand * 2 ^ b.exponent := by
  have hsize : (0 : ℚ) ≤ b.significand * 2 ^ b.exponent := by positivity
  rw [toRat, abs_mul, abs_of_nonneg hsize]
  split <;> simp

theorem toRat_eq_zero {b : Binary} : b.toRat = 0 ↔ b.significand = 0 := by
  rw [← abs_eq_zero, abs_toRat, mul_eq_zero, Nat.cast_eq_zero]
  exact or_iff_left (zpow_ne_zero _ two_ne_zero)

/-- With the lower exponent, parts in normal form stay below what the higher exponent starts at. -/
theorem Normal.abs_lt_of_exponent_lt {a b : Binary} (ha : a.Normal) (hb : b.Normal)
    (hlt : a.exponent < b.exponent) : |a.toRat| < |b.toRat| := by
  have hlong : 2 ^ 52 ≤ b.significand := hb.long fun h => by have := ha.least_le; omega
  have hbelow : (a.significand : ℚ) < 2 ^ 53 := by exact_mod_cast ha.short
  have habove : (2 ^ 52 : ℚ) ≤ b.significand := by exact_mod_cast hlong
  rw [abs_toRat, abs_toRat]
  calc (a.significand : ℚ) * 2 ^ a.exponent
      < 2 ^ 53 * 2 ^ a.exponent := mul_lt_mul_of_pos_right hbelow (by positivity)
    _ = 2 ^ 52 * 2 ^ (a.exponent + 1) := by rw [zpow_add_one₀ two_ne_zero]; ring
    _ ≤ 2 ^ 52 * 2 ^ b.exponent :=
      mul_le_mul_of_nonneg_left (zpow_le_zpow_right₀ one_le_two hlt) (by positivity)
    _ ≤ b.significand * 2 ^ b.exponent := mul_le_mul_of_nonneg_right habove (by positivity)

theorem eq_of_signs {s t : Bool} (h : (if s then -1 else 1 : ℚ) = if t then -1 else 1) : s = t := by
  revert h
  cases s <;> cases t <;> norm_num

theorem Normal.eq_of_toRat_eq {a b : Binary} (ha : a.Normal) (hb : b.Normal)
    (hpos : 0 < a.significand) (heq : a.toRat = b.toRat) : a = b := by
  have hexponent : a.exponent = b.exponent := by
    rcases lt_trichotomy a.exponent b.exponent with hlt | heq' | hgt
    · exact absurd (ha.abs_lt_of_exponent_lt hb hlt) (by rw [heq]; exact lt_irrefl _)
    · exact heq'
    · exact absurd (hb.abs_lt_of_exponent_lt ha hgt) (by rw [heq]; exact lt_irrefl _)
  have hsignificand : a.significand = b.significand := by
    have habs : |a.toRat| = |b.toRat| := by rw [heq]
    rw [abs_toRat, abs_toRat, hexponent] at habs
    exact_mod_cast mul_right_cancel₀ (zpow_ne_zero _ two_ne_zero) habs
  have hnegative : a.negative = b.negative := by
    have hsize : (0 : ℚ) < a.significand * 2 ^ a.exponent := by positivity
    rw [toRat, toRat, ← hsignificand, ← hexponent] at heq
    exact eq_of_signs (mul_right_cancel₀ hsize.ne' heq)
  exact Binary.mk.injEq .. ▸ ⟨hnegative, hsignificand, hexponent⟩

end Binary

theorem binaryOfBits_normal {n : Nat} {b : Binary} (h : binaryOfBits n = some b) : b.Normal := by
  unfold binaryOfBits at h
  split at h
  · cases h
  · split at h
    · obtain rfl := Option.some.inj h
      exact ⟨by dsimp only; omega, le_refl _, fun hne => absurd rfl hne⟩
    · obtain rfl := Option.some.inj h
      refine ⟨by dsimp only; omega, ?_, fun _ => Nat.le_add_left _ _⟩
      simp only [leastExponent]
      omega

theorem binaryOf_normal {x : Float} {b : Binary} (h : binaryOf x.toModel.unpack = some b) :
    b.Normal := by
  rw [← finite?_eq, finite?_eq_ofBits] at h
  exact binaryOfBits_normal h

/-- What a number can be worth. -/
inductive Worth where
  | rational (q : ℚ)
  | infinite (negative : Bool)
  deriving DecidableEq

/-- The worth of a double. -/
def unpackedValue? : UnpackedFloat → Option Worth
  | .infinity s => some (.infinite (isMinus s))
  | .notANumber => none
  | .zero _ => some (.rational 0)
  | .finite s m e _ => some (.rational (Binary.toRat ⟨isMinus s, m, e⟩))

/-- The worth of a number; the non-number has none. -/
def value? : Number → Option Worth
  | .int n => some (.rational n)
  | .float x => unpackedValue? x.toModel.unpack

theorem value?_float_of_finite? {x : Float} {b : Binary} (h : finite? x = some b) :
    value? (.float x) = some (.rational b.toRat) := by
  rw [finite?_eq] at h
  rw [value?]
  cases hx : x.toModel.unpack with
  | infinity s => rw [hx] at h; cases h
  | notANumber => rw [hx] at h; cases h
  | zero s =>
    rw [hx] at h
    obtain rfl := Option.some.inj h
    rw [unpackedValue?, Binary.toRat_eq_zero.2 rfl]
  | finite s m e hm =>
    rw [hx] at h
    obtain rfl := Option.some.inj h
    rfl

theorem value?_float_of_not_finite {x : Float} (h : finite? x = none) (q : ℚ) :
    value? (.float x) ≠ some (.rational q) := by
  rw [finite?_eq] at h
  rw [value?]
  cases hx : x.toModel.unpack with
  | infinity s => simp [unpackedValue?]
  | notANumber => simp [unpackedValue?]
  | zero s => rw [hx] at h; cases h
  | finite s m e hm => rw [hx] at h; cases h

/-- An integer and a double are equal when their values are. -/
theorem int_equals_float_iff (n : Int) (x : Float) :
    equals (.int n) (.float x) = true ↔
      value? (.float x) = some (.rational n) := by
  rw [equals]
  cases hx : finite? x with
  | none =>
    exact iff_of_false Bool.false_ne_true (value?_float_of_not_finite hx _)
  | some b =>
    have hdenominator : (b.denominator : ℚ) ≠ 0 := by exact_mod_cast b.denominator_pos.ne'
    rw [value?_float_of_finite? hx, beq_iff_eq, Option.some_inj, Worth.rational.injEq,
      ← mul_left_inj' hdenominator, b.toRat_mul_denominator, eq_comm]
    exact_mod_cast Iff.rfl

/-- Unpacked doubles of one worth are one double, or zeros. -/
theorem eq_of_unpackedValue? {u v : UnpackedFloat} {w : Worth}
    (hu : ∀ b, binaryOf u = some b → b.Normal) (hv : ∀ b, binaryOf v = some b → b.Normal)
    (huw : unpackedValue? u = some w) (hvw : unpackedValue? v = some w) :
    u = v ∨ (∃ s, u = .zero s) ∧ ∃ t, v = .zero t := by
  rw [← huw] at hvw
  cases u with
  | notANumber => cases huw
  | infinity s =>
    left
    cases v with
    | infinity t => cases s <;> cases t <;> first | rfl | cases hvw
    | _ => cases hvw
  | zero s =>
    cases v with
    | zero t => exact Or.inr ⟨⟨s, rfl⟩, t, rfl⟩
    | finite t n f hn =>
      have hzero := Worth.rational.inj (Option.some.inj hvw)
      exact absurd (Binary.toRat_eq_zero.1 hzero) hn.ne'
    | _ => cases hvw
  | finite s m e hm =>
    cases v with
    | zero t =>
      have hzero := Worth.rational.inj (Option.some.inj hvw)
      exact absurd (Binary.toRat_eq_zero.1 hzero.symm) hm.ne'
    | finite t n f hn =>
      left
      have hparts := (hu _ rfl).eq_of_toRat_eq (hv _ rfl) hm
        (Worth.rational.inj (Option.some.inj hvw)).symm
      obtain ⟨hsign, rfl, rfl⟩ := Binary.mk.inj hparts
      cases s <;> cases t <;> first | rfl | cases hsign
    | _ => cases hvw

theorem float_equals_float_iff (x y : Float) :
    equals (.float x) (.float y) = true ↔
      ∃ w, value? (.float x) = some w ∧ value? (.float y) = some w := by
  change x.toModel.unpack.beq y.toModel.unpack = true ↔ _
  rw [UnpackedFloat.beq_iff_ne_notANumber_and_eq, value?, value?]
  constructor
  · rintro ⟨hnumber, -, heq | ⟨hx, hy⟩ | ⟨hx, hy⟩⟩
    · rw [← heq]
      cases hx : x.toModel.unpack with
      | notANumber => exact absurd hx hnumber
      | _ => exact ⟨_, rfl, rfl⟩
    · exact ⟨.rational 0, by rw [hx]; rfl, by rw [hy]; rfl⟩
    · exact ⟨.rational 0, by rw [hx]; rfl, by rw [hy]; rfl⟩
  · rintro ⟨w, hxw, hyw⟩
    refine ⟨fun h => ?_, fun h => ?_, ?_⟩
    · rw [h] at hxw
      cases hxw
    · rw [h] at hyw
      cases hyw
    · rcases eq_of_unpackedValue? (fun b h => binaryOf_normal h) (fun b h => binaryOf_normal h)
        hxw hyw with heq | ⟨⟨s, hs⟩, t, ht⟩
      · exact Or.inl heq
      · rw [hs, ht]
        cases s <;> cases t <;> simp

theorem equals_iff (a b : Number) :
    a.equals b = true ↔ ∃ w, a.value? = some w ∧ b.value? = some w := by
  cases a with
  | int m =>
    cases b with
    | int n =>
      rw [equals, beq_iff_eq]
      refine ⟨fun h => ⟨_, rfl, by rw [h, value?]⟩, fun ⟨w, hm, hn⟩ => ?_⟩
      exact_mod_cast Worth.rational.inj (Option.some.inj (hm.trans hn.symm))
    | float x =>
      rw [int_equals_float_iff]
      exact ⟨fun h => ⟨_, rfl, h⟩, fun ⟨w, hm, hx⟩ => hx.trans hm.symm⟩
  | float x =>
    cases b with
    | int n =>
      change equals (.int n) (.float x) = true ↔ _
      rw [int_equals_float_iff]
      exact ⟨fun h => ⟨_, h, rfl⟩, fun ⟨w, hx, hn⟩ => hx.trans hn.symm⟩
    | float y => exact float_equals_float_iff x y

theorem equals_comm {a b : Number} : a.equals b = true ↔ b.equals a = true := by
  rw [equals_iff, equals_iff]
  simp only [and_comm]

/-- The non-number is the only number without a worth. -/
theorem isNaN_iff (n : Number) : n.isNaN = true ↔ n.value? = none := by
  cases n with
  | int n => simp [isNaN, value?]
  | float x =>
    change x.toModel.unpack.isNaN = true ↔ unpackedValue? x.toModel.unpack = none
    cases x.toModel.unpack <;> simp [unpackedValue?, UnpackedFloat.isNaN]

end IssueGateway.Number
