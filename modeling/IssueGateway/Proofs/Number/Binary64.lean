import IssueGateway.Number.Binary64
import Mathlib

/-!
# Doubles and the rationals they stand for

`finite?` takes a double apart by arithmetic on its bits, while comparison is defined on the
unpacked form of the float type. `finite?_eq` says that both see the same parts. The parts of a
double are in normal form, and parts in normal form are told apart by their rational, so comparing
doubles is comparing rationals.
-/

namespace IssueGateway.Number

open Float.Model (Format UnpackedFloat)
open Float.Model.UnpackedFloat (Sign unpackMantissa unpackExponent unpackSign)

/-- A power with a negative exponent, as the power that it divides by. -/
theorem zpow_mul_toNat {base : Nat} (hbase : base ≠ 0) {exponent : Int} (h : ¬ 0 ≤ exponent) :
    (base : ℚ) ^ exponent * (Nat.pow base (-exponent).toNat : Nat) = 1 := by
  have hneg : exponent = -((-exponent).toNat : Int) := by omega
  rw [hneg, zpow_neg, zpow_natCast, ← hneg, Nat.pow_eq, Nat.cast_pow]
  exact inv_mul_cancel₀ (pow_ne_zero _ (by exact_mod_cast hbase))

theorem zpow_toNat (base : Nat) {exponent : Int} (h : 0 ≤ exponent) :
    (base : ℚ) ^ exponent = (Nat.pow base exponent.toNat : Nat) := by
  obtain ⟨k, rfl⟩ := Int.eq_ofNat_of_zero_le h
  simp

theorem unpackMantissa_toNat (b : BitVec 64) :
    (@unpackMantissa Format.binary64 b).toNat = b.toNat % 2 ^ 52 := by
  simp [unpackMantissa]

theorem unpackExponent_toNat (b : BitVec 64) :
    (@unpackExponent Format.binary64 b).toNat = b.toNat / 2 ^ 52 % 2 ^ 11 := by
  simp [unpackExponent, Nat.shiftRight_eq_div_pow]

theorem unpackSign_toNat (b : BitVec 64) :
    (@unpackSign Format.binary64 b).toNat = b.toNat / 2 ^ 63 % 2 := by
  simp [unpackSign, Nat.shiftRight_eq_div_pow]

/-- Whether a sign is minus. -/
def isMinus : Sign → Bool
  | .negative => true
  | .positive => false

theorem isMinus_ofBitVec (b : BitVec 1) : isMinus (Sign.ofBitVec b) = decide (b.toNat = 1) := by
  revert b
  decide

/-- The parts of an unpacked double. -/
def binaryOf : UnpackedFloat → Option Binary
  | .zero s => some ⟨isMinus s, 0, leastExponent⟩
  | .finite s m e _ => some ⟨isMinus s, m, e⟩
  | .infinity _ | .notANumber => none

theorem one_append_toNat (m : BitVec 52) : (1#1 ++ m).toNat = m.toNat + 2 ^ 52 := by
  rw [BitVec.toNat_append, ← Nat.shiftLeft_add_eq_or_of_lt m.isLt, Nat.shiftLeft_eq]
  exact Nat.add_comm _ _

/-- The parts that the bits of a double denote. -/
def binaryOfBits (n : Nat) : Option Binary :=
  if n / 2 ^ 52 % 2 ^ 11 = 2047 then none
  else if n / 2 ^ 52 % 2 ^ 11 = 0 then some ⟨decide (2 ^ 63 ≤ n), n % 2 ^ 52, -1074⟩
  else some ⟨decide (2 ^ 63 ≤ n), n % 2 ^ 52 + 2 ^ 52, (n / 2 ^ 52 % 2 ^ 11 : Nat) - 1075⟩

theorem finite?_eq_ofBits (x : Float) : finite? x = binaryOfBits x.toBits.toNat := by
  have hlt : x.toBits.toNat < 2 ^ 64 := x.toBits.toBitVec.isLt
  have hexponent : x.toBits.toNat % Nat.pow 2 63 / Nat.pow 2 fractionBits =
      x.toBits.toNat / 2 ^ 52 % 2 ^ 11 := by
    change x.toBits.toNat % 2 ^ 63 / 2 ^ 52 = _
    omega
  have hfraction : x.toBits.toNat % Nat.pow 2 63 % Nat.pow 2 fractionBits =
      x.toBits.toNat % 2 ^ 52 := by
    change x.toBits.toNat % 2 ^ 63 % 2 ^ 52 = _
    omega
  have hinfinite : infinityBits ≤ x.toBits.toNat % Nat.pow 2 63 ↔
      x.toBits.toNat / 2 ^ 52 % 2 ^ 11 = 2047 := by
    change 0x7FF0000000000000 ≤ x.toBits.toNat % 2 ^ 63 ↔ _
    omega
  simp only [finite?, binaryOfBits, hinfinite, hexponent, hfraction]
  split
  · rfl
  · split
    · rfl
    · have hpositive : leastExponent + ((x.toBits.toNat / 2 ^ 52 % 2 ^ 11 - 1 : Nat) : Int) =
          (x.toBits.toNat / 2 ^ 52 % 2 ^ 11 : Nat) - 1075 := by
        simp only [leastExponent]
        omega
      rw [hpositive]
      rfl

theorem binaryOf_unpack (b : BitVec 64) :
    binaryOf (UnpackedFloat.unpack Format.binary64 b) = binaryOfBits b.toNat := by
  have hlt : b.toNat < 2 ^ 64 := b.isLt
  have hsign : isMinus (Sign.ofBitVec (@unpackSign Format.binary64 b)) =
      decide (2 ^ 63 ≤ b.toNat) := by
    rw [isMinus_ofBitVec, unpackSign_toNat, decide_eq_decide]
    omega
  have hlast : @unpackExponent Format.binary64 b = -1#11 ↔
      b.toNat / 2 ^ 52 % 2 ^ 11 = 2047 := by
    rw [← BitVec.toNat_inj, unpackExponent_toNat]
    rfl
  have hfirst : @unpackExponent Format.binary64 b = 0#11 ↔
      b.toNat / 2 ^ 52 % 2 ^ 11 = 0 := by
    rw [← BitVec.toNat_inj, unpackExponent_toNat]
    rfl
  have hnone : @unpackMantissa Format.binary64 b = 0#52 ↔ b.toNat % 2 ^ 52 = 0 := by
    rw [← BitVec.toNat_inj, unpackMantissa_toNat]
    rfl
  have hbias : (Format.binary64.exponentBias : Int) = 1023 := rfl
  rw [UnpackedFloat.unpack, binaryOfBits]
  by_cases hinfinite : b.toNat / 2 ^ 52 % 2 ^ 11 = 2047
  · rw [if_pos hinfinite, if_pos (hlast.2 hinfinite)]
    split <;> rfl
  · rw [if_neg hinfinite, if_neg fun h => hinfinite (hlast.1 h)]
    by_cases hsubnormal : b.toNat / 2 ^ 52 % 2 ^ 11 = 0
    · rw [if_pos hsubnormal, if_pos (hfirst.2 hsubnormal)]
      split
      · rename_i hzero
        rw [hnone.1 hzero, ← hsign]
        rfl
      · simp only [binaryOf, hsign, unpackMantissa_toNat, unpackExponent_toNat, hsubnormal, hbias]
        rfl
    · rw [if_neg hsubnormal, if_neg fun h => hsubnormal (hfirst.1 h)]
      simp only [binaryOf, hsign, one_append_toNat, unpackMantissa_toNat, unpackExponent_toNat,
        hbias]
      rfl

/-- The parts of a double are those of its unpacked form. -/
theorem finite?_eq (x : Float) : finite? x = binaryOf x.toModel.unpack := by
  rw [finite?_eq_ofBits, Float.Model.unpack, binaryOf_unpack]
  rfl

end IssueGateway.Number
