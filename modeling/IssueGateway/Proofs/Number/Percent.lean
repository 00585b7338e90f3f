import IssueGateway.Number.Basic
import IssueGateway.Proofs.Number.Binary64
import Mathlib

/-!
# Percentages are numbers

A double is the non-number exactly if its unpacked form is (`isNaN_ofModel_pack`). So a product with
a finite factor other than zero is the non-number only if the other factor is, and a percentage,
whose parts are counts, never is.
-/

namespace IssueGateway.Number

open Float.Model (Format UnpackedFloat)
open Float.Model.UnpackedFloat (packedInfinity packedZero unpack unpackExponent unpackMantissa
  unpackExponent_packComponents unpackMantissa_packComponents)

theorem isNaN_unpack (b : BitVec 64) :
    (unpack Format.binary64 b).isNaN = true ↔
      @unpackExponent Format.binary64 b = -1#11 ∧ @unpackMantissa Format.binary64 b ≠ 0#52 := by
  rw [unpack]
  by_cases hexponent : @unpackExponent Format.binary64 b = -1#11
  · rw [if_pos hexponent]
    by_cases hmantissa : @unpackMantissa Format.binary64 b = 0#52
    · simp [hmantissa, UnpackedFloat.isNaN]
    · simp [hmantissa, hexponent, UnpackedFloat.isNaN]
  · rw [if_neg hexponent]
    refine iff_of_false ?_ fun h => hexponent h.1
    split
    · split <;> simp [UnpackedFloat.isNaN]
    · simp [UnpackedFloat.isNaN]

/-- Packing neither makes nor loses the non-number. -/
theorem isNaN_unpack_pack (u : UnpackedFloat) :
    (unpack Format.binary64 (UnpackedFloat.pack Format.binary64 u)).isNaN = u.isNaN := by
  rw [Bool.eq_iff_iff, isNaN_unpack]
  cases u with
  | notANumber => decide
  | infinity s => simp [UnpackedFloat.pack, packedInfinity, UnpackedFloat.isNaN]
  | zero s => simp [UnpackedFloat.pack, packedZero, UnpackedFloat.isNaN]
  | finite s m e hm =>
    refine iff_of_false (fun ⟨hexponent, hmantissa⟩ => ?_) Bool.false_ne_true
    rw [UnpackedFloat.pack] at hexponent hmantissa
    split at hexponent
    · rename_i hlarge
      rw [if_pos hlarge] at hmantissa
      exact hmantissa unpackMantissa_packComponents
    · rename_i hfits
      split at hexponent
      · rw [unpackExponent_packComponents, ← BitVec.toNat_inj] at hexponent
        simp at hexponent hfits
        omega
      · rw [unpackExponent_packComponents] at hexponent
        exact absurd hexponent (by decide)

theorem isNaN_roundWithAccuracy (s : UnpackedFloat.Sign) (m : Nat) (e : Int)
    (accuracy : UnpackedFloat.Accuracy) :
    (UnpackedFloat.roundWithAccuracy Format.binary64 s m e accuracy).isNaN = false := by
  rw [UnpackedFloat.roundWithAccuracy]
  dsimp only
  split <;> rfl

theorem isNaN_mul_finite {u : UnpackedFloat} (h : u.isNaN = false) (s : UnpackedFloat.Sign)
    (m : Nat) (e : Int) (hm : 0 < m) :
    (UnpackedFloat.mul Format.binary64 u (.finite s m e hm)).isNaN = false := by
  cases u with
  | notANumber => exact h
  | infinity t => rfl
  | zero t => rfl
  | finite t n f hn => exact isNaN_roundWithAccuracy ..

/-- Bits below those of infinity are those of a number. -/
theorem isNaN_withSign {bits : Nat} (h : bits ≤ infinityBits) :
    (withSign false bits).isNaN = false := by
  have hmodel : (withSign false bits).isNaN =
      (unpack Format.binary64 (UnpackedFloat.pack Format.binary64
        (unpack Format.binary64 (BitVec.ofNat 64 bits)))).isNaN := rfl
  rw [hmodel, isNaN_unpack_pack, Bool.eq_false_iff, Ne, isNaN_unpack]
  rintro ⟨hexponent, hmantissa⟩
  rw [infinityBits] at h
  have hbits : (BitVec.ofNat 64 bits).toNat = bits := by
    rw [BitVec.toNat_ofNat]
    omega
  rw [← BitVec.toNat_inj, unpackExponent_toNat, hbits] at hexponent
  rw [Ne, ← BitVec.toNat_inj, unpackMantissa_toNat, hbits] at hmantissa
  simp at hexponent hmantissa
  omega

theorem isNaN_ratio (part whole : Nat) : (ratio part whole).isNaN = false := by
  rw [ratio, nearest?]
  split
  · rename_i hfinite
    exact isNaN_withSign hfinite.le
  · exact isNaN_withSign le_rfl

/-- A percentage is a number, whatever it is a percentage of. -/
theorem isNaN_percent (part whole : Nat) : (percent part whole).isNaN = false := by
  have hhundred : (100.0 : Float).toModel.unpack =
      .finite .positive (2 ^ 46 * 100) (-46) (by decide) := rfl
  have hmodel : (percent part whole).isNaN =
      (unpack Format.binary64 (UnpackedFloat.pack Format.binary64 (UnpackedFloat.mul Format.binary64
        (ratio part whole).toModel.unpack (100.0 : Float).toModel.unpack))).isNaN := rfl
  rw [hmodel, isNaN_unpack_pack, hhundred]
  exact isNaN_mul_finite (isNaN_ratio part whole) ..

end IssueGateway.Number
