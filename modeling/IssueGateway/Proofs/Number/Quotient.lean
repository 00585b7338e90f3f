import IssueGateway.Proofs.Number.Shortest

/-!
# Quotients rounded up

The bits of a double count units, in stretches with units of one size, so the quotient of two counts
is worth the whole number of units that is nearest to it (`exists_finite?_ratio`). That is off by at
most half a unit (`abs_rounded_sub_le`) and does not pass a whole number (`rounded_le`). Where both
counts have 53 bits, half a unit is too little to come down to the whole number below. So rounding
such a quotient up as a double gives the exact quotient rounded up (`ceiling?_ratio`).
-/

namespace IssueGateway.Number

open Float.Model (Format UnpackedFloat)
open Float.Model.UnpackedFloat (isNaNBits pack_unpack)

/-- Bits below those of infinity are kept by the double that is made of them. -/
theorem toBits_withSign {bits : Nat} (h : bits < infinityBits) :
    (withSign false bits).toBits.toNat = bits := by
  rw [infinityBits] at h
  have hbits : (BitVec.ofNat 64 bits).toNat = bits := by
    rw [BitVec.toNat_ofNat]
    omega
  have hnumber : ¬ @isNaNBits Format.binary64 (BitVec.ofNat 64 bits) = true := by
    rw [isNaNBits, decide_eq_true_iff]
    rintro ⟨hexponent, -⟩
    rw [← BitVec.toNat_inj, unpackExponent_toNat, hbits] at hexponent
    simp at hexponent
    omega
  have hmodel : (withSign false bits).toBits.toBitVec = UnpackedFloat.pack Format.binary64
      (UnpackedFloat.unpack Format.binary64 (BitVec.ofNat 64 bits)) := rfl
  change (withSign false bits).toBits.toBitVec.toNat = bits
  rw [hmodel, pack_unpack _ (by decide), if_neg hnumber, hbits]

/-- Exponent and fraction as they stand in the bits of a double that is not below the normal ones. -/
theorem binaryOfBits_of_field {field fraction : Nat} (hpos : 0 < field) (hfield : field < 2047)
    (hfraction : fraction < 2 ^ 52) : binaryOfBits (field * 2 ^ 52 + fraction) =
      some ⟨false, fraction + 2 ^ 52, leastExponent + (field - 1 : Nat)⟩ := by
  have hexponent : (field * 2 ^ 52 + fraction) / 2 ^ 52 % 2 ^ 11 = field := by omega
  have hrest : (field * 2 ^ 52 + fraction) % 2 ^ 52 = fraction := by omega
  have hsign : ¬ 2 ^ 63 ≤ field * 2 ^ 52 + fraction := by omega
  have hleast : (field : Int) - 1075 = leastExponent + (field - 1 : Nat) := by
    rw [leastExponent]
    omega
  rw [binaryOfBits, hexponent, hrest, if_neg hfield.ne, if_neg hpos.ne', decide_eq_false hsign,
    hleast]

/-- The bits count the units of the double, in stretches of which each but the first has units twice
as large as the one before. -/
theorem exists_binaryOfBits {stretch units : Nat} (hshort : units ≤ 2 ^ 53)
    (hlong : 0 < stretch → 2 ^ 52 ≤ units)
    (hfinite : stretch * Nat.pow 2 fractionBits + units < infinityBits) :
    ∃ b, binaryOfBits (stretch * Nat.pow 2 fractionBits + units) = some b ∧
      b.toRat = units * 2 ^ (leastExponent + stretch) := by
  rw [fractionBits, Nat.pow_eq, infinityBits] at *
  by_cases hsubnormal : units < 2 ^ 52
  · obtain rfl : stretch = 0 := by omega
    have hfield : (0 * 2 ^ 52 + units) / 2 ^ 52 % 2 ^ 11 = 0 := by omega
    have hfraction : (0 * 2 ^ 52 + units) % 2 ^ 52 = units := by omega
    have hsign : ¬ 2 ^ 63 ≤ 0 * 2 ^ 52 + units := by omega
    refine ⟨⟨false, units, leastExponent⟩, ?_, ?_⟩
    · rw [binaryOfBits, hfield, hfraction, decide_eq_false hsign]
      rfl
    · simp [Binary.toRat]
  · rcases hshort.lt_or_eq with hless | rfl
    · have hbits : stretch * 2 ^ 52 + units = (stretch + 1) * 2 ^ 52 + (units - 2 ^ 52) := by omega
      rw [hbits, binaryOfBits_of_field (by omega) (by omega) (by omega)]
      refine ⟨_, rfl, ?_⟩
      rw [Binary.toRat, Nat.sub_add_cancel (not_lt.1 hsubnormal), Nat.add_sub_cancel]
      exact one_mul _
    · -- all units of a stretch and one more: the first unit of the next stretch
      have hbits : stretch * 2 ^ 52 + 2 ^ 53 = (stretch + 2) * 2 ^ 52 + 0 := by omega
      rw [hbits, binaryOfBits_of_field (by omega) (by omega) (by omega)]
      refine ⟨_, rfl, ?_⟩
      have hnext : leastExponent + ((stretch + 2 - 1 : Nat) : Int) = leastExponent + stretch + 1 := by
        omega
      rw [Binary.toRat, hnext, zpow_add_one₀ two_ne_zero]
      push_cast
      ring

/-- The rational that a quotient is rounded to: the nearest whole number of its units. -/
def rounded (num den : Nat) : ℚ :=
  roundHalfEven (scaled num den (unitExponent num den)).1 (scaled num den (unitExponent num den)).2 *
    2 ^ unitExponent num den

section Quotient

variable {num den : Nat}

/-- A quotient of counts is a double worth what it is rounded to. -/
theorem exists_finite?_ratio (hnum : num ≠ 0) (hden : 0 < den)
    (hrange : num < firstOverflow * den) :
    ∃ b, finite? (ratio num den) = some b ∧ b.toRat = rounded num den := by
  obtain ⟨hleast, hhigh, hlow⟩ := unitExponent_spec hnum hden
  have hbits : nearestBits num den < infinityBits :=
    not_le.1 (mt (infinityBits_le_nearestBits_iff hden).1 (not_le.2 hrange))
  have hratio : ratio num den = withSign false (nearestBits num den) := by
    rw [ratio, nearest?, if_pos hbits]
    rfl
  rw [hratio, finite?_eq_ofBits, toBits_withSign hbits, rounded]
  obtain ⟨e, he⟩ : ∃ e, unitExponent num den = e := ⟨_, rfl⟩
  rw [nearestBits_eq hnum he] at hbits ⊢
  rw [he] at hleast hhigh hlow ⊢
  have hsnd : 0 < (scaled num den e).2 := scaled_snd_pos hden e
  have hstretch : leastExponent + ((e - leastExponent).toNat : Int) = e := by omega
  have hshort : roundHalfEven (scaled num den e).1 (scaled num den e).2 ≤ 2 ^ 53 :=
    roundHalfEven_le_of_lt hsnd (by exact_mod_cast (scaled_lt_iff hden e (2 ^ 53)).2 hhigh)
  have hlong : 0 < (e - leastExponent).toNat →
      2 ^ 52 ≤ roundHalfEven (scaled num den e).1 (scaled num den e).2 := by
    intro hpos
    have hscaled := (scaled_lt_iff hden e (2 ^ 52)).not.2 (not_lt.2 (hlow (by omega)))
    exact le_roundHalfEven_of_le hsnd (by exact_mod_cast not_lt.1 hscaled)
  obtain ⟨b, hb, hvalue⟩ := exists_binaryOfBits hshort hlong hbits
  rw [hstretch] at hvalue
  exact ⟨b, hb, hvalue⟩

/-- Rounding moves a quotient by at most half a unit. -/
theorem abs_rounded_sub_le (num : Nat) (hden : 0 < den) :
    |rounded num den - num / den| ≤ 2 ^ unitExponent num den / 2 := by
  rw [rounded]
  generalize unitExponent num den = e
  have hfst := scaled_fst num den e
  have hsnd : 0 < (scaled num den e).2 := scaled_snd_pos hden e
  generalize (scaled num den e).1 = n at *
  generalize (scaled num den e).2 = d at *
  have hunit : (0 : ℚ) < 2 ^ e := by positivity
  have hden' : (0 : ℚ) < den := by exact_mod_cast hden
  have hsnd' : (0 : ℚ) < d := by exact_mod_cast hsnd
  have hquotient : (num / den : ℚ) = n / d * 2 ^ e := by
    field_simp
    linarith
  have hround := mul_le_mul_of_nonneg_right (abs_roundHalfEven_sub_div_le n hsnd) hunit.le
  rw [hquotient, ← sub_mul, abs_mul, abs_of_pos hunit]
  linarith

/-- The units of a quotient below `2 ^ 53` are no larger than one. -/
theorem unitExponent_nonpos (hnum : num ≠ 0) (hden : 0 < den) (hlt : num < 2 ^ 53 * den) :
    unitExponent num den ≤ 0 := by
  obtain ⟨-, -, hlow⟩ := unitExponent_spec hnum hden
  by_contra hpos
  have hlow := hlow (by rw [leastExponent]; omega)
  have hden' : (0 : ℚ) < den := by exact_mod_cast hden
  have hunit : (2 : ℚ) ≤ 2 ^ unitExponent num den := by
    calc (2 : ℚ) = 2 ^ (1 : Int) := (zpow_one 2).symm
      _ ≤ 2 ^ unitExponent num den := zpow_le_zpow_right₀ one_le_two (by omega)
  have hlt' : (num : ℚ) < 2 ^ 53 * den := by exact_mod_cast hlt
  nlinarith

/-- Rounding does not pass a whole number. -/
theorem rounded_le {k : Nat} (hnum : num ≠ 0) (hden : 0 < den) (hlt : num < 2 ^ 53 * den)
    (hle : num ≤ k * den) : rounded num den ≤ k := by
  have hexponent := unitExponent_nonpos hnum hden hlt
  rw [rounded]
  generalize unitExponent num den = e at *
  have hsnd : 0 < (scaled num den e).2 := scaled_snd_pos hden e
  -- the whole number is one of units as well
  obtain ⟨units, hunits⟩ : ∃ units : Nat, (units : ℚ) * 2 ^ e = k := by
    refine ⟨k * 2 ^ (-e).toNat, ?_⟩
    have hpower : (2 : ℚ) ^ (-e) = 2 ^ (-e).toNat := by
      rw [← zpow_natCast]
      congr 1
      omega
    rw [Nat.cast_mul, Nat.cast_pow, Nat.cast_two, ← hpower, mul_assoc, ← zpow_add₀ two_ne_zero,
      neg_add_cancel, zpow_zero, mul_one]
  have hscaled : (scaled num den e).1 ≤ units * (scaled num den e).2 := by
    have hle' : (num : ℚ) ≤ units * 2 ^ e * den := by
      rw [hunits]
      exact_mod_cast hle
    exact_mod_cast (scaled_le_iff hden e units).2 (by linarith : (num : ℚ) ≤ units * (den * 2 ^ e))
  rw [← hunits]
  gcongr
  exact roundHalfEven_le_of_le hsnd hscaled

end Quotient

theorem ceiling?_of_finite? {x : Float} {b : Binary} (h : finite? x = some b) :
    ceiling? x = some ⌈b.toRat⌉ := by
  have hdenominator : (b.denominator : ℚ) ≠ 0 := by exact_mod_cast b.denominator_pos.ne'
  rw [ceiling?, h, Option.map_some, ← Rat.ceil_intCast_div_natCast, ← b.toRat_mul_denominator,
    mul_div_cancel_right₀ _ hdenominator]

theorem ceiling?_ratio_zero (den : Nat) : ceiling? (ratio 0 den) = some 0 := by
  rw [ratio, nearest?, nearestBits, if_pos rfl]
  decide +kernel

/-- Half a unit is less than the parts that a quotient of counts of 53 bits consists of. -/
theorem half_unit_lt {num den : Nat} (hnum : num ≠ 0) (hden : 0 < den) (hshort : num < 2 ^ 53)
    (hshort' : den ≤ 2 ^ 53) : (2 : ℚ) ^ unitExponent num den / 2 < 1 / den := by
  obtain ⟨hleast, -, hlow⟩ := unitExponent_spec hnum hden
  have hdenRat : (0 : ℚ) < den := by exact_mod_cast hden
  rw [lt_div_iff₀ hdenRat]
  rcases hleast.lt_or_eq with hlt | heq
  · have hnumRat : (num : ℚ) < 2 ^ 53 := by exact_mod_cast hshort
    linarith [hlow hlt]
  · have hdenShort : (den : ℚ) ≤ 2 ^ 53 := by exact_mod_cast hshort'
    have hsmall : (2 : ℚ) ^ leastExponent ≤ 2 ^ (-53 : Int) :=
      zpow_le_zpow_right₀ one_le_two (by decide)
    rw [← heq]
    calc (2 : ℚ) ^ leastExponent / 2 * den ≤ 2 ^ (-53 : Int) / 2 * 2 ^ 53 := by gcongr
      _ < 1 := by norm_num

/-- Counts of 53 bits have their quotient rounded up as if it were exact. -/
theorem ceiling?_ratio {num den : Nat} (hden : 0 < den) (hshort : num < 2 ^ 53)
    (hshort' : den ≤ 2 ^ 53) :
    ceiling? (ratio num den) = some (((num + den - 1) / den : Nat) : Int) := by
  obtain ⟨k, hk⟩ : ∃ k, (num + den - 1) / den = k := ⟨_, rfl⟩
  by_cases hnum : num = 0
  · rw [hnum, Nat.zero_add, Nat.div_eq_of_lt (Nat.sub_one_lt hden.ne')]
    exact ceiling?_ratio_zero den
  have hlt : num < 2 ^ 53 * den := hshort.trans_le (Nat.le_mul_of_pos_right _ hden)
  have hfinite : num < firstOverflow * den := by
    refine hlt.trans_le (Nat.mul_le_mul_right den ?_)
    exact (by decide : 2 ^ 53 ≤ 2 ^ 54 - 1).trans (Nat.le_mul_of_pos_right _ (Nat.two_pow_pos _))
  obtain ⟨b, hb, hvalue⟩ := exists_finite?_ratio hnum hden hfinite
  have hdiv := Nat.div_add_mod (num + den - 1) den
  have hmod := Nat.mod_lt (num + den - 1) hden
  rw [hk, mul_comm] at hdiv
  rw [ceiling?_of_finite? hb, hvalue, hk, Option.some_inj, Int.ceil_eq_iff, Int.cast_natCast]
  refine ⟨?_, rounded_le hnum hden hlt (by omega)⟩
  have hdenRat : (0 : ℚ) < den := by exact_mod_cast hden
  have hgap : (k - 1 : ℚ) + 1 / den ≤ num / den := by
    rw [le_div_iff₀ hdenRat, add_mul, one_div_mul_cancel hdenRat.ne']
    have hbelow : (k : ℚ) * den + 1 ≤ num + den := by
      exact_mod_cast (by omega : k * den + 1 ≤ num + den)
    linarith
  linarith [half_unit_lt hnum hden hshort hshort', (abs_le.1 (abs_rounded_sub_le num hden)).1]

end IssueGateway.Number
