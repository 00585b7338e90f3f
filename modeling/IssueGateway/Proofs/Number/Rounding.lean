import IssueGateway.Proofs.Number.Binary64

/-!
# Where rounding runs out of doubles

Rounding goes to a neighbouring whole number of units, a half to the even one. The unit of a
fraction is the power of two that leaves it 53 significant bits. So a fraction has a nearest double
just if it is below the middle between the last double and the power of two behind it
(`nearest?_eq_none_iff`): the middle itself rounds to the even neighbour, which is no double.
-/

namespace IssueGateway.Number

theorem roundHalfEven_eq_or (num den : Nat) :
    roundHalfEven num den = num / den ∨ roundHalfEven num den = num / den + 1 := by
  rw [roundHalfEven]
  split
  · exact Or.inl rfl
  · exact Or.inr rfl

/-- A fraction rounds down to an odd number or below only if it is below the half behind it. -/
theorem roundHalfEven_le_iff_of_odd {num den m : Nat} (hden : 0 < den) (hm : m % 2 = 1) :
    roundHalfEven num den ≤ m ↔ 2 * num < (2 * m + 1) * den := by
  have hdiv := Nat.div_add_mod num den
  have hmod := Nat.mod_lt num hden
  rcases lt_trichotomy (num / den) m with hlt | heq | hgt
  · have hle : den * (num / den) + den ≤ den * m := by nlinarith
    refine iff_of_true ?_ ?_
    · rcases roundHalfEven_eq_or num den with h | h <;> omega
    · nlinarith
  · rw [roundHalfEven, heq]
    rw [heq] at hdiv
    have hexpand : (2 * m + 1) * den = 2 * (den * m) + den := by ring
    rw [hexpand]
    split <;> omega
  · have hle : den * m + den ≤ den * (num / den) := by nlinarith
    refine iff_of_false ?_ ?_
    · rcases roundHalfEven_eq_or num den with h | h <;> omega
    · have hexpand : (2 * m + 1) * den = 2 * (den * m) + den := by ring
      omega

theorem le_roundHalfEven_of_le {num den m : Nat} (hden : 0 < den) (h : m * den ≤ num) :
    m ≤ roundHalfEven num den := by
  have hfloor : m ≤ num / den := (Nat.le_div_iff_mul_le hden).2 h
  rcases roundHalfEven_eq_or num den with h | h <;> omega

theorem roundHalfEven_le_of_lt {num den m : Nat} (hden : 0 < den) (h : num < m * den) :
    roundHalfEven num den ≤ m := by
  have hfloor : num / den < m := (Nat.div_lt_iff_lt_mul hden).2 h
  rcases roundHalfEven_eq_or num den with h | h <;> omega

theorem roundHalfEven_le_of_le {num den m : Nat} (hden : 0 < den) (h : num ≤ m * den) :
    roundHalfEven num den ≤ m := by
  rcases h.lt_or_eq with hlt | rfl
  · exact roundHalfEven_le_of_lt hden hlt
  · rw [roundHalfEven, Nat.mul_mod_left, Nat.mul_div_cancel m hden, if_pos (Or.inl hden)]

theorem scaled_snd_pos {num den : Nat} (hden : 0 < den) (exponent : Int) :
    0 < (scaled num den exponent).2 := by
  rw [scaled]
  split
  · exact Nat.mul_pos hden (Nat.two_pow_pos _)
  · exact hden

/-- Scaling divides the fraction by the power of two. -/
theorem scaled_fst (num den : Nat) (exponent : Int) :
    ((scaled num den exponent).1 : ℚ) * (den * 2 ^ exponent) =
      num * (scaled num den exponent).2 := by
  rw [scaled]
  split
  · rename_i hexponent
    have hpower := zpow_toNat 2 hexponent
    push_cast at hpower ⊢
    rw [hpower]
  · rename_i hexponent
    have hunit := zpow_mul_toNat two_ne_zero hexponent
    push_cast at hunit ⊢
    linear_combination (num : ℚ) * den * hunit

theorem scaled_lt_iff {num den : Nat} (hden : 0 < den) (exponent : Int) (bound : ℚ) :
    ((scaled num den exponent).1 : ℚ) < bound * (scaled num den exponent).2 ↔
      (num : ℚ) < bound * (den * 2 ^ exponent) := by
  have hfst := scaled_fst num den exponent
  have hsnd : (0 : ℚ) < (scaled num den exponent).2 := by
    exact_mod_cast scaled_snd_pos hden exponent
  have hunit : (0 : ℚ) < den * 2 ^ exponent := by positivity
  rw [← mul_lt_mul_iff_left₀ hunit, hfst, mul_assoc, mul_comm (num : ℚ),
    mul_left_comm, mul_lt_mul_iff_right₀ hsnd]

theorem scaled_le_iff {num den : Nat} (hden : 0 < den) (exponent : Int) (bound : ℚ) :
    ((scaled num den exponent).1 : ℚ) ≤ bound * (scaled num den exponent).2 ↔
      (num : ℚ) ≤ bound * (den * 2 ^ exponent) := by
  have hfst := scaled_fst num den exponent
  have hsnd : (0 : ℚ) < (scaled num den exponent).2 := by
    exact_mod_cast scaled_snd_pos hden exponent
  have hunit : (0 : ℚ) < den * 2 ^ exponent := by positivity
  rw [← mul_le_mul_iff_left₀ hunit, hfst, mul_assoc, mul_comm (num : ℚ),
    mul_left_comm, mul_le_mul_iff_right₀ hsnd]

/-- The exponent that leaves a fraction 53 significant bits, if it is not too low. -/
theorem exists_unitExponent_eq {num den : Nat} (hnum : num ≠ 0) (hden : 0 < den) :
    ∃ exponent, unitExponent num den = max leastExponent exponent ∧
      (2 : ℚ) ^ 52 * (den * 2 ^ exponent) ≤ num ∧ (num : ℚ) < 2 ^ 53 * (den * 2 ^ exponent) := by
  have hnumLow : (2 : ℚ) ^ (Nat.log2 num : Int) ≤ num := by
    rw [zpow_natCast]
    exact_mod_cast Nat.log2_self_le hnum
  have hnumHigh : (num : ℚ) < 2 ^ (Nat.log2 num + 1 : Int) := by
    exact_mod_cast Nat.lt_log2_self (n := num)
  have hdenLow : (2 : ℚ) ^ (Nat.log2 den : Int) ≤ den := by
    rw [zpow_natCast]
    exact_mod_cast Nat.log2_self_le hden.ne'
  have hdenHigh : (den : ℚ) < 2 ^ (Nat.log2 den + 1 : Int) := by
    exact_mod_cast Nat.lt_log2_self (n := den)
  set guess : Int := (Nat.log2 num : Int) - Nat.log2 den - fractionBits with hguess
  have hlow : (2 : ℚ) ^ 52 * (den * 2 ^ (guess - 1)) < num := by
    calc (2 : ℚ) ^ 52 * (den * 2 ^ (guess - 1))
        < 2 ^ 52 * (2 ^ (Nat.log2 den + 1 : Int) * 2 ^ (guess - 1)) := by gcongr
      _ = 2 ^ (Nat.log2 num : Int) := by
        rw [← zpow_natCast, ← zpow_add₀ two_ne_zero, ← zpow_add₀ two_ne_zero, hguess, fractionBits]
        congr 1
        push_cast
        ring
      _ ≤ num := hnumLow
  have hhigh : (num : ℚ) < 2 ^ 53 * (den * 2 ^ guess) := by
    calc (num : ℚ) < 2 ^ (Nat.log2 num + 1 : Int) := hnumHigh
      _ = 2 ^ 53 * (2 ^ (Nat.log2 den : Int) * 2 ^ guess) := by
        rw [← zpow_natCast, ← zpow_add₀ two_ne_zero, ← zpow_add₀ two_ne_zero, hguess, fractionBits]
        congr 1
        push_cast
        ring
      _ ≤ 2 ^ 53 * (den * 2 ^ guess) := by gcongr
  have hhalf : (2 : ℚ) ^ 53 * (den * 2 ^ (guess - 1)) = 2 ^ 52 * (den * 2 ^ guess) := by
    rw [zpow_sub_one₀ two_ne_zero]
    ring
  have htest : (scaled num den guess).1 < (scaled num den guess).2 * Nat.pow 2 fractionBits ↔
      (num : ℚ) < 2 ^ 52 * (den * 2 ^ guess) := by
    rw [← scaled_lt_iff hden guess (2 ^ 52), mul_comm (2 ^ 52 : ℚ)]
    exact_mod_cast Iff.rfl
  have hunit : unitExponent num den = max leastExponent
      (if (scaled num den guess).1 < (scaled num den guess).2 * Nat.pow 2 fractionBits
        then guess - 1 else guess) := rfl
  by_cases hshort : (num : ℚ) < 2 ^ 52 * (den * 2 ^ guess)
  · exact ⟨guess - 1, by rw [hunit, if_pos (htest.2 hshort)], hlow.le, by rwa [hhalf]⟩
  · exact ⟨guess, by rw [hunit, if_neg (mt htest.1 hshort)], not_lt.1 hshort, hhigh⟩

/-- The exponent is at least the lowest one, and above it leaves the fraction 53 bits. -/
theorem unitExponent_spec {num den : Nat} (hnum : num ≠ 0) (hden : 0 < den) :
    leastExponent ≤ unitExponent num den ∧
      (num : ℚ) < 2 ^ 53 * (den * 2 ^ unitExponent num den) ∧
      (leastExponent < unitExponent num den →
        (2 : ℚ) ^ 52 * (den * 2 ^ unitExponent num den) ≤ num) := by
  obtain ⟨exponent, heq, hlow, hhigh⟩ := exists_unitExponent_eq hnum hden
  refine ⟨heq ▸ le_max_left _ _, hhigh.trans_le ?_, fun hlt => ?_⟩
  · gcongr
    · norm_num
    · rw [heq]
      exact le_max_right _ _
  · rw [heq] at hlt ⊢
    rwa [max_eq_right (by omega)]

/-- The exponent of the last double. -/
def lastExponent : Int := 971

/-- The middle between the last double and the power of two that would be next. -/
def firstOverflow : Nat := (2 ^ 54 - 1) * 2 ^ 970

theorem firstOverflow_pos : 0 < firstOverflow := by
  rw [firstOverflow]
  positivity

theorem firstOverflow_cast : (firstOverflow : ℚ) = (2 ^ 53 - 1 / 2) * 2 ^ lastExponent := by
  have hhalf (k : Nat) : (((2 ^ 54 - 1) * 2 ^ k : Nat) : ℚ) =
      (2 ^ 53 - 1 / 2) * 2 ^ (k + 1 : Int) := by
    rw [Nat.cast_mul, Nat.cast_pow, zpow_add_one₀ two_ne_zero, zpow_natCast]
    push_cast
    ring
  rw [firstOverflow, show lastExponent = ((970 : Nat) : Int) + 1 from rfl, hhalf]

theorem firstOverflow_mul_le_iff {num den : Nat} :
    firstOverflow * den ≤ num ↔ (2 ^ 53 - 1 / 2) * (den * 2 ^ lastExponent) ≤ (num : ℚ) := by
  rw [← @Nat.cast_le ℚ, Nat.cast_mul, firstOverflow_cast, mul_right_comm, mul_assoc]

/-- The exponent counts stretches of `2 ^ 52` bit patterns, the significand those in its stretch. -/
theorem nearestBits_eq {num den : Nat} {e : Int} (hnum : num ≠ 0) (he : unitExponent num den = e) :
    nearestBits num den = (e - leastExponent).toNat * Nat.pow 2 fractionBits +
      roundHalfEven (scaled num den e).1 (scaled num den e).2 := by
  rw [nearestBits, if_neg hnum, he]

/-- A fraction has the bits of infinity or more from that middle on. -/
theorem infinityBits_le_nearestBits_iff {num den : Nat} (hden : 0 < den) :
    infinityBits ≤ nearestBits num den ↔ firstOverflow * den ≤ num := by
  by_cases hnum : num = 0
  · rw [hnum, nearestBits, if_pos rfl]
    exact iff_of_false (by decide) (Nat.not_le.2 (Nat.mul_pos firstOverflow_pos hden))
  obtain ⟨hleast, hhigh, hlow⟩ := unitExponent_spec hnum hden
  obtain ⟨e, he⟩ : ∃ e, unitExponent num den = e := ⟨_, rfl⟩
  rw [nearestBits_eq hnum he, infinityBits, firstOverflow_mul_le_iff]
  rw [he] at hleast hhigh hlow
  have hsnd : 0 < (scaled num den e).2 := scaled_snd_pos hden e
  have hscaled : ∀ bound : ℚ, ((scaled num den e).1 : ℚ) < bound * (scaled num den e).2 ↔
      (num : ℚ) < bound * (den * 2 ^ e) := scaled_lt_iff hden e
  have hlast : lastExponent = 971 := rfl
  simp only [leastExponent, fractionBits, Nat.pow_eq] at hleast hlow ⊢
  generalize (scaled num den e).1 = n at *
  generalize (scaled num den e).2 = d at *
  generalize lastExponent = last at *
  have hround : roundHalfEven n d ≤ 2 ^ 53 :=
    roundHalfEven_le_of_lt hsnd (by exact_mod_cast (hscaled (2 ^ 53)).2 hhigh)
  rcases lt_trichotomy e last with hlt | heq | hgt
  · have hpos : (0 : ℚ) < den * 2 ^ (last - 1) := by positivity
    have hunit : (den : ℚ) * 2 ^ last = 2 * (den * 2 ^ (last - 1)) := by
      rw [zpow_sub_one₀ two_ne_zero]
      ring
    have hmono : (den : ℚ) * 2 ^ e ≤ den * 2 ^ (last - 1) := by
      gcongr
      · norm_num
      · omega
    refine iff_of_false (by omega) (not_le.2 ?_)
    rw [hunit]
    linarith
  · -- the last unit: only 53 bits that round up make the next power of two
    have htwice : 2 * n < (2 * (2 ^ 53 - 1) + 1) * d ↔ (n : ℚ) < (2 ^ 53 - 1 / 2) * d := by
      rw [← @Nat.cast_lt ℚ]
      push_cast
      constructor <;> intro h <;> linarith
    have hover : (2 ^ 53 - 1 / 2) * (den * 2 ^ last) ≤ (num : ℚ) ↔
        ¬ roundHalfEven n d ≤ 2 ^ 53 - 1 := by
      rw [roundHalfEven_le_iff_of_odd hsnd (by decide), htwice, hscaled, not_lt, heq]
    rw [hover]
    omega
  · have hshort : 2 ^ 52 * d ≤ n := by
      have := (hscaled (2 ^ 52)).not.2 (not_lt.2 (hlow (by omega)))
      exact_mod_cast not_lt.1 this
    have hlong := le_roundHalfEven_of_le hsnd hshort
    have hpos : (0 : ℚ) < den * 2 ^ last := by positivity
    have hunit : (den : ℚ) * 2 ^ (last + 1) = 2 * (den * 2 ^ last) := by
      rw [zpow_add_one₀ two_ne_zero]
      ring
    have hmono : (den : ℚ) * 2 ^ (last + 1) ≤ den * 2 ^ e := by
      gcongr
      · norm_num
      · omega
    have hnum := hlow (by omega)
    refine iff_of_true (by omega) ?_
    linarith

theorem nearest?_eq_none_iff {negative : Bool} {num den : Nat} (hden : 0 < den) :
    nearest? negative num den = none ↔ firstOverflow * den ≤ num := by
  rw [← infinityBits_le_nearestBits_iff hden, nearest?, ite_eq_right_iff]
  simp

/-- An integer has a nearest double unless it is too large, whatever its sign. -/
theorem ofInt?_eq_none_iff {n : Int} : ofInt? n = none ↔ firstOverflow ≤ n.natAbs := by
  rw [ofInt?, nearest?_eq_none_iff Nat.one_pos, mul_one]

end IssueGateway.Number
