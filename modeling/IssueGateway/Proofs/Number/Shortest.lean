import IssueGateway.Proofs.Number.Rounding
import IssueGateway.Proofs.Number.Value
import IssueGateway.Proofs.Text.Decimal

/-!
# The digits of a double belong to it

The reals that round to a double form an interval, and no real is in the intervals of two doubles
(`RoundsTo.unique`). The shortest digits of a double are in its interval (`roundsTo_shortest`): the
search takes only such digits, and seventeen digits are near enough to the double to be such. So the
digits of a double are those of no other.
-/

namespace IssueGateway.Number

/-- How far below a double the reals reach that round to it, in units of its last place: half a
unit, but a quarter if the next double below is half as far. -/
def reachBelow (significand : Nat) (exponent : Int) : ℚ :=
  if significand = 2 ^ 52 ∧ leastExponent < exponent then 1 / 4 else 1 / 2

/-- The real rounds to `significand · 2 ^ exponent`. The ends of the interval go to an even
significand. -/
def RoundsTo (significand : Nat) (exponent : Int) (q : ℚ) : Prop :=
  if significand % 2 = 0 then
    (significand - reachBelow significand exponent) * 2 ^ exponent ≤ q ∧
      q ≤ (significand + 1 / 2) * 2 ^ exponent
  else
    (significand - reachBelow significand exponent) * 2 ^ exponent < q ∧
      q < (significand + 1 / 2) * 2 ^ exponent

section Interval

variable {m : Nat} {e : Int} {q : ℚ}

theorem reachBelow_le : reachBelow m e ≤ 1 / 2 := by
  rw [reachBelow]
  split <;> norm_num

theorem RoundsTo.le (h : RoundsTo m e q) :
    (m - reachBelow m e) * 2 ^ e ≤ q ∧ q ≤ (m + 1 / 2) * 2 ^ e := by
  rw [RoundsTo] at h
  split at h
  · exact h
  · exact ⟨h.1.le, h.2.le⟩

theorem RoundsTo.lt (h : RoundsTo m e q) (hodd : m % 2 = 1) :
    (m - reachBelow m e) * 2 ^ e < q ∧ q < (m + 1 / 2) * 2 ^ e := by
  rwa [RoundsTo, if_neg (by omega)] at h

theorem roundsTo_of_lt (h : (m - reachBelow m e) * 2 ^ e < q ∧ q < (m + 1 / 2) * 2 ^ e) :
    RoundsTo m e q := by
  rw [RoundsTo]
  split
  · exact ⟨h.1.le, h.2.le⟩
  · exact h

theorem RoundsTo.pos (h : RoundsTo m e q) (hm : 0 < m) : 0 < q := by
  have hone : (1 : ℚ) ≤ m := by exact_mod_cast hm
  have hreach : reachBelow m e ≤ 1 / 2 := reachBelow_le
  exact (mul_pos (by linarith) (zpow_pos two_pos e)).trans_le h.le.1

/-- The interval of a double in whole numbers: its three points over one denominator. -/
theorem exists_scale (m : Nat) (e : Int) : ∃ below scale den : Nat,
    Interval.around m e =
      ⟨(4 * m - below) * scale, 4 * m * scale, (4 * m + 2) * scale, den, m % 2 = 0⟩ ∧
    below ≤ 2 ∧ (below : ℚ) = 4 * reachBelow m e ∧ 0 < den ∧ (4 * scale : ℚ) = 2 ^ e * den := by
  obtain ⟨below, hbelow, hle, hreach⟩ : ∃ below : Nat,
      (if m = 2 ^ 52 ∧ leastExponent < e then 1 else 2) = below ∧ below ≤ 2 ∧
        (below : ℚ) = 4 * reachBelow m e := by
    rw [reachBelow]
    split
    · exact ⟨1, rfl, by decide, by norm_num⟩
    · exact ⟨2, rfl, le_rfl, by norm_num⟩
  by_cases he : 0 ≤ e
  · refine ⟨below, Nat.pow 2 e.toNat, 4, ?_, hle, hreach, by decide, ?_⟩
    · rw [← hbelow]
      simp only [Interval.around, if_pos he, fractionBits, Nat.pow_eq]
      congr
    · have hpower := zpow_toNat 2 he
      push_cast at hpower ⊢
      rw [hpower, mul_comm]
  · refine ⟨below, 1, 4 * Nat.pow 2 (-e).toNat, ?_, hle, hreach,
      Nat.mul_pos (by decide) (Nat.two_pow_pos _), ?_⟩
    · rw [← hbelow]
      simp only [Interval.around, if_neg he, fractionBits, Nat.pow_eq]
      congr
    · have hunit := zpow_mul_toNat two_ne_zero he
      push_cast at hunit ⊢
      linear_combination -4 * hunit

/-- An interval has the decimals in it that lie between its ends. -/
theorem Interval.contains_iff (i : Interval) (digits : Nat) (exponent : Int) :
    i.contains digits exponent = true ↔
      if i.closed then (i.low : ℚ) ≤ digits * 10 ^ exponent * i.den ∧
        digits * 10 ^ exponent * i.den ≤ (i.high : ℚ)
      else (i.low : ℚ) < digits * 10 ^ exponent * i.den ∧
        digits * 10 ^ exponent * i.den < (i.high : ℚ) := by
  obtain ⟨point, scale, hcontains, hscale, hpoint⟩ : ∃ point scale : Nat,
      i.contains digits exponent = (if i.closed then
          decide (i.low * scale ≤ point) && decide (point ≤ i.high * scale)
        else decide (i.low * scale < point) && decide (point < i.high * scale)) ∧
      (0 : ℚ) < scale ∧ (point : ℚ) = digits * 10 ^ exponent * i.den * scale := by
    by_cases hexponent : 0 ≤ exponent
    · refine ⟨digits * Nat.pow 10 exponent.toNat * i.den, 1, ?_, by norm_num, ?_⟩
      · simp only [contains, if_pos hexponent]
      · have hpower := zpow_toNat 10 hexponent
        push_cast at hpower ⊢
        rw [hpower, mul_one]
    · refine ⟨digits * i.den, Nat.pow 10 (-exponent).toNat, ?_, ?_, ?_⟩
      · simp only [contains, if_neg hexponent]
      · rw [Nat.pow_eq]
        positivity
      · have hunit := zpow_mul_toNat (show 10 ≠ 0 by decide) hexponent
        push_cast at hunit ⊢
        linear_combination (-digits * i.den : ℚ) * hunit
  rw [hcontains]
  split <;> simp only [Bool.and_eq_true, decide_eq_true_eq, ← @Nat.cast_le ℚ, ← @Nat.cast_lt ℚ,
    Nat.cast_mul, hpoint, mul_le_mul_iff_of_pos_right hscale, mul_lt_mul_iff_of_pos_right hscale]

theorem contains_around_iff (hm : 0 < m) (digits : Nat) (exponent : Int) :
    (Interval.around m e).contains digits exponent = true ↔
      RoundsTo m e (digits * 10 ^ exponent) := by
  obtain ⟨below, scale, den, haround, hbelow, hreach, hden, hscale⟩ := exists_scale m e
  have hden' : (0 : ℚ) < den := by exact_mod_cast hden
  have hlow : (((4 * m - below) * scale : Nat) : ℚ) = (m - reachBelow m e) * 2 ^ e * den := by
    rw [Nat.cast_mul, Nat.cast_sub (by omega), hreach]
    push_cast
    linear_combination (m - reachBelow m e) * hscale
  have hhigh : (((4 * m + 2) * scale : Nat) : ℚ) = (m + 1 / 2) * 2 ^ e * den := by
    push_cast
    linear_combination (m + 1 / 2 : ℚ) * hscale
  rw [haround, Interval.contains_iff, RoundsTo]
  simp only [hlow, hhigh, decide_eq_true_eq, mul_le_mul_iff_of_pos_right hden',
    mul_lt_mul_iff_of_pos_right hden']

/-- Of two doubles with one exponent the reals of the lower one come first. -/
theorem RoundsTo.significand_le {n : Nat} (hm : RoundsTo m e q) (hn : RoundsTo n e q) : m ≤ n := by
  by_contra hlt
  have hunit : (0 : ℚ) < 2 ^ e := by positivity
  have hreach : reachBelow m e ≤ 1 / 2 := reachBelow_le
  have hnext : (n : ℚ) + 1 ≤ m := by exact_mod_cast not_le.1 hlt
  -- the two intervals share at most an end, and an odd significand has no ends
  have hend : (n + 1 / 2 : ℚ) * 2 ^ e ≤ (m - reachBelow m e) * 2 ^ e :=
    mul_le_mul_of_nonneg_right (by linarith) hunit.le
  by_cases hodd : m % 2 = 1
  · exact absurd ((hm.lt hodd).1.trans_le hn.le.2) (not_lt.2 hend)
  · by_cases hodd' : n % 2 = 1
    · exact absurd (hm.le.1.trans_lt (hn.lt hodd').2) (not_lt.2 hend)
    · have hapart : (n : ℚ) + 2 ≤ m := by exact_mod_cast (by omega : n + 2 ≤ m)
      have hgap : (n + 1 / 2 : ℚ) * 2 ^ e < (m - reachBelow m e) * 2 ^ e :=
        mul_lt_mul_of_pos_right (by linarith) hunit
      exact absurd (hm.le.1.trans hn.le.2) (not_le.2 hgap)

/-- The reals of an exponent end before the next power of two by half a unit. -/
theorem RoundsTo.lt_top (h : RoundsTo m e q) (hm : m < 2 ^ 53) : q < (2 ^ 53 - 1 / 2) * 2 ^ e := by
  have hunit : (0 : ℚ) < 2 ^ e := by positivity
  by_cases hlast : m = 2 ^ 53 - 1
  · have hcast : (m : ℚ) + 1 / 2 = 2 ^ 53 - 1 / 2 := by
      rw [hlast]
      norm_num
    rw [← hcast]
    exact (h.lt (by omega)).2
  · have hbelow : (m : ℚ) + 2 ≤ 2 ^ 53 := by exact_mod_cast (by omega : m + 2 ≤ 2 ^ 53)
    exact h.le.2.trans_lt (mul_lt_mul_of_pos_right (by linarith) hunit)

/-- Above the lowest exponent they begin at most a quarter of a unit below the power of two. -/
theorem RoundsTo.bottom_le (h : RoundsTo m e q) (hm : 2 ^ 52 ≤ m) (he : leastExponent < e) :
    (2 ^ 52 - 1 / 4) * 2 ^ e ≤ q := by
  have hunit : (0 : ℚ) < 2 ^ e := by positivity
  refine (mul_le_mul_of_nonneg_right ?_ hunit.le).trans h.le.1
  by_cases hfirst : m = 2 ^ 52
  · rw [reachBelow, if_pos ⟨hfirst, he⟩, hfirst]
    norm_num
  · have hreach : reachBelow m e ≤ 1 / 2 := reachBelow_le
    have habove : (2 ^ 52 : ℚ) + 1 ≤ m := by exact_mod_cast (by omega : 2 ^ 52 + 1 ≤ m)
    linarith

theorem RoundsTo.exponent_le {a b : Binary} (ha : a.Normal) (hb : b.Normal)
    (hqa : RoundsTo a.significand a.exponent q) (hqb : RoundsTo b.significand b.exponent q) :
    b.exponent ≤ a.exponent := by
  by_contra hlt
  have hleast : leastExponent < b.exponent := lt_of_le_of_lt ha.least_le (not_le.1 hlt)
  have htop := hqa.lt_top ha.short
  have hbottom := hqb.bottom_le (hb.long hleast.ne') hleast
  have hmono : (2 : ℚ) ^ (a.exponent + 1) ≤ 2 ^ b.exponent :=
    zpow_le_zpow_right₀ one_le_two (by omega)
  rw [zpow_add_one₀ two_ne_zero] at hmono
  linarith

/-- A real rounds to one double only. -/
theorem RoundsTo.unique {a b : Binary} (ha : a.Normal) (hb : b.Normal)
    (hqa : RoundsTo a.significand a.exponent q) (hqb : RoundsTo b.significand b.exponent q) :
    a.significand = b.significand ∧ a.exponent = b.exponent := by
  have hexponent : a.exponent = b.exponent :=
    le_antisymm (hqb.exponent_le hb ha hqa) (hqa.exponent_le ha hb hqb)
  rw [hexponent] at hqa
  exact ⟨le_antisymm (hqa.significand_le hqb) (hqb.significand_le hqa), hexponent⟩

end Interval

section Search

variable {num den : Nat}

/-- Rounding is off by at most a half. -/
theorem abs_roundHalfEven_sub_le (num : Nat) (hden : 0 < den) :
    |(roundHalfEven num den * den - num : ℚ)| ≤ den / 2 := by
  have hdiv : (den * (num / den : Nat) + (num % den : Nat) : ℚ) = num := by
    exact_mod_cast Nat.div_add_mod num den
  have hmod : ((num % den : Nat) : ℚ) < den := by exact_mod_cast Nat.mod_lt num hden
  have hrest : (0 : ℚ) ≤ (num % den : Nat) := by positivity
  rw [abs_le, roundHalfEven]
  split
  · rename_i hdown
    have hhalf : (2 * (num % den : Nat) : ℚ) ≤ den := by
      exact_mod_cast (by omega : 2 * (num % den) ≤ den)
    constructor <;> linarith
  · rename_i hup
    have hhalf : (den : ℚ) ≤ 2 * (num % den : Nat) := by
      exact_mod_cast (by omega : den ≤ 2 * (num % den))
    push_cast
    constructor <;> linarith

theorem abs_roundHalfEven_sub_div_le (num : Nat) (hden : 0 < den) :
    |(roundHalfEven num den - num / den : ℚ)| ≤ 1 / 2 := by
  have hden' : (0 : ℚ) < den := by exact_mod_cast hden
  have hround := abs_roundHalfEven_sub_le num hden
  rw [← mul_le_mul_iff_of_pos_right hden', ← abs_of_pos hden', ← abs_mul, abs_of_pos hden', sub_mul,
    div_mul_cancel₀ _ hden'.ne']
  linarith

/-- The nearer neighbour of a fraction on a grid is off by at most half a step. -/
theorem abs_neighbours_sub_le (num : Nat) (hden : 0 < den) (exponent : Int) :
    |((neighbours num den exponent).1 * 10 ^ exponent - num / den : ℚ)| ≤ 10 ^ exponent / 2 := by
  obtain ⟨n, d, hnear, hd, hscaled⟩ : ∃ n d : Nat,
      (neighbours num den exponent).1 = roundHalfEven n d ∧ 0 < d ∧
        (n * (10 ^ exponent * den) : ℚ) = num * d := by
    have hfst (n d : Nat) : (if roundHalfEven n d = n / d then (n / d, n / d + 1)
        else (n / d + 1, n / d)).1 = roundHalfEven n d := by
      split
      · rename_i h
        exact h.symm
      · rename_i h
        exact ((roundHalfEven_eq_or n d).resolve_left h).symm
    by_cases hexponent : 0 ≤ exponent
    · refine ⟨num, den * Nat.pow 10 exponent.toNat, ?_,
        Nat.mul_pos hden (Nat.pow_pos (by decide)), ?_⟩
      · rw [← hfst]
        simp only [neighbours, if_pos hexponent]
      · have hpower := zpow_toNat 10 hexponent
        push_cast at hpower ⊢
        rw [hpower]
        ring
    · refine ⟨num * Nat.pow 10 (-exponent).toNat, den, ?_, hden, ?_⟩
      · rw [← hfst]
        simp only [neighbours, if_neg hexponent]
      · have hunit := zpow_mul_toNat (show 10 ≠ 0 by decide) hexponent
        push_cast at hunit ⊢
        linear_combination (num * den : ℚ) * hunit
  have hden' : (0 : ℚ) < den := by exact_mod_cast hden
  have hd' : (0 : ℚ) < d := by exact_mod_cast hd
  have hstep : (0 : ℚ) < 10 ^ exponent := by positivity
  have hvalue : (num / den : ℚ) = n / d * 10 ^ exponent := by
    field_simp
    linarith
  rw [hnear, hvalue, ← sub_mul, abs_mul, abs_of_pos hstep]
  linarith [mul_le_mul_of_nonneg_right (abs_roundHalfEven_sub_div_le n hd) hstep.le]

/-- The first digit of a fraction is not before its decimal exponent. -/
theorem decimalExponent_le (hnum : 0 < num) (hden : 0 < den) :
    (10 : ℚ) ^ (decimalExponent num den - 1) ≤ num / den := by
  have hden' : (0 : ℚ) < den := by exact_mod_cast hden
  rw [decimalExponent]
  split
  · rename_i hle
    have hdigits := Text.pow_le_of_pos (Nat.div_pos hle hden)
    have hlength := List.length_pos_of_ne_nil (Text.natural_ne_nil (num / den))
    rw [show ((Text.natural (num / den)).length - 1 : Int) =
      ((Text.natural (num / den)).length - 1 : Nat) by omega, zpow_natCast]
    calc (10 : ℚ) ^ ((Text.natural (num / den)).length - 1) ≤ (num / den : Nat) := by
          exact_mod_cast hdigits
      _ ≤ num / den := Nat.cast_div_le
  · rename_i hlt
    -- the reciprocal has its digits, so the fraction has as many places before its first digit
    have hplaces {k : Nat} (h : den ≤ num * 10 ^ k) : (10 : ℚ) ^ (-k : Int) ≤ num / den := by
      rw [le_div_iff₀ hden', zpow_neg, zpow_natCast, inv_mul_le_iff₀ (by positivity), mul_comm]
      exact_mod_cast h
    have hlength := List.length_pos_of_ne_nil (Text.natural_ne_nil (den / num))
    simp only
    split
    · have hbelow : den ≤ num * 10 ^ (Text.natural (den / num)).length := by
        have hdigits := Nat.succ_le_of_lt (Text.lt_pow (den / num))
        exact (Nat.lt_mul_div_succ den hnum).le.trans (Nat.mul_le_mul_left num hdigits)
      convert hplaces hbelow using 2
      ring
    · rename_i hshort
      have hexact : (-(1 - (Text.natural (den / num)).length : Int)).toNat =
          (Text.natural (den / num)).length - 1 := by omega
      rw [hexact, not_lt, Nat.pow_eq] at hshort
      convert hplaces hshort using 2
      omega

/-- The search gives digits in the interval if seventeen digits are. -/
theorem contains_shortestFrom {i : Interval} {top : Int} {fuel count : Nat}
    (h : i.contains (neighbours i.value i.den (top - (count + fuel : Nat))).1
      (top - (count + fuel : Nat)) = true) :
    i.contains (shortestFrom i top fuel count).1 (shortestFrom i top fuel count).2 = true := by
  induction fuel generalizing count with
  | zero => exact h
  | succ fuel ih =>
    rw [shortestFrom]
    split
    rename_i near far hneighbours
    split
    · assumption
    · split
      · assumption
      · refine ih ?_
        rwa [Nat.add_right_comm]

end Search

namespace Binary

variable {b : Binary}

/-- Half a step of seventeen digits is less than the way to either end of the interval. -/
theorem Normal.roundsTo_of_near (hb : b.Normal) {q step : ℚ}
    (hstep : step * 10 ^ 16 ≤ b.significand * 2 ^ b.exponent)
    (hnear : |q - b.significand * 2 ^ b.exponent| ≤ step / 2) :
    RoundsTo b.significand b.exponent q := by
  have hunit : (0 : ℚ) < 2 ^ b.exponent := by positivity
  obtain ⟨hlow, hhigh⟩ := abs_le.1 hnear
  have hshort : (b.significand : ℚ) * 2 ^ b.exponent < 2 ^ 53 * 2 ^ b.exponent :=
    mul_lt_mul_of_pos_right (by exact_mod_cast hb.short) hunit
  refine roundsTo_of_lt ⟨?_, by linarith⟩
  rw [reachBelow]
  split
  · rename_i hfirst
    have hcast : (b.significand : ℚ) = 2 ^ 52 := by exact_mod_cast hfirst.1
    rw [hcast] at hstep hlow ⊢
    linarith
  · linarith

/-- The digits of a double round to it. -/
theorem Normal.roundsTo_shortest (hb : b.Normal) (hpos : 0 < b.significand) :
    RoundsTo b.significand b.exponent ((shortest b.significand b.exponent).1 *
      10 ^ (shortest b.significand b.exponent).2) := by
  obtain ⟨below, scale, den, haround, -, -, hden, hscale⟩ := exists_scale b.significand b.exponent
  have hscalePos : 0 < scale := by
    refine Nat.pos_of_ne_zero fun hzero => ?_
    rw [hzero, Nat.cast_zero, mul_zero] at hscale
    have hproduct : (0 : ℚ) < 2 ^ b.exponent * den :=
      mul_pos (by positivity) (by exact_mod_cast hden)
    exact hproduct.ne hscale
  have hvalue : ((4 * b.significand * scale : Nat) : ℚ) / den = b.significand * 2 ^ b.exponent := by
    rw [div_eq_iff (by exact_mod_cast hden.ne')]
    push_cast
    linear_combination (b.significand : ℚ) * hscale
  have hnum : 0 < 4 * b.significand * scale :=
    Nat.mul_pos (Nat.mul_pos (by decide) hpos) hscalePos
  rw [← contains_around_iff hpos]
  refine contains_shortestFrom ((contains_around_iff hpos _ _).2 ?_)
  rw [haround]
  refine hb.roundsTo_of_near ?_ (hvalue ▸ abs_neighbours_sub_le _ hden _)
  rw [← hvalue, ← zpow_natCast (10 : ℚ) 16, ← zpow_add₀ (by norm_num)]
  convert decimalExponent_le hnum hden using 2
  push_cast
  ring

end Binary


end IssueGateway.Number
