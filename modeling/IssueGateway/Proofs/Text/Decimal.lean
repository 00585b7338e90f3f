import IssueGateway.Proofs.Text.Padding
import Mathlib.Algebra.Group.Nat.Defs
import Mathlib.Data.Char
import Mathlib.Data.List.Lex

/-!
# The order of numerals

Texts are ordered by their first different character, numbers by their size. The two orders agree on
numerals of one length, and such numerals also settle the order of longer texts that they begin.
Zeros in front bring numerals to one length, so padded numerals are ordered like their numbers
(`padded_lt_iff`). The numeral of an integer has digits and perhaps a sign, and no other integer has
the same (`integer_injective`).
-/

namespace IssueGateway.Text

/-- Beginnings of one length settle the order, unless they are the same. -/
theorem append_lt_append_iff {s t : List Char} (h : s.length = t.length) (u v : List Char) :
    s ++ u < t ++ v ↔ s < t ∨ s = t ∧ u < v := by
  induction s generalizing t with
  | nil =>
    obtain rfl := List.eq_nil_of_length_eq_zero h.symm
    simp
  | cons c s ih =>
    cases t with
    | nil => cases h
    | cons d t =>
      rw [List.cons_append, List.cons_append, List.cons_lt_cons_iff, List.cons_lt_cons_iff,
        ih (Nat.succ.inj h), List.cons.injEq]
      tauto

theorem digitChar_lt_iff {m n : Nat} (hm : m < 10) (hn : n < 10) :
    m.digitChar < n.digitChar ↔ m < n := by
  rw [Char.lt_def, UInt32.lt_iff_toNat_lt]
  change m.digitChar.toNat < n.digitChar.toNat ↔ m < n
  rw [Nat.toNat_digitChar_of_lt_ten hm, Nat.toNat_digitChar_of_lt_ten hn]
  omega

/-- What holds of the ten digits holds of a character that is a digit. -/
theorem of_isDigit (P : Char → Prop) (h : ∀ n ≤ '9'.toNat, '0'.toNat ≤ n → P (Char.ofNat n))
    {c : Char} (hc : c.isDigit = true) : P c := by
  rw [Char.isDigit_iff_toNat] at hc
  have hdigit := h c.toNat hc.2 hc.1
  rwa [Char.ofNat_toNat] at hdigit

theorem isDigit_of_mem_natural {n : Nat} {c : Char} (hc : c ∈ natural n) : c.isDigit = true :=
  Nat.isDigit_of_mem_toDigits (by decide) (by decide) hc

theorem natural_ne_nil (n : Nat) : natural n ≠ [] :=
  List.ne_nil_of_length_pos Nat.length_toDigits_pos

theorem natural_injective : Function.Injective natural := fun m n h => by
  rw [← Nat.ofDigitChars_toDigits (b := 10) (n := m) (by decide) le_rfl,
    ← Nat.ofDigitChars_toDigits (b := 10) (n := n) (by decide) le_rfl]
  exact congrArg (Nat.ofDigitChars 10 · 0) h

/-- The characters of the numerals of integers. -/
def isNumeralChar (c : Char) : Bool :=
  c.isDigit || c == '-'

theorem isNumeralChar_of_mem_integer {n : Int} {c : Char} (hc : c ∈ integer n) :
    isNumeralChar c = true := by
  have hnatural {m : Nat} (hm : c ∈ natural m) : isNumeralChar c = true := by
    rw [isNumeralChar, isDigit_of_mem_natural hm, Bool.true_or]
  rw [integer] at hc
  split at hc
  · rcases List.mem_cons.1 hc with rfl | hdigit
    · rfl
    · exact hnatural hdigit
  · exact hnatural hc

theorem integer_ne_nil (n : Int) : integer n ≠ [] := by
  rw [integer]
  split
  · exact List.cons_ne_nil _ _
  · exact natural_ne_nil _

theorem minus_not_mem_natural (n : Nat) : '-' ∉ natural n := fun h =>
  absurd (isDigit_of_mem_natural h) (by decide)

theorem integer_injective : Function.Injective integer := by
  intro m n h
  rw [integer, integer] at h
  split at h <;> split at h
  · have habs := natural_injective (List.cons.inj h).2
    omega
  · exact absurd (h ▸ List.mem_cons_self) (minus_not_mem_natural _)
  · exact absurd (h.symm ▸ List.mem_cons_self) (minus_not_mem_natural _)
  · have habs := natural_injective h
    omega

theorem natural_of_lt_ten {n : Nat} (h : n < 10) : natural n = [n.digitChar] :=
  Nat.toDigits_of_lt_base h

theorem natural_of_ten_le {n : Nat} (h : 10 ≤ n) :
    natural n = natural (n / 10) ++ [(n % 10).digitChar] :=
  Nat.toDigits_of_base_le (by decide) h

/-- The number of digits, as far as powers of ten tell. -/
theorem length_natural {n k : Nat} (hle : 10 ^ k ≤ n) (hlt : n < 10 ^ (k + 1)) :
    (natural n).length = k + 1 := by
  refine le_antisymm ((Nat.length_toDigits_le_iff (by decide) k.succ_pos).2 hlt) ?_
  cases k with
  | zero => exact Nat.length_toDigits_pos
  | succ k =>
    by_contra hshort
    have hsmall := (Nat.length_toDigits_le_iff (b := 10) (n := n) (by decide) k.succ_pos).1
      (Nat.le_of_lt_succ (Nat.lt_of_not_le hshort))
    exact absurd hle (Nat.not_le_of_lt hsmall)

theorem lt_pow (n : Nat) : n < 10 ^ (natural n).length :=
  (Nat.length_toDigits_le_iff (by decide) (List.length_pos_of_ne_nil (natural_ne_nil n))).1 le_rfl

/-- The first digit of a positive number is not zero. -/
theorem pow_le_of_pos {n : Nat} (h : 0 < n) : 10 ^ ((natural n).length - 1) ≤ n := by
  by_cases hone : (natural n).length ≤ 1
  · rwa [Nat.sub_eq_zero_of_le hone]
  · by_contra hlt
    have hshort := (Nat.length_toDigits_le_iff (b := 10) (n := n) (by decide)
      (Nat.sub_pos_of_lt (not_le.1 hone))).2 (not_le.1 hlt)
    change (natural n).length ≤ _ at hshort
    omega

theorem length_natural_le_one_iff {n : Nat} : (natural n).length ≤ 1 ↔ n < 10 :=
  Nat.length_toDigits_le_iff (by decide) (by decide)

/-- Numerals of one length are ordered like their numbers. -/
theorem natural_lt_iff {m n : Nat} (h : (natural m).length = (natural n).length) :
    natural m < natural n ↔ m < n := by
  induction m using Nat.strongRecOn generalizing n with
  | ind m ih =>
    have hsame : m < 10 ↔ n < 10 := by
      rw [← length_natural_le_one_iff, h, length_natural_le_one_iff]
    by_cases hm : m < 10
    · have hn := hsame.1 hm
      rw [natural_of_lt_ten hm, natural_of_lt_ten hn, List.cons_lt_cons_iff, digitChar_lt_iff hm hn]
      simp
    · have hn := mt hsame.2 hm
      rw [not_lt] at hm hn
      rw [natural_of_ten_le hm, natural_of_ten_le hn, List.length_append, List.length_append] at h
      have hlength := Nat.add_right_cancel h
      -- the last digit decides where the numbers of tens are equal
      rw [natural_of_ten_le hm, natural_of_ten_le hn, append_lt_append_iff hlength,
        ih (m / 10) (by omega) hlength, natural_injective.eq_iff, List.cons_lt_cons_iff,
        digitChar_lt_iff (Nat.mod_lt _ (by decide)) (Nat.mod_lt _ (by decide))]
      simp only [List.not_lt_nil, and_false, or_false]
      omega

theorem padded_of_lt_ten {n : Nat} (h : n < 10) (width : Nat) :
    padded width n = List.replicate (width - 1) '0' ++ [n.digitChar] :=
  paddedDigits_of_lt h width

theorem padded_succ {width : Nat} (hwidth : 1 ≤ width) (n : Nat) :
    padded (width + 1) n = padded width (n / 10) ++ [(n % 10).digitChar] :=
  paddedDigits_succ (by decide) hwidth n

theorem length_padded {width n : Nat} (hwidth : 1 ≤ width) (h : n < 10 ^ width) :
    (padded width n).length = width :=
  length_paddedDigits (by decide) hwidth h

/-- Numerals that are padded to one width are ordered like their numbers. -/
theorem padded_lt_iff {width m n : Nat} (hwidth : 1 ≤ width) (hm : m < 10 ^ width)
    (hn : n < 10 ^ width) : padded width m < padded width n ↔ m < n := by
  induction width, hwidth using Nat.le_induction generalizing m n with
  | base =>
    rw [padded_of_lt_ten hm, padded_of_lt_ten hn]
    change [m.digitChar] < [n.digitChar] ↔ m < n
    rw [List.cons_lt_cons_iff, digitChar_lt_iff hm hn]
    simp
  | succ width hwidth ih =>
    rw [pow_succ] at hm hn
    have hm' : m / 10 < 10 ^ width := Nat.div_lt_of_lt_mul (by rwa [mul_comm])
    have hn' : n / 10 < 10 ^ width := Nat.div_lt_of_lt_mul (by rwa [mul_comm])
    have hlength := (length_padded hwidth hm').trans (length_padded hwidth hn').symm
    have heq : padded width (m / 10) = padded width (n / 10) ↔ m / 10 = n / 10 := by
      rw [le_antisymm_iff, ← not_lt, ← not_lt, ih hm' hn', ih hn' hm']
      omega
    rw [padded_succ hwidth, padded_succ hwidth, append_lt_append_iff hlength, ih hm' hn', heq,
      List.cons_lt_cons_iff, digitChar_lt_iff (Nat.mod_lt _ (by decide)) (Nat.mod_lt _ (by decide))]
    simp only [List.not_lt_nil, and_false, or_false]
    omega

end IssueGateway.Text
