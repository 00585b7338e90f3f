import IssueGateway.Text.Quoted
import Mathlib.Algebra.Group.Nat.Defs
import Mathlib.Data.List.Lex

/-!
# Numerals of one width

A numeral with zeros in front up to a width, in any base. Its last digit stands behind the numeral of
the rest (`paddedDigits_succ`), which tells the digit at each place (`getElem?_paddedDigits`), and
numbers that fit into the width have numerals of their own (`paddedDigits_inj`).
-/

namespace IssueGateway.Text

/-- The digits of a number in a base, with zeros in front up to a width. -/
def paddedDigits (base width n : Nat) : List Char :=
  List.replicate (width - (Nat.toDigits base n).length) '0' ++ Nat.toDigits base n

theorem paddedHex_eq (width n : Nat) : paddedHex width n = paddedDigits 16 width n := rfl

variable {base width m n : Nat}

theorem paddedDigits_of_lt (h : n < base) (width : Nat) :
    paddedDigits base width n = List.replicate (width - 1) '0' ++ [n.digitChar] := by
  rw [paddedDigits, Nat.toDigits_of_lt_base h]
  rfl

/-- The last digit stands behind the padded rest. -/
theorem paddedDigits_succ (hbase : 1 < base) (hwidth : 1 ≤ width) (n : Nat) :
    paddedDigits base (width + 1) n =
      paddedDigits base width (n / base) ++ [(n % base).digitChar] := by
  by_cases hn : n < base
  · have hzeros : List.replicate width '0' = List.replicate (width - 1) '0' ++ ['0'] := by
      rw [← List.replicate_succ', Nat.sub_add_cancel hwidth]
    rw [paddedDigits_of_lt hn, Nat.div_eq_of_lt hn, Nat.mod_eq_of_lt hn,
      paddedDigits_of_lt (Nat.zero_lt_of_lt hbase), Nat.add_sub_cancel, hzeros]
    rfl
  · rw [paddedDigits, paddedDigits, Nat.toDigits_of_base_le hbase (Nat.not_lt.1 hn),
      List.length_append, List.length_singleton, Nat.add_sub_add_right, List.append_assoc]

theorem length_paddedDigits (hbase : 1 < base) (hwidth : 1 ≤ width) (h : n < base ^ width) :
    (paddedDigits base width n).length = width := by
  have hshort := (Nat.length_toDigits_le_iff hbase hwidth).2 h
  rw [paddedDigits, List.length_append, List.length_replicate]
  exact Nat.sub_add_cancel hshort

/-- The digit at a place is that of what is left of the number there. -/
theorem getElem?_paddedDigits (hbase : 1 < base) (h : n < base ^ width) {i : Nat} (hi : i < width) :
    (paddedDigits base width n)[i]? = some (n / base ^ (width - 1 - i) % base).digitChar := by
  have hwidth : 1 ≤ width := Nat.one_le_of_lt hi
  induction width, hwidth using Nat.le_induction generalizing n with
  | base =>
    obtain rfl := Nat.lt_one_iff.1 hi
    rw [pow_one] at h
    rw [paddedDigits_of_lt h, Nat.sub_self, pow_zero, Nat.div_one, Nat.mod_eq_of_lt h]
    rfl
  | succ width hwidth ih =>
    have hfront : n / base < base ^ width := Nat.div_lt_of_lt_mul (by rwa [mul_comm, ← pow_succ])
    have hlength := length_paddedDigits hbase hwidth hfront
    rw [paddedDigits_succ hbase hwidth, Nat.add_sub_cancel]
    rcases Nat.lt_succ_iff_lt_or_eq.1 hi with hlt | rfl
    · have hpower : base ^ (width - i) = base * base ^ (width - 1 - i) := by
        rw [← pow_succ']
        congr 1
        omega
      rw [List.getElem?_append_left (by omega), ih hfront hlt, Nat.div_div_eq_div_mul, hpower]
    · rw [List.getElem?_append_right hlength.le, hlength, Nat.sub_self, pow_zero, Nat.div_one]
      rfl

theorem exists_digit_of_mem (hbase : 1 < base) (hwidth : 1 ≤ width) (h : n < base ^ width) {c : Char}
    (hc : c ∈ paddedDigits base width n) : ∃ d < base, c = d.digitChar := by
  obtain ⟨i, hi⟩ := List.getElem?_of_mem hc
  obtain ⟨hlt, -⟩ := List.getElem?_eq_some_iff.1 hi
  rw [getElem?_paddedDigits hbase h (length_paddedDigits hbase hwidth h ▸ hlt)] at hi
  exact ⟨_, Nat.mod_lt _ (Nat.zero_lt_of_lt hbase), (Option.some.inj hi).symm⟩

theorem digitChar_inj (hm : m < 16) (hn : n < 16) : m.digitChar = n.digitChar ↔ m = n := by
  have hdigits : ∀ m < 16, ∀ n < 16, (m.digitChar = n.digitChar ↔ m = n) := by decide
  exact hdigits m hm n hn

theorem paddedDigits_inj (hbase : 1 < base) (hdigits : base ≤ 16) (hwidth : 1 ≤ width)
    (hm : m < base ^ width) (hn : n < base ^ width) :
    paddedDigits base width m = paddedDigits base width n ↔ m = n := by
  refine ⟨fun h => ?_, fun h => h ▸ rfl⟩
  induction width, hwidth using Nat.le_induction generalizing m n with
  | base =>
    rw [pow_one] at hm hn
    rw [paddedDigits_of_lt hm, paddedDigits_of_lt hn] at h
    exact (digitChar_inj (hm.trans_le hdigits) (hn.trans_le hdigits)).1 (List.singleton_inj.1 h)
  | succ width hwidth ih =>
    have hpos := Nat.zero_lt_of_lt hbase
    rw [paddedDigits_succ hbase hwidth, paddedDigits_succ hbase hwidth] at h
    obtain ⟨hfront, hlast⟩ := List.append_inj' h rfl
    have hrest := ih (Nat.div_lt_of_lt_mul (by rwa [mul_comm, ← pow_succ]))
      (Nat.div_lt_of_lt_mul (by rwa [mul_comm, ← pow_succ])) hfront
    have hdigit := (digitChar_inj ((Nat.mod_lt m hpos).trans_le hdigits)
      ((Nat.mod_lt n hpos).trans_le hdigits)).1 (List.singleton_inj.1 hlast)
    rw [← Nat.div_add_mod m base, ← Nat.div_add_mod n base, hrest, hdigit]

end IssueGateway.Text
