import IssueGateway.Proofs.Calendar.Reading
import Mathlib.Data.List.Basic

/-!
# What stands where in a text

The standard form is read by positions of bytes. A text of ASCII has its characters as its bytes, so
what stands from a position on can be said in characters (`Stands`) and taken apart along the text
(`stands_append`). Digits that stand somewhere are read as their number (`digitsAt?_of_stands`).
-/

namespace IssueGateway.Calendar

open Text Number

/-- These characters of ASCII stand in a text from a position on. -/
def Stands (s : List UInt8) (i : Nat) (cs : List Char) : Prop :=
  cs.map ascii <+: s.drop i

theorem textBytes_eq_map {cs : List Char} (h : ∀ c ∈ cs, c.toNat < 128) :
    textBytes cs = cs.map ascii := by
  induction cs with
  | nil => rfl
  | cons c cs ih =>
    rw [textBytes_cons (h c List.mem_cons_self), ih fun d hd => h d (List.mem_cons_of_mem c hd)]
    rfl

variable {s : List UInt8} {i : Nat}

theorem stands_self (cs : List Char) : Stands (cs.map ascii) 0 cs :=
  List.prefix_rfl

theorem stands_append {cs ds : List Char} :
    Stands s i (cs ++ ds) ↔ Stands s i cs ∧ Stands s (i + cs.length) ds := by
  rw [Stands, Stands, Stands, List.map_append, ← List.drop_drop]
  constructor
  · rintro ⟨rest, hrest⟩
    rw [← hrest, List.append_assoc]
    refine ⟨List.prefix_append _ _, ?_⟩
    rw [List.drop_append_of_le_length (by simp), List.drop_of_length_le (by simp), List.nil_append]
    exact List.prefix_append _ _
  · rintro ⟨⟨rest, hrest⟩, hds⟩
    rw [← hrest, List.drop_append_of_le_length (by simp), List.drop_of_length_le (by simp),
      List.nil_append] at hds
    rw [← hrest]
    exact (List.prefix_append_right_inj _).2 hds

theorem stands_singleton {c : Char} : Stands s i [c] ↔ s[i]? = some (ascii c) := by
  rw [Stands, ← List.head?_drop, List.map_singleton]
  cases s.drop i with
  | nil => simp
  | cons b rest => simp [eq_comm]

theorem stands_cons {c : Char} {cs : List Char} :
    Stands s i (c :: cs) ↔ s[i]? = some (ascii c) ∧ Stands s (i + 1) cs := by
  rw [← stands_singleton, ← List.singleton_append, stands_append, List.length_singleton]

/-- Digits are read as the number that they denote. -/
theorem digitsAt?_of_stands {digits : List Char} (h : Stands s i digits)
    (hdigits : AllDigits digits) : digitsAt? s i digits.length = some (digitsValue digits) := by
  have hvalues : ((List.range digits.length).mapM fun k => s[i + k]?.bind byteDigit?) =
      some (digits.map digitOf) := by
    induction digits generalizing i with
    | nil => rfl
    | cons c digits ih =>
      obtain ⟨hc, hrest⟩ := stands_cons.1 h
      have hbehind := ih hrest fun d hd => hdigits d (List.mem_cons_of_mem c hd)
      rw [List.length_cons, List.range_succ_eq_map, List.mapM_cons, List.mapM_map]
      have hnext : ((fun k => s[i + k]?.bind byteDigit?) ∘ Nat.succ) =
          fun k => s[i + 1 + k]?.bind byteDigit? := by
        funext k
        rw [Function.comp_apply, Nat.succ_eq_add_one, Nat.add_assoc, Nat.add_comm 1 k]
      rw [hnext, hbehind, Nat.add_zero, hc, Option.bind_some,
        byteDigit?_of_isDigit (hdigits c List.mem_cons_self)]
      rfl
  rw [digitsAt?, hvalues, Option.map_some, ofDigits, List.foldl_map]
  rfl

theorem allDigits_padded (width n : Nat) : AllDigits (padded width n) :=
  (AllDigits.zeros _).append (allDigits_natural n)

theorem digitsAt?_of_padded {width n : Nat} (hwidth : 1 ≤ width) (hn : n < 10 ^ width)
    (h : Stands s i (padded width n)) : digitsAt? s i width = some n := by
  have hread := digitsAt?_of_stands h (allDigits_padded width n)
  rwa [length_padded hwidth hn, digitsValue_padded] at hread

end IssueGateway.Calendar
