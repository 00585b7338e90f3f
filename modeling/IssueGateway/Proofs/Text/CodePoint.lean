import IssueGateway.Text.CodePoint
import Mathlib.Data.List.Basic

/-!
# Texts are held one to one

The code points of a text come back from the characters that hold it, surrogates among them
(`points_held`), so texts that differ are held as strings that differ (`held_injective`). A text
without the mark of a pair is held as it stands, and stands for itself.
-/

namespace IssueGateway.Text

theorem isSurrogate_toNat (c : Char) : isSurrogate c.toNat = false := by
  have hvalid : c.toNat.isValidChar := c.valid
  rw [isSurrogate, Bool.and_eq_false_iff]
  rcases hvalid with hlow | ⟨hhigh, -⟩
  · exact Or.inl (decide_eq_false (Nat.not_le.2 hlow))
  · exact Or.inr (decide_eq_false (Nat.not_lt.2 hhigh))

theorem toNat_ofNat_of_not_surrogate {n : Nat} (hn : n < 0x110000) (h : isSurrogate n = false) :
    (Char.ofNat n).toNat = n := by
  have hvalid : n.isValidChar := by
    simp only [isSurrogate, Bool.and_eq_false_iff, decide_eq_false_iff_not] at h
    rcases h with hlow | hhigh
    · exact Or.inl (Nat.not_le.1 hlow)
    · exact Or.inr ⟨Nat.not_lt.1 hhigh, hn⟩
  rw [Char.ofNat, dif_pos hvalid]
  rfl

theorem told?_pairMark : told? pairMark = some 0x10FFFF := by
  decide

theorem told?_surrogate {n : Nat} (h : isSurrogate n = true) :
    told? (Char.ofNat (firstTold + (n - 0xD800))) = some n := by
  simp only [isSurrogate, Bool.and_eq_true, decide_eq_true_eq] at h
  have hnat : (Char.ofNat (firstTold + (n - 0xD800))).toNat = firstTold + (n - 0xD800) := by
    apply toNat_ofNat_of_not_surrogate
    · rw [firstTold]
      omega
    · rw [isSurrogate, firstTold, Bool.and_eq_false_iff]
      exact Or.inr (decide_eq_false (by omega))
  have hother : Char.ofNat (firstTold + (n - 0xD800)) ≠ pairMark := by
    intro heq
    have hmark : firstTold + (n - 0xD800) = 0x10FFFF := hnat.symm.trans (congrArg Char.toNat heq)
    rw [firstTold] at hmark
    omega
  rw [told?, if_neg hother, hnat, if_pos (by omega), Option.some.injEq]
  omega

theorem points_pair {c : Char} {n : Nat} (h : told? c = some n) (rest : List Char) :
    points (pairMark :: c :: rest) = n :: points rest := by
  rw [points, if_pos rfl, h]

theorem points_cons {c : Char} (h : c ≠ pairMark) (rest : List Char) :
    points (c :: rest) = c.toNat :: points rest := by
  cases rest with
  | nil => rfl
  | cons d rest => rw [points, if_neg h]

theorem points_held_append {n : Nat} (hn : n < 0x110000) (rest : List Char) :
    points (held n ++ rest) = n :: points rest := by
  rw [held]
  split
  · rename_i hsurrogate
    exact points_pair (told?_surrogate hsurrogate) rest
  · rename_i hplain
    split
    · rename_i hmark
      rw [hmark]
      exact points_pair told?_pairMark rest
    · rename_i hother
      have hnat : (Char.ofNat n).toNat = n :=
        toNat_ofNat_of_not_surrogate hn (Bool.eq_false_iff.2 hplain)
      have hne : Char.ofNat n ≠ pairMark := by
        intro heq
        rw [heq] at hnat
        exact hother hnat.symm
      rw [List.singleton_append, points_cons hne, hnat]

/-- The code points of a text come back from what holds it. -/
theorem points_held {ns : List Nat} (h : ∀ n ∈ ns, n < 0x110000) : points (ns.flatMap held) = ns := by
  induction ns with
  | nil => rfl
  | cons n ns ih =>
    obtain ⟨hn, hrest⟩ := List.forall_mem_cons.1 h
    rw [List.flatMap_cons, points_held_append hn, ih hrest]

/-- Texts that differ are held as strings that differ. -/
theorem held_injective {ns others : List Nat} (h : ∀ n ∈ ns, n < 0x110000)
    (hothers : ∀ n ∈ others, n < 0x110000)
    (heq : String.ofList (ns.flatMap held) = String.ofList (others.flatMap held)) : ns = others := by
  have hchars : ns.flatMap held = others.flatMap held := String.ofList_injective heq
  rw [← points_held h, ← points_held hothers, hchars]

section Unmarked

variable {cs : List Char} (h : pairMark ∉ cs)

include h

theorem points_of_not_mem : points cs = cs.map Char.toNat := by
  induction cs with
  | nil => rfl
  | cons c cs ih =>
    rw [List.mem_cons, not_or] at h
    rw [points_cons (Ne.symm h.1), ih h.2, List.map_cons]

/-- A text without the mark of a pair stands for itself. -/
theorem plain_of_not_mem : plain cs = cs := by
  rw [plain, points_of_not_mem h, List.map_map, List.map_id'' fun c => ?_]
  simp only [Function.comp_apply, isSurrogate_toNat, Bool.false_eq_true, if_false, Char.ofNat_toNat]

/-- A text without the mark of a pair is held as it stands. -/
theorem hold_of_not_mem : hold cs = cs := by
  induction cs with
  | nil => rfl
  | cons c cs ih =>
    rw [List.mem_cons, not_or] at h
    have hc : held c.toNat = [c] := by
      rw [held, isSurrogate_toNat, if_neg Bool.false_ne_true, if_neg, Char.ofNat_toNat]
      exact fun hmark => h.1 (Char.toNat_inj.1 hmark).symm
    rw [hold, List.flatMap_cons, hc]
    exact congrArg (c :: ·) (ih h.2)

end Unmarked

end IssueGateway.Text
