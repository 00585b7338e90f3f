import IssueGateway.Text.Blank
import Mathlib.Data.List.Basic
import Mathlib.Data.List.TakeWhile

/-!
# Trimming

A text that begins and ends with characters of its own is what is left of it after trimming, also
if there were blanks before or behind it; and every text is trimmed to one of this kind
(`trimBy_eq_iff`). Likewise a beginning of one class of characters ends where the class does
(`append_eq_append_iff_of_front`).
-/

namespace IssueGateway.Text

variable {drop : Char → Bool} {cs : List Char}

theorem dropWhile_eq_self_of_head (h : ∀ c ∈ cs.head?, drop c = false) : cs.dropWhile drop = cs := by
  cases cs with
  | nil => rfl
  | cons c rest => rw [List.dropWhile_cons_of_neg (Bool.eq_false_iff.1 (h c rfl))]

section Front

variable {front rest front' rest' : List Char}

/-- What a class of characters makes up of a text that goes on with another character. -/
theorem span_front (hfront : ∀ c ∈ front, drop c = true) (hrest : ∀ c ∈ rest.head?, drop c = false) :
    (front ++ rest).takeWhile drop = front ∧ (front ++ rest).dropWhile drop = rest := by
  rw [List.takeWhile_append_of_pos hfront, List.dropWhile_append_of_pos hfront,
    dropWhile_eq_self_of_head hrest]
  cases rest with
  | nil => exact ⟨List.append_nil front, rfl⟩
  | cons c rest =>
    have hc := hrest c rfl
    rw [List.takeWhile_cons_of_neg (by simp [hc])]
    exact ⟨List.append_nil front, rfl⟩

theorem append_eq_append_iff_of_front (hfront : ∀ c ∈ front, drop c = true)
    (hrest : ∀ c ∈ rest.head?, drop c = false) (hfront' : ∀ c ∈ front', drop c = true)
    (hrest' : ∀ c ∈ rest'.head?, drop c = false) :
    front ++ rest = front' ++ rest' ↔ front = front' ∧ rest = rest' := by
  constructor
  · intro h
    obtain ⟨htake, hdrop⟩ := span_front hfront hrest
    obtain ⟨htake', hdrop'⟩ := span_front hfront' hrest'
    rw [← h] at htake' hdrop'
    exact ⟨htake.symm.trans htake', hdrop.symm.trans hdrop'⟩
  · rintro ⟨rfl, rfl⟩
    rfl

end Front

theorem trimBy_append_left {blanks : List Char} (hblanks : ∀ c ∈ blanks, drop c = true) :
    trimBy drop (blanks ++ cs) = trimBy drop cs := by
  rw [trimBy, trimBy, List.dropWhile_append_of_pos hblanks]

theorem trimBy_append (hfirst : ∀ c ∈ cs.head?, drop c = false)
    (hlast : ∀ c ∈ cs.getLast?, drop c = false) (hcs : cs ≠ []) {blanks : List Char}
    (hblanks : ∀ c ∈ blanks, drop c = true) : trimBy drop (cs ++ blanks) = cs := by
  have hfront : (cs ++ blanks).dropWhile drop = cs ++ blanks := by
    apply dropWhile_eq_self_of_head
    rwa [List.head?_append_of_ne_nil _ hcs]
  have hback : cs.reverse.dropWhile drop = cs.reverse := by
    apply dropWhile_eq_self_of_head
    rwa [List.head?_reverse]
  have hblanks' : ∀ c ∈ blanks.reverse, drop c = true := by simpa using hblanks
  rw [trimBy, hfront, List.reverse_append, List.dropWhile_append_of_pos hblanks', hback,
    List.reverse_reverse]

/-- Whether neither end of a text is of a class of characters. -/
def IsTrimmed (drop : Char → Bool) (cs : List Char) : Prop :=
  (∀ c ∈ cs.head?, drop c = false) ∧ ∀ c ∈ cs.getLast?, drop c = false

/-- Whether a text is another with characters of a class around it, none of them at its own ends. -/
def TrimsTo (drop : Char → Bool) (cs core : List Char) : Prop :=
  ∃ before after, cs = before ++ core ++ after ∧ (∀ c ∈ before, drop c = true) ∧
    (∀ c ∈ after, drop c = true) ∧ IsTrimmed drop core

theorem drop_head?_dropWhile (drop : Char → Bool) (cs : List Char) :
    ∀ c ∈ (cs.dropWhile drop).head?, drop c = false := by
  intro c hc
  have hhead := List.head?_dropWhile_not drop cs
  rw [Option.mem_def.1 hc] at hhead
  exact hhead

theorem trimsTo_trimBy (drop : Char → Bool) (cs : List Char) :
    TrimsTo drop cs (trimBy drop cs) := by
  have hback : cs.dropWhile drop = trimBy drop cs ++
      ((cs.dropWhile drop).reverse.takeWhile drop).reverse := by
    rw [trimBy, ← List.reverse_append, List.takeWhile_append_dropWhile, List.reverse_reverse]
  refine ⟨cs.takeWhile drop, ((cs.dropWhile drop).reverse.takeWhile drop).reverse, ?_,
    fun c => List.mem_takeWhile_imp, fun c hc => List.mem_takeWhile_imp (List.mem_reverse.1 hc),
    fun c hc => ?_, fun c hc => ?_⟩
  · rw [List.append_assoc, ← hback, List.takeWhile_append_dropWhile]
  · refine drop_head?_dropWhile drop cs c ?_
    rw [hback, List.head?_append, Option.mem_def.1 hc]
    rfl
  · rw [trimBy, List.getLast?_reverse] at hc
    exact drop_head?_dropWhile drop _ c hc

theorem TrimsTo.trimBy_eq {core : List Char} (h : TrimsTo drop cs core) : trimBy drop cs = core := by
  obtain ⟨before, after, rfl, hbefore, hafter, hfirst, hlast⟩ := h
  rw [List.append_assoc, trimBy_append_left hbefore]
  by_cases hcore : core = []
  · have hafter' : trimBy drop (after ++ []) = trimBy drop [] := trimBy_append_left hafter
    rw [List.append_nil] at hafter'
    rw [hcore, List.nil_append, hafter']
    rfl
  · exact trimBy_append hfirst hlast hcore hafter

/-- Of a text that begins with a character of its own only the end is trimmed off. -/
theorem exists_trimBy_append (hfirst : ∀ c ∈ cs.head?, drop c = false) :
    ∃ after, cs = trimBy drop cs ++ after ∧ (∀ c ∈ after, drop c = true) ∧
      ∀ c ∈ (trimBy drop cs).getLast?, drop c = false := by
  obtain ⟨before, after, hcs, hbefore, hafter, hcore⟩ := trimsTo_trimBy drop cs
  cases before with
  | nil => exact ⟨after, hcs, hafter, hcore.2⟩
  | cons c before =>
    have hc : drop c = false := hfirst c (by rw [hcs]; rfl)
    rw [hbefore c List.mem_cons_self] at hc
    cases hc

theorem TrimsTo.isTrimmed {core : List Char} (h : TrimsTo drop cs core) : IsTrimmed drop core := by
  obtain ⟨-, -, -, -, -, hcore⟩ := h
  exact hcore

theorem trimBy_eq_iff {core : List Char} : trimBy drop cs = core ↔ TrimsTo drop cs core :=
  ⟨fun h => h ▸ trimsTo_trimBy drop cs, TrimsTo.trimBy_eq⟩

theorem trimBy_eq_nil_iff : trimBy drop cs = [] ↔ ∀ c ∈ cs, drop c = true := by
  rw [trimBy_eq_iff]
  constructor
  · rintro ⟨before, after, rfl, hbefore, hafter, -⟩
    rw [List.append_nil]
    exact List.forall_mem_append.2 ⟨hbefore, hafter⟩
  · intro h
    exact ⟨cs, [], by simp, h, by simp, by simp [IsTrimmed]⟩

end IssueGateway.Text
