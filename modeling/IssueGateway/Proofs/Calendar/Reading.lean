import IssueGateway.Calendar.Reading
import IssueGateway.Proofs.Number.Numeral
import IssueGateway.Proofs.Text.Trim

/-!
# What comes before reading a timestamp

A text is trimmed, its `Z` spelled out and its fraction brought to six digits. The parts in which
there is no `Z` and no point stay as they are (`spellOutUtc_append`, `normalizeFractions_append`), and
a fraction keeps its first six digits, with zeros behind them if there are fewer
(`normalizeFractions_point`).
-/

namespace IssueGateway.Calendar

open Text Number

theorem isBlank_of_isDigit {c : Char} (h : c.isDigit = true) : isBlank c = false :=
  of_isDigit (fun c => isBlank c = false) (by decide) h

/-- The value of an ASCII digit. -/
def digitOf (c : Char) : Nat :=
  c.toNat - '0'.toNat

theorem digitOf_lt {c : Char} (h : c.isDigit = true) : digitOf c < 10 :=
  of_isDigit (fun c => digitOf c < 10) (by decide) h

theorem digitValue?_of_isDigit {c : Char} (h : c.isDigit = true) :
    digitValue? c = some (digitOf c) :=
  of_isDigit (fun c => digitValue? c = some (digitOf c)) (by decide) h

theorem asciiDigit?_of_isDigit {c : Char} (h : c.isDigit = true) :
    asciiDigit? c = some (digitOf c) :=
  of_isDigit (fun c => asciiDigit? c = some (digitOf c)) (by decide) h

theorem byteDigit?_of_isDigit {c : Char} (h : c.isDigit = true) :
    byteDigit? (ascii c) = some (digitOf c) :=
  of_isDigit (fun c => byteDigit? (ascii c) = some (digitOf c)) (by decide) h

theorem isDecimalDigit_of_isDigit {c : Char} (h : c.isDigit = true) : isDecimalDigit c = true := by
  rw [isDecimalDigit, digitValue?_of_isDigit h]
  rfl

/-- A character of ASCII is one byte. -/
theorem textBytes_cons {c : Char} (h : c.toNat < 128) (cs : List Char) :
    textBytes (c :: cs) = ascii c :: textBytes cs := by
  have hsize : c.utf8Size = 1 := Char.utf8Size_eq_one_iff.2 (Nat.le_of_lt_succ h)
  rw [textBytes, List.flatMap_cons, String.utf8EncodeChar_eq_singleton hsize]
  rfl

theorem lt_of_isDigit {c : Char} (h : c.isDigit = true) : c.toNat < 128 :=
  of_isDigit (fun c => c.toNat < 128) (by decide) h

theorem spellOutUtc_of_not_mem {cs : List Char} (h : 'Z' ∉ cs) : spellOutUtc cs = cs := by
  induction cs with
  | nil => rfl
  | cons c rest ih =>
    rw [List.mem_cons, not_or] at h
    rw [spellOutUtc, List.flatMap_cons, if_neg (Ne.symm h.1)]
    exact congrArg (c :: ·) (ih h.2)

theorem spellOutUtc_append {front : List Char} (h : 'Z' ∉ front) (rest : List Char) :
    spellOutUtc (front ++ rest) = front ++ spellOutUtc rest := by
  rw [spellOutUtc, List.flatMap_append]
  exact congrArg (· ++ spellOutUtc rest) (spellOutUtc_of_not_mem h)

theorem afterChar_of_ne {c : Char} (h : '.' ≠ c) (rest : List Char) :
    normalizeFractions.afterChar c rest = none :=
  if_neg fun hpoint => h hpoint.1.symm

theorem normalizeFractions_append {front : List Char} (h : '.' ∉ front) (rest : List Char) :
    normalizeFractions none (front ++ rest) = front ++ normalizeFractions none rest := by
  induction front with
  | nil => rfl
  | cons c front ih =>
    rw [List.mem_cons, not_or] at h
    rw [List.cons_append, normalizeFractions, afterChar_of_ne h.1, ih h.2]
    rfl

theorem normalizeFractions_of_not_mem {cs : List Char} (h : '.' ∉ cs) :
    normalizeFractions none cs = cs := by
  have happend := normalizeFractions_append h []
  rw [List.append_nil] at happend
  exact happend.trans (List.append_nil cs)

/-- A text that does not go on with a digit. -/
def EndsDigits (rest : List Char) : Prop :=
  ∀ c ∈ rest.head?, digitValue? c = none

theorem endsDigits_nil : EndsDigits [] := nofun

theorem endsDigits_cons {c : Char} (h : digitValue? c = none) (rest : List Char) :
    EndsDigits (c :: rest) := fun _ hc => Option.some.inj hc ▸ h

/-- The digits of a fraction to which `n` digits are still to come. -/
theorem normalizeFractions_digits {digits rest : List Char} (hdigits : AllDigits digits)
    (hrest : EndsDigits rest) (hpoint : '.' ∉ rest) (n : Nat) :
    normalizeFractions (some n) (digits ++ rest) = (digits.take n).rightpad n '0' ++ rest := by
  -- along the digits: the number of those to come falls to zero and stays there
  induction digits generalizing n with
  | nil =>
    cases rest with
    | nil => simp [normalizeFractions, List.rightpad]
    | cons c rest =>
      rw [List.mem_cons, not_or] at hpoint
      have hc : isDecimalDigit c = false := by
        rw [isDecimalDigit, hrest c rfl]
        rfl
      rw [List.nil_append, normalizeFractions, hc, if_neg Bool.false_ne_true,
        afterChar_of_ne hpoint.1, normalizeFractions_of_not_mem hpoint.2]
      simp [List.rightpad]
  | cons c digits ih =>
    have hc := isDecimalDigit_of_isDigit (hdigits c List.mem_cons_self)
    have ih := ih fun d hd => hdigits d (List.mem_cons_of_mem c hd)
    rw [List.cons_append, normalizeFractions, if_pos hc]
    cases n with
    | zero =>
      rw [if_pos rfl, ih]
      simp [List.rightpad]
    | succ n =>
      rw [if_neg n.succ_ne_zero, Nat.add_sub_cancel, ih]
      simp [List.rightpad]

/-- A fraction keeps its first six digits and is filled up with zeros. -/
theorem normalizeFractions_point {digits rest : List Char} (hdigits : AllDigits digits)
    (hne : digits ≠ []) (hrest : EndsDigits rest) (hpoint : '.' ∉ rest) :
    normalizeFractions none ('.' :: (digits ++ rest)) =
      '.' :: ((digits.take 6).rightpad 6 '0' ++ rest) := by
  have hstart : normalizeFractions.afterChar '.' (digits ++ rest) = some 6 := by
    cases digits with
    | nil => exact absurd rfl hne
    | cons c digits =>
      exact if_pos ⟨rfl, isDecimalDigit_of_isDigit (hdigits c List.mem_cons_self)⟩
  rw [normalizeFractions, hstart, normalizeFractions_digits hdigits hrest hpoint]

/-- What a text between blanks is read as. -/
theorem Timestamp.ofText?_between {before cs after : List Char}
    (hbefore : ∀ c ∈ before, isBlank c = true) (hafter : ∀ c ∈ after, isBlank c = true)
    (hcs : cs ≠ []) (hfirst : ∀ c ∈ cs.head?, isBlank c = false)
    (hlast : ∀ c ∈ cs.getLast?, isBlank c = false) :
    Timestamp.ofText? (String.ofList (before ++ (cs ++ after))) =
      (Timestamp.ofIso? (normalizeFractions none (spellOutUtc cs))).or
        (Timestamp.ofSlash? (normalizeFractions none (spellOutUtc cs))) := by
  rw [ofText?, String.toList_ofList, trimBy_append_left hbefore,
    trimBy_append hfirst hlast hcs hafter]

end IssueGateway.Calendar
