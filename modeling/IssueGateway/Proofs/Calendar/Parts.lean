import IssueGateway.Proofs.Calendar.Order
import IssueGateway.Proofs.Calendar.Position

/-!
# The parts of the standard form

A date, a clock and a zone are read from the positions where they stand: a date as itself
(`Date.readDate?_of_stands`), a clock with its fields and its fraction (`readClock?_of_time`), the
hours and minutes behind a sign as an offset (`Zone.offset?_of_clock`). A fraction counts with six
digits (`microseconds`), and what is cut off never rounds it up (`microseconds_eq_div`).
-/

namespace IssueGateway.Calendar

open Text Number

variable {s : List UInt8} {i : Nat}

theorem isCharAt_of_getElem? {c : Char} (h : s[i]? = some (ascii c)) : isCharAt s i c = true :=
  beq_iff_eq.2 h

/-- A digit is no mark. -/
theorem isCharAt_of_digits {digits : List Char} (h : Stands s i digits)
    (hdigits : AllDigits digits) (hne : digits ≠ []) : isCharAt s i 'W' = false := by
  cases digits with
  | nil => exact absurd rfl hne
  | cons c digits =>
    rw [isCharAt, (stands_cons.1 h).1]
    exact of_isDigit (fun c => (some (ascii c) == some (ascii 'W')) = false) (by decide)
      (hdigits c List.mem_cons_self)

/-! ## The date -/

theorem padded_ne_nil (width n : Nat) : padded width n ≠ [] :=
  List.append_ne_nil_of_right_ne_nil _ (natural_ne_nil n)

namespace Date

theorem year_lt (d : Date) : d.year < 10 ^ 4 :=
  Nat.lt_succ_of_le d.isDate.1.2

theorem month_lt (d : Date) : d.month < 10 ^ 2 :=
  (Nat.lt_succ_of_le d.isDate.2.1.2).trans (by decide)

theorem day_lt (d : Date) : d.day < 10 ^ 2 :=
  (Nat.lt_succ_of_le (d.isDate.2.2.2.trans (daysInMonth_le _ _))).trans (by decide)

theorem length_isoChars (d : Date) : d.isoChars.length = 10 := by
  rw [isoChars, List.length_append, List.length_append, List.length_cons, List.length_cons,
    length_padded (by decide) d.year_lt, length_padded (by decide) d.month_lt,
    length_padded (by decide) d.day_lt]

/-- A date is told by the digits between its dashes. -/
theorem isoChars_eq_iff {d e : Date} : d.isoChars = e.isoChars ↔
    d.year = e.year ∧ d.month = e.month ∧ d.day = e.day := by
  have hdash (rest : List Char) : ∀ c ∈ ('-' :: rest).head?, c.isDigit = false := by
    rintro c ⟨⟩
    rfl
  rw [isoChars, isoChars, List.append_assoc, List.append_assoc, List.cons_append,
    List.cons_append, append_eq_append_iff_of_front (allDigits_padded 4 d.year) (hdash _)
      (allDigits_padded 4 e.year) (hdash _), List.cons.injEq, and_iff_right rfl,
    append_eq_append_iff_of_front (allDigits_padded 2 d.month) (hdash _)
      (allDigits_padded 2 e.month) (hdash _), List.cons.injEq, and_iff_right rfl,
    (padded_injective 4).eq_iff, (padded_injective 2).eq_iff, (padded_injective 2).eq_iff]

/-- What stands in a date: the year, a dash, the month, a dash and the day. -/
theorem stands_isoChars {d : Date} (h : Stands s 0 d.isoChars) :
    Stands s 0 (padded 4 d.year) ∧ s[4]? = some (ascii '-') ∧ Stands s 5 (padded 2 d.month) ∧
      s[7]? = some (ascii '-') ∧ Stands s 8 (padded 2 d.day) := by
  simpa only [isoChars, stands_append, stands_cons, List.length_append, List.length_cons,
    length_padded (by decide : 1 ≤ 4) d.year_lt, length_padded (by decide : 1 ≤ 2) d.month_lt,
    Nat.zero_add, Nat.reduceAdd, and_assoc] using h

theorem readDate?_of_stands {d : Date} (h : Stands s 0 d.isoChars) : readDate? s 10 = some d := by
  obtain ⟨hyear, hdash, hmonth, hdash', hday⟩ := stands_isoChars h
  have hyear := digitsAt?_of_padded (by decide) d.year_lt hyear
  have hweek := isCharAt_of_digits hmonth (allDigits_padded _ _) (padded_ne_nil _ _)
  have hmonth := digitsAt?_of_padded (by decide) d.month_lt hmonth
  have hday := digitsAt?_of_padded (by decide) d.day_lt hday
  have hof : of? d.year d.month d.day = some d := of?_eq_some_iff.2 ⟨rfl, rfl, rfl⟩
  simp [readDate?, isCharAt_of_getElem? hdash, isCharAt_of_getElem? hdash', hyear, hweek, hmonth,
    hday, hof]

/-- A dash behind four digits, and no numbered week, make a date of ten characters. -/
theorem dateLength?_of_stands {d : Date} (h : Stands s 0 d.isoChars) (hlength : 7 < s.length) :
    dateLength? s = some 10 := by
  obtain ⟨-, hdash, hmonth, -, -⟩ := stands_isoChars h
  have hweek := isCharAt_of_digits hmonth (allDigits_padded _ _) (padded_ne_nil _ _)
  rw [dateLength?, if_neg (by omega), if_neg (by omega), isCharAt_of_getElem? hdash, hweek]
  rfl

end Date

/-! ## Clocks -/

section Fields

variable {stop count value : Nat} {separated : Option Bool} {fields : List Nat}

/-- A field with a colon behind it, where colons separate the fields. -/
theorem readFields?_colon (separated : Option Bool) (hseparated : separated.getD true = true)
    (hvalue : digitsAt? s i 2 = some value) (hcolon : s[i + 2]? = some (ascii ':'))
    (hstop : i + 3 < stop) : readFields? s stop (count + 1) separated i fields =
      readFields? s stop count (some true) (i + 3) (fields ++ [value]) := by
  simp [readFields?, hvalue, hcolon, hseparated, Nat.not_le.2 hstop]

/-- The last field. -/
theorem readFields?_end (hvalue : digitsAt? s i 2 = some value) (hstop : stop ≤ i + 3) :
    readFields? s stop (count + 1) separated i fields =
      some ⟨fields ++ [value], 0, (s[i + 2]?).isSome⟩ := by
  simp [readFields?, hvalue, hstop]

/-- A field with a fraction behind it. -/
theorem readFields?_point (hvalue : digitsAt? s i 2 = some value)
    (hpoint : s[i + 2]? = some (ascii '.')) (hstop : i + 3 < stop) :
    readFields? s stop (count + 1) (some true) i fields =
      readFraction? s (i + 3) stop (fields ++ [value]) := by
  have hne : ascii '.' ≠ ascii ':' := by decide
  simp [readFields?, hvalue, hpoint, hne, Nat.not_le.2 hstop]

end Fields

/-- A point and digits, or nothing if there are none. -/
def pointed (digits : List Char) : List Char :=
  if digits.isEmpty then [] else '.' :: digits

/-- The microseconds of a fraction: its first six digits, filled up with zeros. -/
def microseconds (fraction : List Char) : Nat :=
  digitsValue ((fraction.take 6).rightpad 6 '0')

/-- A fraction as it is read: none, or six digits. -/
structure IsNormalized (fraction : List Char) : Prop where
  allDigits : AllDigits fraction
  length_eq : fraction = [] ∨ fraction.length = 6

theorem IsNormalized.microseconds_eq {fraction : List Char} (h : IsNormalized fraction) :
    microseconds fraction = digitsValue fraction := by
  rcases h.length_eq with rfl | hlength
  · rfl
  · rw [microseconds, List.take_of_length_le hlength.le, List.rightpad, hlength, Nat.sub_self,
      List.replicate_zero, List.append_nil]

/-- A fraction in microseconds is cut off, never rounded up. -/
theorem microseconds_eq_div {fraction : List Char} (h : AllDigits fraction) :
    microseconds fraction = digitsValue fraction * 10 ^ 6 / 10 ^ fraction.length := by
  have hpos (n : Nat) : 0 < 10 ^ n := Nat.pow_pos (by decide)
  rcases Nat.le_total fraction.length 6 with hshort | hlong
  · -- zeros behind the digits move them to their place
    obtain ⟨missing, hmissing⟩ := Nat.exists_eq_add_of_le hshort
    rw [microseconds, List.take_of_length_le hshort, List.rightpad, digitsValue_append_zeros,
      hmissing, Nat.add_sub_cancel_left, Nat.pow_add, ← Nat.mul_assoc, Nat.mul_right_comm,
      Nat.mul_div_cancel _ (hpos _)]
  · -- the digits behind the sixth are less than one of its units
    obtain ⟨rest, hrest⟩ := Nat.exists_eq_add_of_le hlong
    have htake : (fraction.take 6).length = 6 := List.length_take_of_le hlong
    have hdrop : (fraction.drop 6).length = rest := by
      rw [List.length_drop, hrest, Nat.add_sub_cancel_left]
    have hbehind : digitsValue (fraction.drop 6) < 10 ^ rest := by
      rw [← hdrop]
      exact AllDigits.digitsValue_lt fun c hc => h c (List.mem_of_mem_drop hc)
    have hsplit := digitsValue_append (fraction.take 6) (fraction.drop 6)
    rw [List.take_append_drop, hdrop] at hsplit
    rw [microseconds, List.rightpad, htake, Nat.sub_self, List.replicate_zero, List.append_nil,
      hsplit, hrest, Nat.add_comm 6 rest, Nat.pow_add, Nat.mul_div_mul_right _ _ (hpos 6),
      Nat.mul_comm, Nat.mul_add_div (hpos rest), Nat.div_eq_of_lt hbehind, Nat.add_zero]

theorem microseconds_lt {fraction : List Char} (h : AllDigits fraction) :
    microseconds fraction < 1000000 := by
  rw [microseconds_eq_div h, Nat.div_lt_iff_lt_mul (Nat.pow_pos (by decide)), Nat.mul_comm]
  exact Nat.mul_lt_mul_of_pos_left h.digitsValue_lt (by decide)

theorem skipDigits_of_end (h : ∀ b ∈ s[i]?, byteDigit? b = none) : skipDigits s i = i := by
  rw [skipDigits]
  rw [← List.head?_drop] at h
  cases hdrop : s.drop i with
  | nil => rfl
  | cons b rest =>
    rw [hdrop] at h
    rw [List.takeWhile_cons, h b rfl]
    rfl

theorem readFraction?_six {digits : List Char} {fields : List Nat} (h : Stands s i digits)
    (hdigits : AllDigits digits) (hlength : digits.length = 6)
    (hend : ∀ b ∈ s[i + 6]?, byteDigit? b = none) : readFraction? s i (i + 6) fields =
      some ⟨fields, digitsValue digits, decide (i + 6 < s.length)⟩ := by
  have hread := digitsAt?_of_stands h hdigits
  rw [hlength] at hread
  simp [readFraction?, hread, skipDigits_of_end hend]

/-- `HH:MM:SS` with a fraction or without. -/
def clockChars (hour minute second : Nat) (fraction : List Char) : List Char :=
  padded 2 hour ++ ':' :: padded 2 minute ++ ':' :: padded 2 second ++ pointed fraction

section Clock

variable {hour minute second microsecond : Nat} {fraction : List Char}

theorem length_clockChars (h : IsTime hour minute second microsecond) :
    (clockChars hour minute second fraction).length = 8 + (pointed fraction).length := by
  obtain ⟨hhour, hminute, hsecond, -⟩ := h
  simp only [clockChars, List.length_append, List.length_cons,
    length_padded (by decide : 1 ≤ 2) (show hour < 10 ^ 2 by omega),
    length_padded (by decide : 1 ≤ 2) (show minute < 10 ^ 2 by omega),
    length_padded (by decide : 1 ≤ 2) (show second < 10 ^ 2 by omega)]

/-- A time of day that goes on with no digit is read as it stands. -/
theorem readClock?_of_time (h : IsTime hour minute second microsecond)
    (hfraction : IsNormalized fraction) {stop : Nat}
    (hstop : stop = (clockChars hour minute second fraction).length)
    (hstands : Stands s 0 (clockChars hour minute second fraction))
    (hend : ∀ b ∈ s[stop]?, byteDigit? b = none) :
    readClock? s 0 stop =
      some ⟨[hour, minute, second], digitsValue fraction, decide (stop < s.length)⟩ := by
  rw [length_clockChars h] at hstop
  obtain ⟨hhour, hminute, hsecond, -⟩ := h
  have hhour : hour < 10 ^ 2 := by omega
  have hminute : minute < 10 ^ 2 := by omega
  have hsecond : second < 10 ^ 2 := by omega
  simp only [clockChars, stands_append, stands_cons, List.length_append, List.length_cons,
    length_padded (by decide : 1 ≤ 2) hhour, length_padded (by decide : 1 ≤ 2) hminute,
    length_padded (by decide : 1 ≤ 2) hsecond, Nat.zero_add, Nat.reduceAdd, and_assoc] at hstands
  obtain ⟨hhour', hcolon, hminute', hcolon', hsecond', hpointed⟩ := hstands
  have hhour' := digitsAt?_of_padded (by decide) hhour hhour'
  have hminute' := digitsAt?_of_padded (by decide) hminute hminute'
  have hsecond' := digitsAt?_of_padded (by decide) hsecond hsecond'
  rw [readClock?, readFields?_colon none rfl hhour' hcolon (by omega),
    readFields?_colon (some true) rfl hminute' hcolon' (by omega)]
  rcases hfraction.length_eq with rfl | hlength
  · obtain rfl : stop = 8 := hstop
    have hleftover : (s[8]?).isSome = decide (8 < s.length) := by
      rw [Bool.eq_iff_iff, isSome_getElem?, decide_eq_true_eq]
    rw [readFields?_end hsecond' (by decide), hleftover]
    rfl
  · have hpoint : pointed fraction = '.' :: fraction := by
      rw [pointed, if_neg]
      intro hempty
      rw [List.isEmpty_iff.1 hempty] at hlength
      cases hlength
    rw [hpoint, stands_cons] at hpointed
    rw [hpoint, List.length_cons, hlength] at hstop
    obtain rfl : stop = 9 + 6 := hstop
    rw [readFields?_point hsecond' hpointed.1 (by decide),
      readFraction?_six hpointed.2 hfraction.allDigits hlength hend]
    rfl

/-- Hours and minutes at the end of a text. -/
theorem readClock?_of_minutes (hhour : hour < 10 ^ 2) (hminute : minute < 10 ^ 2)
    (hstands : Stands s i (padded 2 hour ++ ':' :: padded 2 minute)) (hlength : s.length = i + 5) :
    readClock? s i s.length = some ⟨[hour, minute], 0, false⟩ := by
  simp only [stands_append, stands_cons, length_padded (by decide : 1 ≤ 2) hhour] at hstands
  obtain ⟨hhour', hcolon, hminute'⟩ := hstands
  have hhour' := digitsAt?_of_padded (by decide) hhour hhour'
  have hminute' := digitsAt?_of_padded (by decide) hminute hminute'
  have hnone : s[i + 3 + 2]? = none := List.getElem?_eq_none (by omega)
  rw [readClock?, readFields?_colon none rfl hhour' hcolon (by omega),
    readFields?_end hminute' (by omega), hnone]
  rfl

end Clock

/-- What stands behind the time: nothing, `Z`, or a sign with hours and minutes. -/
inductive Zone where
  | none
  | utc
  | offset (negative : Bool) (hours minutes : Nat) (isOffset : hours ≤ 23 ∧ minutes ≤ 59)

namespace Zone

def chars : Zone → List Char
  | none => []
  | utc => ['Z']
  | offset negative hours minutes _ =>
    (if negative then '-' else '+') :: (padded 2 hours ++ ':' :: padded 2 minutes)

/-- The offset in microseconds. -/
def offset? : Zone → Option Int
  | none => Option.none
  | utc => some 0
  | offset negative hours minutes _ =>
    some ((if negative then -1 else 1) * ((hours * 60 + minutes) * 60 * 1000000))

/-- Universal time with its offset spelled out. -/
def spelledOut : Zone → Zone
  | utc => offset false 0 0 (by decide)
  | zone => zone

theorem spelledOut_ne_utc (zone : Zone) : zone.spelledOut ≠ utc := by
  cases zone <;> nofun

theorem offset?_spelledOut (zone : Zone) : zone.spelledOut.offset? = zone.offset? := by
  cases zone <;> rfl

section Offset

variable {negative : Bool} {hours minutes : Nat} {h : hours ≤ 23 ∧ minutes ≤ 59}

theorem length_chars_offset : (offset negative hours minutes h).chars.length = 6 := by
  rw [chars, List.length_cons, List.length_append, List.length_cons,
    length_padded (by decide) (show hours < 10 ^ 2 by omega),
    length_padded (by decide) (show minutes < 10 ^ 2 by omega)]

theorem isCharAt_of_stands (hstands : Stands s i (offset negative hours minutes h).chars) :
    isCharAt s i '-' = negative := by
  rw [chars, stands_cons] at hstands
  rw [isCharAt, hstands.1]
  cases negative <;> rfl

theorem readClock?_of_stands (hstands : Stands s i (offset negative hours minutes h).chars)
    (hlength : s.length = i + 6) :
    readClock? s (i + 1) s.length = some ⟨[hours, minutes], 0, false⟩ := by
  rw [chars, stands_cons] at hstands
  exact readClock?_of_minutes (by omega) (by omega) hstands.2 hlength

/-- Hours and minutes make less than a day. -/
theorem offset?_of_clock :
    Clock.offset? ⟨[hours, minutes], 0, false⟩ negative =
      (offset negative hours minutes h).offset? := by
  have hhours : Clock.get ⟨[hours, minutes], 0, false⟩ 0 = hours := rfl
  have hminutes : Clock.get ⟨[hours, minutes], 0, false⟩ 1 = minutes := rfl
  have hseconds : Clock.get ⟨[hours, minutes], 0, false⟩ 2 = 0 := rfl
  rw [Clock.offset?, offset?, hhours, hminutes, hseconds]
  simp only
  split
  · obtain ⟨rfl, rfl⟩ : hours = 0 ∧ minutes = 0 := by omega
    cases negative <;> rfl
  · rw [if_pos (by omega), Option.some.injEq]
    cases negative with
    | true =>
      simp only [if_true]
      omega
    | false =>
      simp only [Bool.false_eq_true, if_false]
      omega

end Offset

end Zone

end IssueGateway.Calendar
