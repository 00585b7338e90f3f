import IssueGateway.Calendar.Window
import IssueGateway.Proofs.Calendar.Order

/-!
# Going back by days

A day count of a year that falls into the year or the year before has a date, the one with that
number (`exists_ofDayOfYear`). So a date has an earlier one whenever the calendar reaches back that
far, and their numbers are as far apart as they should be (`exists_daysEarlier`).
-/

namespace IssueGateway.Calendar.Date

/-- What is left of a day count after whole months, unless the months ran out. -/
theorem monthAndDay_spec (year following : Nat) {month n : Nat} (hmonth : 1 ≤ month) (hn : 1 ≤ n) :
    ∃ m k, monthAndDay year following month n = (m, k) ∧ month ≤ m ∧ m ≤ month + following ∧
      1 ≤ k ∧ daysBeforeMonth year m + k = daysBeforeMonth year month + n ∧
      (k ≤ daysInMonth year m ∨ m = month + following) := by
  induction following generalizing month n with
  | zero => exact ⟨month, n, rfl, le_rfl, le_rfl, hn, rfl, Or.inr rfl⟩
  | succ following ih =>
    rw [monthAndDay]
    split
    · rename_i hle
      exact ⟨month, n, rfl, le_rfl, Nat.le_add_right _ _, hn, rfl, Or.inl hle⟩
    · rename_i hlt
      obtain ⟨m, k, heq, hm, hm', hk, hcount, hend⟩ :=
        ih (Nat.le_add_left 1 month) (show 1 ≤ n - daysInMonth year month by omega)
      rw [daysBeforeMonth_succ year hmonth] at hcount
      exact ⟨m, k, heq, by omega, by omega, hk, by omega, by omega⟩

/-- Every day number of a year has its date. -/
theorem exists_ofDayOfYear {year n : Nat} (hyear : IsYear year) (hn : 1 ≤ n)
    (hle : n ≤ daysInYear year) :
    ∃ d, ofDayOfYear? year n = some d ∧ d.year = year ∧ d.dayOfYear = n := by
  obtain ⟨m, k, heq, hm, hm', hk, hcount, hend⟩ := monthAndDay_spec year 11 le_rfl hn
  have hk' : k ≤ daysInMonth year m := by
    rcases hend with hend | rfl
    · exact hend
    · -- December ends with the year
      have hlast := daysBeforeMonth_succ year (show 1 ≤ 12 by decide)
      rw [daysBeforeMonth_thirteen] at hlast
      have hfirst : daysBeforeMonth year 1 = 0 := rfl
      change daysBeforeMonth year 12 + k = _ at hcount
      change k ≤ daysInMonth year 12
      omega
  have hdate : IsDate year m k := ⟨hyear, ⟨hm, hm'⟩, hk, hk'⟩
  refine ⟨⟨year, m, k, hdate⟩, ?_, rfl, ?_⟩
  · have hfirst : ¬ (n : Int) < 1 := Int.not_lt.2 (Int.ofNat_le.2 hn)
    have hlast : ¬ (daysInYear year : Int) < n := Int.not_lt.2 (Int.ofNat_le.2 hle)
    rw [ofDayOfYear?, if_neg hfirst, if_neg hlast]
    dsimp only
    rw [Int.toNat_natCast, heq]
    exact dif_pos hdate
  · rw [dayOfYear, hcount]
    exact Nat.zero_add n

/-- A day number below 1 counts on in the year before. -/
theorem ofDayOfYear?_of_lt_one {year m : Nat} {n : Int} (hn : n < 1) (hm : 1 ≤ m)
    (hle : m ≤ daysInYear (year - 1)) (heq : n + daysInYear (year - 1) = m) :
    ofDayOfYear? year n = ofDayOfYear? (year - 1) m := by
  have hfirst : ¬ (m : Int) < 1 := Int.not_lt.2 (Int.ofNat_le.2 hm)
  have hlast : ¬ (daysInYear (year - 1) : Int) < m := Int.not_lt.2 (Int.ofNat_le.2 hle)
  rw [ofDayOfYear?, ofDayOfYear?, if_pos hn, if_neg hfirst, if_neg hlast, heq]

/-- The calendar reaches back by up to a year, but not before its first day. -/
theorem exists_daysEarlier {d : Date} {days : Nat} (hdays : days ≤ 365) (hpast : days < d.ordinal) :
    ∃ e, d.daysEarlier? days = some e ∧ e.ordinal + days = d.ordinal := by
  have hyear := d.isDate.1
  have hle := d.dayOfYear_le
  rw [daysEarlier?]
  by_cases hbefore : days < d.dayOfYear
  · obtain ⟨e, he, heyear, hday⟩ := exists_ofDayOfYear (n := d.dayOfYear - days) hyear (by omega)
      (by omega)
    refine ⟨e, ?_, ?_⟩
    · rw [← he, Int.ofNat_sub hbefore.le]
    · rw [ordinal, ordinal, heyear, hday]
      omega
  · have hsecond : 2 ≤ d.year := by
      by_contra hfirst
      have hone : d.year = 1 := le_antisymm (Nat.le_of_lt_succ (Nat.lt_of_not_le hfirst)) hyear.1
      have hzero : daysBeforeYear 1 = 0 := rfl
      rw [ordinal, hone] at hpast
      omega
    have hwhole := daysInYear_eq (d.year - 1)
    have hpos := d.dayOfYear_pos
    have hprevious : IsYear (d.year - 1) := ⟨Nat.le_sub_one_of_lt hsecond,
      (Nat.sub_le _ _).trans hyear.2⟩
    obtain ⟨e, he, heyear, hday⟩ := exists_ofDayOfYear hprevious
      (show 1 ≤ d.dayOfYear + daysInYear (d.year - 1) - days by omega) (by omega)
    refine ⟨e, ?_, ?_⟩
    · rw [← he]
      exact ofDayOfYear?_of_lt_one (by omega) (by omega) (by omega) (by omega)
    · have hnext := daysBeforeYear_succ hprevious.1
      rw [Nat.sub_add_cancel hyear.1] at hnext
      rw [ordinal, ordinal, heyear, hday]
      omega

/-- The window of a week starts seven days before today, from the eighth day of the calendar on. -/
theorem exists_windowStart_week {today : Date} (h : 7 < today.ordinal) :
    ∃ first, Period.week.windowStart today = .ok first ∧ first.ordinal + 7 = today.ordinal := by
  obtain ⟨first, hfirst, hdays⟩ := exists_daysEarlier (by decide) h
  refine ⟨first, ?_, hdays⟩
  rw [Period.windowStart, hfirst]

end IssueGateway.Calendar.Date
