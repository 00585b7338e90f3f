import IssueGateway.Calendar.Timestamp
import Mathlib.Data.Prod.Lex
import Mathlib.Order.Monotone.Basic

/-!
# The order of dates

Dates are ordered by year, month and day, times by hour, minute, second and microsecond. The number
of a date in the calendar keeps this order (`ordinal_strictMono`), as the days before a month and
before a year add up month by month and year by year.
-/

namespace IssueGateway.Calendar

theorem le_daysInMonth (year month : Nat) : 28 ≤ daysInMonth year month := by
  rw [daysInMonth]
  repeat' split
  all_goals decide

theorem daysInMonth_le (year month : Nat) : daysInMonth year month ≤ 31 := by
  rw [daysInMonth]
  repeat' split
  all_goals decide

theorem daysInYear_eq (year : Nat) : daysInYear year = 365 ∨ daysInYear year = 366 := by
  rw [daysInYear]
  split
  · exact Or.inr rfl
  · exact Or.inl rfl

namespace Date

instance : LinearOrder Date :=
  LinearOrder.lift' (fun d => toLex (d.year, toLex (d.month, d.day))) fun d e h => by
    obtain ⟨year, month, day, _⟩ := d
    obtain ⟨year', month', day', _⟩ := e
    simp only [toLex_inj, Prod.mk.injEq] at h
    obtain ⟨rfl, rfl, rfl⟩ := h
    rfl

variable {d e : Date}

theorem of?_eq_some_iff {year month day : Nat} :
    of? year month day = some d ↔ d.year = year ∧ d.month = month ∧ d.day = day := by
  constructor
  · intro h
    rw [of?] at h
    split at h
    · obtain rfl := Option.some.inj h
      exact ⟨rfl, rfl, rfl⟩
    · cases h
  · rintro ⟨rfl, rfl, rfl⟩
    exact dif_pos d.isDate

theorem lt_iff : d < e ↔ d.year < e.year ∨ d.year = e.year ∧
    (d.month < e.month ∨ d.month = e.month ∧ d.day < e.day) := by
  change toLex (d.year, toLex (d.month, d.day)) < toLex (e.year, toLex (e.month, e.day)) ↔ _
  rw [Prod.Lex.toLex_lt_toLex, Prod.Lex.toLex_lt_toLex]

theorem year_le_of_le (h : d ≤ e) : d.year ≤ e.year := by
  rcases h.lt_or_eq with hlt | rfl
  · rcases lt_iff.1 hlt with hyear | ⟨hyear, -⟩
    · exact hyear.le
    · exact hyear.le
  · exact le_rfl

theorem month_le_of_le (h : d ≤ e) (hyear : d.year = e.year) : d.month ≤ e.month := by
  have hparts := mt lt_iff.2 h.not_gt
  omega

theorem daysBeforeMonth_succ (year : Nat) {month : Nat} (h : 1 ≤ month) :
    daysBeforeMonth year (month + 1) = daysBeforeMonth year month + daysInMonth year month := by
  obtain ⟨m, rfl⟩ := Nat.exists_eq_add_of_le' h
  change ((List.range (m + 1)).map fun m => daysInMonth year (m + 1)).sum =
    ((List.range m).map fun m => daysInMonth year (m + 1)).sum + daysInMonth year (m + 1)
  rw [List.range_succ, List.map_append, List.sum_append, List.map_singleton, List.sum_singleton]

theorem daysBeforeMonth_mono (year : Nat) {m n : Nat} (hm : 1 ≤ m) (h : m ≤ n) :
    daysBeforeMonth year m ≤ daysBeforeMonth year n := by
  induction n, h using Nat.le_induction with
  | base => exact le_rfl
  | succ n hmn ih =>
    rw [daysBeforeMonth_succ year (hm.trans hmn)]
    exact Nat.le_add_right_of_le ih

/-- The twelve months make up the year. -/
theorem daysBeforeMonth_thirteen (year : Nat) : daysBeforeMonth year 13 = daysInYear year := by
  rw [daysInYear]
  simp only [daysBeforeMonth, total, daysInMonth]
  cases isLeapYear year <;> rfl

theorem isLeapYear_iff {year : Nat} :
    isLeapYear year = true ↔ 4 ∣ year ∧ (100 ∣ year → 400 ∣ year) := by
  simp only [isLeapYear, Bool.and_eq_true, Bool.or_eq_true, beq_iff_eq, bne_iff_ne,
    Nat.dvd_iff_mod_eq_zero]
  tauto

theorem daysBeforeYear_succ {year : Nat} (h : 1 ≤ year) :
    daysBeforeYear (year + 1) = daysBeforeYear year + daysInYear year := by
  obtain ⟨past, rfl⟩ := Nat.exists_eq_add_of_le' h
  have hcenturies : past / 100 ≤ past / 4 := Nat.div_le_div_left (by decide) (by decide)
  have hfull : 400 ∣ past + 1 → 100 ∣ past + 1 := Nat.dvd_trans (by decide)
  have hfourth : 100 ∣ past + 1 → 4 ∣ past + 1 := Nat.dvd_trans (by decide)
  simp only [daysBeforeYear, daysInYear, isLeapYear_iff, Nat.add_sub_cancel, Nat.succ_div]
  by_cases h4 : 4 ∣ past + 1
  · by_cases h100 : 100 ∣ past + 1
    · by_cases h400 : 400 ∣ past + 1
      · simp only [h4, h100, h400, if_true, true_and, imp_self]
        omega
      · simp only [h4, h100, h400, if_true, if_false, true_and, true_imp_iff]
        omega
    · simp only [h4, h100, mt hfull h100, if_true, if_false, true_and, false_imp_iff]
      omega
  · simp only [h4, mt hfourth h4, mt (hfourth ∘ hfull) h4, if_false, false_and]
    omega

theorem daysBeforeYear_mono {m n : Nat} (hm : 1 ≤ m) (h : m ≤ n) :
    daysBeforeYear m ≤ daysBeforeYear n := by
  induction n, h using Nat.le_induction with
  | base => exact le_rfl
  | succ n hmn ih =>
    rw [daysBeforeYear_succ (hm.trans hmn)]
    exact Nat.le_add_right_of_le ih

theorem dayOfYear_pos (d : Date) : 1 ≤ d.dayOfYear :=
  d.isDate.2.2.1.trans (Nat.le_add_left _ _)

theorem dayOfYear_le (d : Date) : d.dayOfYear ≤ daysInYear d.year := by
  obtain ⟨-, ⟨hmonth, hmonth'⟩, -, hday⟩ := d.isDate
  rw [dayOfYear, ← daysBeforeMonth_thirteen]
  have hnext : daysBeforeMonth d.year (d.month + 1) ≤ daysBeforeMonth d.year 13 :=
    daysBeforeMonth_mono d.year (Nat.le_add_left 1 d.month) (Nat.succ_le_succ hmonth')
  rw [daysBeforeMonth_succ d.year hmonth] at hnext
  omega

/-- Within a year, the days that lie at least between dates of different months. -/
theorem dayOfYear_of_month_lt (hyear : d.year = e.year) (h : d.month < e.month) :
    d.dayOfYear + daysInMonth d.year d.month + e.day ≤ e.dayOfYear + d.day := by
  have hnext := daysBeforeMonth_mono d.year (Nat.le_add_left 1 d.month) h
  rw [daysBeforeMonth_succ d.year d.isDate.2.1.1] at hnext
  rw [dayOfYear, dayOfYear, ← hyear]
  omega

/-- A date among the first 31 days of its year is in January. -/
theorem month_eq_one (h : d.dayOfYear ≤ 31) : d.month = 1 := by
  by_contra hmonth
  have hlater : 2 ≤ d.month := by
    have := d.isDate.2.1.1
    omega
  have hjanuary : daysBeforeMonth d.year 2 = 31 := rfl
  have hbefore := daysBeforeMonth_mono d.year (by decide) hlater
  have hday := d.isDate.2.2.1
  rw [dayOfYear] at h
  omega

/-- A date among the last 31 days of its year is in December. -/
theorem month_eq_twelve (h : daysInYear d.year < d.dayOfYear + 31) : d.month = 12 := by
  by_contra hmonth
  have hearlier : d.month + 1 ≤ 12 := by
    have := d.isDate.2.1.2
    omega
  have hdecember : daysInYear d.year = daysBeforeMonth d.year 12 + 31 := by
    rw [← daysBeforeMonth_thirteen]
    exact daysBeforeMonth_succ d.year (by decide)
  have hbefore := daysBeforeMonth_mono d.year (Nat.le_add_left 1 d.month) hearlier
  rw [daysBeforeMonth_succ d.year d.isDate.2.1.1] at hbefore
  have hday := d.isDate.2.2.2
  rw [dayOfYear] at h
  omega

/-- The days that lie at least between dates of different years. -/
theorem ordinal_of_year_lt (h : d.year < e.year) :
    daysBeforeYear d.year + daysInYear d.year + e.dayOfYear ≤ e.ordinal := by
  have hnext := daysBeforeYear_mono (Nat.le_add_left 1 d.year) h
  rw [daysBeforeYear_succ d.isDate.1.1] at hnext
  rw [ordinal]
  omega

theorem ordinal_strictMono : StrictMono ordinal := by
  intro d e h
  rcases lt_iff.1 h with hyear | ⟨hyear, hmonth | ⟨hmonth, hday⟩⟩
  · have hapart := ordinal_of_year_lt hyear
    have hlast := d.dayOfYear_le
    have hfirst := e.dayOfYear_pos
    rw [ordinal]
    omega
  · have hapart := dayOfYear_of_month_lt hyear hmonth
    have hlast := d.isDate.2.2.2
    have hfirst := e.isDate.2.2.1
    rw [ordinal, ordinal, hyear]
    omega
  · rw [ordinal, ordinal, dayOfYear, dayOfYear, hyear, hmonth]
    omega

theorem ordinal_le_ordinal_iff : d.ordinal ≤ e.ordinal ↔ d ≤ e :=
  ordinal_strictMono.le_iff_le

end Date

theorem Time.of?_eq_some_iff {hour minute second microsecond : Nat} {t : Time} :
    Time.of? hour minute second microsecond = some t ↔
      t.hour = hour ∧ t.minute = minute ∧ t.second = second ∧ t.microsecond = microsecond := by
  constructor
  · intro h
    rw [of?] at h
    split at h
    · obtain rfl := Option.some.inj h
      exact ⟨rfl, rfl, rfl, rfl⟩
    · cases h
  · rintro ⟨rfl, rfl, rfl, rfl⟩
    exact dif_pos t.isTime

instance : LinearOrder Time :=
  LinearOrder.lift' (fun t => toLex (t.hour, toLex (t.minute, toLex (t.second, t.microsecond))))
    fun s t h => by
      obtain ⟨hour, minute, second, microsecond, _⟩ := s
      obtain ⟨hour', minute', second', microsecond', _⟩ := t
      simp only [toLex_inj, Prod.mk.injEq] at h
      obtain ⟨rfl, rfl, rfl, rfl⟩ := h
      rfl

namespace Timestamp

/-- Whether a moment is earlier than another on one clock, offsets aside. -/
def Before (s t : Timestamp) : Prop :=
  s.date < t.date ∨ s.date = t.date ∧ s.time < t.time

variable {s t : Timestamp}

instance : Decidable (s.Before t) := inferInstanceAs (Decidable (_ ∨ _))

theorem Before.date_le (h : s.Before t) : s.date ≤ t.date := by
  rcases h with hdate | ⟨hdate, -⟩
  · exact hdate.le
  · exact hdate.le

theorem Before.asymm (h : s.Before t) : ¬ t.Before s := by
  rintro (hdate | ⟨hdate, htime⟩)
  · exact absurd h.date_le (not_le_of_gt hdate)
  · rcases h with hdate' | ⟨-, htime'⟩
    · exact lt_irrefl _ (hdate ▸ hdate')
    · exact lt_asymm htime htime'

/-- Of moments without an offset one is the earlier, or they are the same. -/
theorem before_trichotomy (hs : s.offset = none) (ht : t.offset = none) :
    s.Before t ∨ s = t ∨ t.Before s := by
  obtain ⟨date, time, offset⟩ := s
  obtain ⟨date', time', offset'⟩ := t
  obtain rfl : offset = none := hs
  obtain rfl : offset' = none := ht
  rcases lt_trichotomy date date' with hdate | rfl | hdate
  · exact Or.inl (Or.inl hdate)
  · rcases lt_trichotomy time time' with htime | rfl | htime
    · exact Or.inl (Or.inr ⟨rfl, htime⟩)
    · exact Or.inr (Or.inl rfl)
    · exact Or.inr (Or.inr (Or.inr ⟨rfl, htime⟩))
  · exact Or.inr (Or.inr (Or.inl hdate))

end Timestamp

end IssueGateway.Calendar
