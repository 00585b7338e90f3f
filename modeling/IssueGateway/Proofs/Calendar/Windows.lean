import IssueGateway.Proofs.Calendar.DayCount
import IssueGateway.Proofs.Calendar.Months
import Mathlib.Tactic.IntervalCases

/-!
# Windows lie one within the other

The window of a month is as long as one of the two months that it touches, that of a quarter as long
as three months in a row, and that of a year as long as a year (`monthsBefore_one`,
`monthsBefore_three`, `monthsBefore_twelve`). These lengths are so far apart that the shorter of two
windows starts later, on every day that has a year before it; and a later day has no earlier window
(`windowStart_nested`).
-/

namespace IssueGateway.Calendar

/-- The day after February in a leap year. -/
def leapDay (year : Nat) : Nat :=
  if isLeapYear year then 1 else 0

theorem leapDay_le (year : Nat) : leapDay year ≤ 1 := by
  rw [leapDay]
  split <;> decide

theorem daysInYear_eq_leapDay (year : Nat) : daysInYear year = 365 + leapDay year := by
  rw [daysInYear, leapDay]
  split <;> rfl

theorem daysInMonth_two (year : Nat) : daysInMonth year 2 = 28 + leapDay year := by
  rw [daysInMonth, leapDay, if_pos rfl]
  split <;> rfl

theorem daysInMonth_congr {month : Nat} (hmonth : month ≠ 2) (year year' : Nat) :
    daysInMonth year month = daysInMonth year' month := by
  rw [daysInMonth, daysInMonth, if_neg hmonth, if_neg hmonth]

/-- The days that pass from an earlier date to this one. -/
def Date.daysSince (d first : Date) : Int :=
  d.ordinal - first.ordinal

namespace Month

/-- The days of the calendar before a month. -/
def start (t : Month) : Nat :=
  Date.daysBeforeYear t.year.toNat + Date.daysBeforeMonth t.year.toNat t.month

variable {t u : Month}

/-- The month of the year that follows a month of the year. -/
def following (month : Nat) : Nat :=
  month % 12 + 1

theorem month_of_next (hnext : u.number = t.number + 1) : u.month = following t.month := by
  have ht := t.isMonth
  have hu := u.isMonth
  change 12 * u.year + (u.month : Int) = 12 * t.year + (t.month : Int) + 1 at hnext
  rw [following]
  omega

/-- A month begins where the month before it ends. -/
theorem start_of_next (hyear : 1 ≤ t.year) (hnext : u.number = t.number + 1) :
    u.start = t.start + t.lastDay := by
  have hmonth := month_of_next hnext
  have ht := t.isMonth
  change 12 * u.year + (u.month : Int) = 12 * t.year + (t.month : Int) + 1 at hnext
  rw [start, start, lastDay]
  rcases Nat.lt_or_eq_of_le ht.2 with hlt | heq
  · have hsame : u.month = t.month + 1 := by
      rw [hmonth, following, Nat.mod_eq_of_lt hlt]
    have hyears : u.year = t.year := by omega
    rw [hsame, hyears, Date.daysBeforeMonth_succ _ ht.1, Nat.add_assoc]
  · -- after December the year's days are complete
    have hfirst : u.month = 1 := by
      rw [hmonth, following, heq]
    have hyears : u.year.toNat = t.year.toNat + 1 := by omega
    have hcomplete := Date.daysBeforeMonth_succ t.year.toNat ht.1
    rw [heq, Date.daysBeforeMonth_thirteen] at hcomplete
    have hnone : Date.daysBeforeMonth (t.year.toNat + 1) 1 = 0 := rfl
    rw [hfirst, hyears, Date.daysBeforeYear_succ (by omega), hnone, heq]
    omega

/-- No month is shorter than in the first year, which is none of the leap years, and none longer than
in the fourth, which is one. -/
theorem lastDay_between (t : Month) :
    daysInMonth 1 t.month ≤ t.lastDay ∧ t.lastDay ≤ daysInMonth 4 t.month := by
  rw [lastDay]
  by_cases hfebruary : t.month = 2
  · rw [hfebruary, daysInMonth_two t.year.toNat]
    exact ⟨Nat.le_add_right 28 _, Nat.add_le_add_left (leapDay_le _) 28⟩
  · exact ⟨(daysInMonth_congr hfebruary _ _).le, (daysInMonth_congr hfebruary _ _).le⟩

/-- How long three months in a row can be, also if the first is as long as the one after them. -/
theorem three_months : ∀ month < 13, 1 ≤ month →
    89 ≤ daysInMonth 1 month + daysInMonth 1 (following month) +
      daysInMonth 1 (following (following month)) ∧
    max (daysInMonth 4 month) (daysInMonth 4 (following (following (following month)))) +
      daysInMonth 4 (following month) + daysInMonth 4 (following (following month)) ≤ 92 := by
  decide

end Month

namespace Date

variable {d e : Date}

theorem ordinal_eq_start (d : Date) : d.ordinal = d.inMonth.start + d.day :=
  (Nat.add_assoc _ _ _).symm

/-- From March on the leap day has passed. -/
theorem daysBeforeMonth_eq_leapDay {month : Nat} (hmonth : 1 ≤ month ∧ month ≤ 12) (year : Nat) :
    daysBeforeMonth year month =
      daysBeforeMonth 1 month + if 2 < month then leapDay year else 0 := by
  obtain ⟨hfirst, hlast⟩ := hmonth
  simp only [daysBeforeMonth, total, daysInMonth, leapDay]
  interval_cases month <;> cases isLeapYear year <;> rfl

theorem monthsBefore_one (he : d.monthsBefore 1 = .ok e) :
    28 ≤ d.daysSince e ∧ d.daysSince e ≤ 31 := by
  obtain ⟨hnumber, hday⟩ := monthsBefore_eq_ok_iff.1 he
  have hstart : d.inMonth.start = e.inMonth.start + e.inMonth.lastDay :=
    Month.start_of_next (Int.ofNat_le.2 e.isDate.1.1) (by omega)
  have hdays := d.isDate.2.2.2.trans (daysInMonth_le _ _)
  have hshort : 28 ≤ e.inMonth.lastDay := le_daysInMonth _ _
  have hlong : e.inMonth.lastDay ≤ 31 := daysInMonth_le _ _
  rw [daysSince, ordinal_eq_start, ordinal_eq_start, hstart]
  omega

theorem monthsBefore_three (he : d.monthsBefore 3 = .ok e) :
    89 ≤ d.daysSince e ∧ d.daysSince e ≤ 92 := by
  obtain ⟨hnumber, hday⟩ := monthsBefore_eq_ok_iff.1 he
  have hyear : 1 ≤ e.inMonth.year := Int.ofNat_le.2 e.isDate.1.1
  obtain ⟨t, ht⟩ := Month.number_surjective (e.inMonth.number + 1)
  obtain ⟨u, hu⟩ := Month.number_surjective (t.number + 1)
  have hd : d.inMonth.number = u.number + 1 := by omega
  have hlater : ∀ t u : Month, 1 ≤ t.year → u.number = t.number + 1 → 1 ≤ u.year := by
    intro t u hyear hnext
    have htmonth := t.isMonth
    have humonth := u.isMonth
    change 12 * u.year + (u.month : Int) = 12 * t.year + (t.month : Int) + 1 at hnext
    omega
  have htyear := hlater _ t hyear ht
  have hstart := Month.start_of_next (hlater t u htyear hu) hd
  rw [Month.start_of_next htyear hu, Month.start_of_next hyear ht] at hstart
  obtain ⟨hshort, hlong⟩ := Month.three_months e.month (Nat.lt_succ_of_le e.isDate.2.1.2)
    e.isDate.2.1.1
  have htmonth : t.month = Month.following e.month := Month.month_of_next ht
  have humonth : u.month = Month.following t.month := Month.month_of_next hu
  have hdmonth : d.month = Month.following u.month := Month.month_of_next hd
  rw [← htmonth, ← humonth, ← hdmonth] at hlong
  rw [← htmonth, ← humonth] at hshort
  have hfirst : daysInMonth 1 e.month ≤ e.inMonth.lastDay ∧
      e.inMonth.lastDay ≤ daysInMonth 4 e.month := e.inMonth.lastDay_between
  have hsecond := t.lastDay_between
  have hthird := u.lastDay_between
  have hdays : d.day ≤ daysInMonth 4 d.month := d.day_le_lastDay.trans d.inMonth.lastDay_between.2
  rw [daysSince, ordinal_eq_start, ordinal_eq_start, hstart]
  omega

theorem monthsBefore_twelve (he : d.monthsBefore 12 = .ok e) :
    d.daysSince e = 365 ∨ d.daysSince e = 366 := by
  obtain ⟨hnumber, hday⟩ := monthsBefore_eq_ok_iff.1 he
  have hdmonth := d.isDate.2.1
  have hemonth := e.isDate.2.1
  obtain ⟨hyear, hmonth⟩ : d.year = e.year + 1 ∧ d.month = e.month := by
    change 12 * (e.year : Int) + e.month = 12 * (d.year : Int) + d.month - 12 at hnumber
    omega
  have hdays := d.isDate.2.2.2
  have hpassed := daysBeforeMonth_eq_leapDay hemonth e.year
  have hpassed' := daysBeforeMonth_eq_leapDay hemonth d.year
  have hleap := leapDay_le e.year
  have hleap' := leapDay_le d.year
  rw [lastDay_inMonth] at hday
  rw [daysSince, ordinal, ordinal, dayOfYear, dayOfYear, hyear, daysBeforeYear_succ e.isDate.1.1,
    daysInYear_eq_leapDay, ← hyear, hmonth]
  rw [hmonth] at hdays
  by_cases hfebruary : e.month = 2
  · rw [hfebruary, daysInMonth_two] at hday hdays
    rw [hfebruary, if_neg (by decide)] at hpassed hpassed'
    rw [hfebruary]
    omega
  · -- no other month differs from year to year, so the day was not cut
    rw [daysInMonth_congr hfebruary e.year d.year] at hday
    by_cases hlate : 2 < e.month
    · rw [if_pos hlate] at hpassed hpassed'
      omega
    · rw [if_neg hlate] at hpassed hpassed'
      omega

theorem seven_lt_ordinal (d : Date) (hyear : 2 ≤ d.year) : 7 < d.ordinal := by
  have hfirst : daysBeforeYear 2 = 365 := rfl
  have hpast := daysBeforeYear_mono (by decide) hyear
  rw [ordinal]
  omega

theorem daysSince_of_week (hyear : 2 ≤ d.year) (he : Period.week.windowStart d = .ok e) :
    d.daysSince e = 7 := by
  obtain ⟨first, hfirst, hdays⟩ := exists_windowStart_week (d.seven_lt_ordinal hyear)
  obtain rfl := Except.ok.inj (hfirst.symm.trans he)
  rw [daysSince]
  omega

/-- A date from the second year on has dates up to twelve months before it. -/
theorem exists_monthsBefore (hyear : 2 ≤ d.year) {months : Int} (hpos : 0 ≤ months)
    (hle : months ≤ 12) : ∃ e, d.monthsBefore months = .ok e := by
  obtain ⟨t, ht⟩ := Month.number_surjective (d.inMonth.number - months)
  rw [exists_monthsBefore_iff ht]
  have hmonth := d.isDate.2.1
  have hlast := d.isDate.1.2
  have htmonth := t.isMonth
  change 12 * t.year + (t.month : Int) = 12 * (d.year : Int) + d.month - months at ht
  omega

end Date

theorem windowStart_eq (today : Date) (period : Period) :
    windowStart today period.name = period.windowStart today := by
  cases period <;> rfl

/-- Every window exists on a day that has a year before it. -/
theorem exists_windowStart {today : Date} (hyear : 2 ≤ today.year) (period : Period) :
    ∃ first, period.windowStart today = .ok first := by
  cases period with
  | week =>
    obtain ⟨first, hfirst, -⟩ := Date.exists_windowStart_week (today.seven_lt_ordinal hyear)
    exact ⟨first, hfirst⟩
  | month => exact Date.exists_monthsBefore hyear (by decide) (by decide)
  | quarter => exact Date.exists_monthsBefore hyear (by decide) (by decide)
  | year => exact Date.exists_monthsBefore hyear (by decide) (by decide)

/-- A later day has no earlier window. -/
theorem windowStart_mono {today later first first' : Date} (hyear : 2 ≤ today.year)
    (hle : today ≤ later) {period : Period} (hfirst : period.windowStart today = .ok first)
    (hfirst' : period.windowStart later = .ok first') : first ≤ first' := by
  cases period with
  | week =>
    have hdays := Date.ordinal_le_ordinal_iff.2 hle
    have hweek := Date.daysSince_of_week hyear hfirst
    have hweek' := Date.daysSince_of_week (hyear.trans (Date.year_le_of_le hle)) hfirst'
    rw [Date.daysSince] at hweek hweek'
    rw [← Date.ordinal_le_ordinal_iff]
    omega
  | month => exact Date.monthsBefore_mono hle hfirst hfirst'
  | quarter => exact Date.monthsBefore_mono hle hfirst hfirst'
  | year => exact Date.monthsBefore_mono hle hfirst hfirst'

/-- How the windows lie that end today. -/
structure Nested (today week month quarter year : Date) : Prop where
  year_lt : year < quarter
  quarter_lt : quarter < month
  month_lt : month < week
  week_lt : week < today
  days_week : today.daysSince week = 7
  days_month : 28 ≤ today.daysSince month ∧ today.daysSince month ≤ 31
  days_quarter : 89 ≤ today.daysSince quarter ∧ today.daysSince quarter ≤ 92
  days_year : today.daysSince year = 365 ∨ today.daysSince year = 366

/-- The lengths of the windows tell which of them begins first. -/
theorem nested_of_days {today week month quarter year : Date} (hweek : today.daysSince week = 7)
    (hmonth : 28 ≤ today.daysSince month ∧ today.daysSince month ≤ 31)
    (hquarter : 89 ≤ today.daysSince quarter ∧ today.daysSince quarter ≤ 92)
    (hyear : today.daysSince year = 365 ∨ today.daysSince year = 366) :
    Nested today week month quarter year := by
  have hlt : ∀ {d e : Date}, today.daysSince e < today.daysSince d → d < e := by
    intro d e h
    rw [← Date.ordinal_strictMono.lt_iff_lt]
    rw [Date.daysSince, Date.daysSince] at h
    omega
  have htoday : today.daysSince today = 0 := sub_self _
  exact ⟨hlt (by omega), hlt (by omega), hlt (by omega), hlt (by omega), hweek, hmonth, hquarter,
    hyear⟩

/-- From the second year on the four windows that end today lie one within the other: a week has
seven days, a month 28 to 31, a quarter 89 to 92 and a year 365 or 366. On a later day none of them,
nor any other, begins earlier. -/
theorem windowStart_nested {today : Date} (hyear : 2 ≤ today.year) :
    (∃ week month quarter year, windowStart today "week" = .ok week ∧
      windowStart today "month" = .ok month ∧ windowStart today "quarter" = .ok quarter ∧
      windowStart today "year" = .ok year ∧ Nested today week month quarter year) ∧
    ∀ (period : String) (later : Date), today ≤ later → ∃ first first',
      windowStart today period = .ok first ∧ windowStart later period = .ok first' ∧
        first ≤ first' := by
  constructor
  · obtain ⟨week, hweek⟩ := exists_windowStart hyear .week
    obtain ⟨month, hmonth⟩ := exists_windowStart hyear .month
    obtain ⟨quarter, hquarter⟩ := exists_windowStart hyear .quarter
    obtain ⟨year, hpast⟩ := exists_windowStart hyear .year
    exact ⟨week, month, quarter, year, (windowStart_eq today .week).trans hweek,
      (windowStart_eq today .month).trans hmonth, (windowStart_eq today .quarter).trans hquarter,
      (windowStart_eq today .year).trans hpast,
      nested_of_days (Date.daysSince_of_week hyear hweek) (Date.monthsBefore_one hmonth)
        (Date.monthsBefore_three hquarter) (Date.monthsBefore_twelve hpast)⟩
  · intro period later hle
    obtain ⟨first, hfirst⟩ := exists_windowStart hyear ((Period.ofName? period).getD .year)
    obtain ⟨first', hfirst'⟩ := exists_windowStart (hyear.trans (Date.year_le_of_le hle))
      ((Period.ofName? period).getD .year)
    exact ⟨first, first', hfirst, hfirst', windowStart_mono hyear hle hfirst hfirst'⟩

/-- From the last of March a month goes back to a leap day, to which it is cut. -/
theorem windowStart_nested_last_of_march :
    let today : Date := ⟨2024, 3, 31, by decide⟩
    let later : Date := ⟨2024, 4, 30, by decide⟩
    let leap : Date := ⟨2024, 2, 29, by decide⟩
    2 ≤ today.year ∧ today ≤ later ∧ windowStart today "month" = .ok leap ∧
      (∃ week quarter year, Nested today week leap quarter year) ∧
      ∃ first', windowStart later "month" = .ok first' ∧ leap ≤ first' := by
  intro today later leap
  have hyear : 2 ≤ today.year := by decide
  have hle : today ≤ later := by decide
  have hleap : windowStart today "month" = .ok leap :=
    (windowStart_eq today .month).trans (Date.monthsBefore_eq_ok_iff.2 (by decide))
  obtain ⟨⟨week, month, quarter, year, -, hmonth, -, -, hnested⟩, hmono⟩ :=
    windowStart_nested hyear
  obtain ⟨first, first', hfirst, hfirst', hstart⟩ := hmono "month" later hle
  obtain rfl := Except.ok.inj (hleap.symm.trans hmonth)
  obtain rfl := Except.ok.inj (hleap.symm.trans hfirst)
  exact ⟨hyear, hle, hleap, ⟨week, quarter, year, hnested⟩, first', hfirst', hstart⟩

end IssueGateway.Calendar
