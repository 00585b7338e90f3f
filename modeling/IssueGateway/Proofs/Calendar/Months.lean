import IssueGateway.Calendar.Window
import IssueGateway.Proofs.Calendar.Order

/-!
# Going back by months

Months have numbers, also those outside the calendar, and going back by months goes to the month
with the number so much smaller (`Date.monthsBefore_eq_ok_iff`). The day stays unless that month is
too short for it. So there is an earlier date just if its month lies in the calendar, later dates and
fewer months lead to later dates, and the way forward again leads home unless the day was cut
(`Date.monthsBefore_clamps`).
-/

namespace IssueGateway.Calendar

/-- A month of any year, years outside the calendar included. -/
structure Month where
  year : Int
  month : Nat
  isMonth : 1 ≤ month ∧ month ≤ 12

namespace Month

/-- Consecutive months have consecutive numbers. -/
def number (t : Month) : Int :=
  12 * t.year + t.month

/-- The number of the month's last day. -/
def lastDay (t : Month) : Nat :=
  daysInMonth t.year.toNat t.month

theorem number_injective : Function.Injective number := by
  rintro ⟨year, month, hmonth⟩ ⟨year', month', hmonth'⟩ h
  change 12 * year + month = 12 * year' + month' at h
  obtain ⟨rfl, rfl⟩ : year = year' ∧ month = month' := by omega
  rfl

theorem number_surjective : Function.Surjective number := by
  intro n
  refine ⟨⟨(n - 1) / 12, ((n - 1) % 12).toNat + 1, by omega⟩, ?_⟩
  change 12 * ((n - 1) / 12) + (((n - 1) % 12).toNat + 1 : Nat) = n
  omega

end Month

theorem Date.make_eq_ok_iff {year month day : Int} {d : Date} :
    Date.make year month day = .ok d ↔ d.year = year ∧ d.month = month ∧ d.day = day := by
  obtain ⟨⟨hfirst, hlast⟩, ⟨hjanuary, hdecember⟩, hday, -⟩ := d.isDate
  constructor
  · intro h
    rw [make] at h
    split at h
    · cases h
    split at h
    · cases h
    split at h
    · cases h
    split at h
    · rename_i e hof
      obtain rfl := Except.ok.inj h
      have hparts := of?_eq_some_iff.1 hof
      omega
    · cases h
  · rintro ⟨rfl, rfl, rfl⟩
    have hof : of? d.year d.month d.day = some d := dif_pos d.isDate
    rw [make, if_neg (by omega), if_neg (by omega), if_neg (by omega), Int.toNat_natCast,
      Int.toNat_natCast, Int.toNat_natCast, hof]

namespace Date

variable {d e : Date} {months : Int}

/-- The month that a date lies in. -/
def inMonth (d : Date) : Month :=
  ⟨d.year, d.month, d.isDate.2.1⟩

theorem lastDay_inMonth (d : Date) : d.inMonth.lastDay = daysInMonth d.year d.month := rfl

theorem day_le_lastDay (d : Date) : d.day ≤ d.inMonth.lastDay :=
  d.isDate.2.2.2

/-- Months come before days in the order of dates. -/
theorem lt_iff_number : d < e ↔ d.inMonth.number < e.inMonth.number ∨
    d.inMonth.number = e.inMonth.number ∧ d.day < e.day := by
  have hd := d.isDate.2.1
  have he := e.isDate.2.1
  rw [lt_iff]
  change _ ↔ 12 * (d.year : Int) + d.month < 12 * (e.year : Int) + e.month ∨
    12 * (d.year : Int) + d.month = 12 * (e.year : Int) + e.month ∧ d.day < e.day
  omega

theorem le_iff_number : d ≤ e ↔ d.inMonth.number < e.inMonth.number ∨
    d.inMonth.number = e.inMonth.number ∧ d.day ≤ e.day := by
  rw [← not_lt, lt_iff_number]
  omega

/-- The date that lies months before another is the one in that month with the same day or, if the
month has no such day, the last. -/
theorem monthsBefore_eq_ok_iff : d.monthsBefore months = .ok e ↔
    e.inMonth.number = d.inMonth.number - months ∧ e.day = min d.day e.inMonth.lastDay := by
  have hd := d.isDate.2.1
  have he := e.isDate.2.1
  have hmonth : (e.year : Int) = (d.monthIndex - months) / 12 ∧
      (e.month : Int) = (d.monthIndex - months) % 12 + 1 ↔
      e.inMonth.number = d.inMonth.number - months := by
    change _ ↔ 12 * (e.year : Int) + e.month = 12 * (d.year : Int) + d.month - months
    rw [monthIndex]
    omega
  rw [monthsBefore, make_eq_ok_iff, ← and_assoc, hmonth]
  refine and_congr_right fun hnumber => ?_
  obtain ⟨hyear, hmonth⟩ := hmonth.2 hnumber
  rw [← hyear, ← hmonth, Int.toNat_natCast, Int.toNat_natCast, lastDay_inMonth]
  omega

/-- Every month of the calendar has a date with this day or with an earlier one as its last. -/
theorem exists_inMonth (d : Date) {t : Month} (hyear : 1 ≤ t.year ∧ t.year ≤ 9999) :
    ∃ e : Date, e.inMonth = t ∧ e.day = min d.day t.lastDay := by
  obtain ⟨year, month, hmonth⟩ := t
  obtain ⟨year, rfl⟩ := Int.eq_ofNat_of_zero_le (le_trans Int.one_nonneg hyear.1)
  have hlast := le_daysInMonth year month
  refine ⟨⟨year, month, min d.day (daysInMonth year month), ?_⟩, rfl, rfl⟩
  refine ⟨?_, hmonth, ?_, min_le_right _ _⟩
  · change 1 ≤ (year : Int) ∧ (year : Int) ≤ 9999 at hyear
    exact ⟨Int.ofNat_le.1 hyear.1, Int.ofNat_le.1 hyear.2⟩
  · exact le_min d.isDate.2.2.1 (by omega)

/-- There is such a date just if its month lies in the calendar. -/
theorem exists_monthsBefore_iff {t : Month} (ht : t.number = d.inMonth.number - months) :
    (∃ e, d.monthsBefore months = .ok e) ↔ 1 ≤ t.year ∧ t.year ≤ 9999 := by
  constructor
  · rintro ⟨e, he⟩
    obtain rfl := Month.number_injective (ht.trans (monthsBefore_eq_ok_iff.1 he).1.symm)
    exact ⟨Int.ofNat_le.2 e.isDate.1.1, Int.ofNat_le.2 e.isDate.1.2⟩
  · intro hyear
    obtain ⟨e, rfl, hday⟩ := d.exists_inMonth hyear
    exact ⟨e, monthsBefore_eq_ok_iff.2 ⟨ht, hday⟩⟩

/-- The way forward leads back home unless the day was cut. -/
theorem monthsBefore_neg_iff (he : d.monthsBefore months = .ok e) :
    e.monthsBefore (-months) = .ok d ↔ d.day ≤ e.inMonth.lastDay := by
  obtain ⟨hnumber, hday⟩ := monthsBefore_eq_ok_iff.1 he
  have hhome := d.day_le_lastDay
  rw [monthsBefore_eq_ok_iff]
  omega

theorem monthsBefore_mono {d' e' : Date} (hle : d ≤ d') (he : d.monthsBefore months = .ok e)
    (he' : d'.monthsBefore months = .ok e') : e ≤ e' := by
  obtain ⟨hnumber, hday⟩ := monthsBefore_eq_ok_iff.1 he
  obtain ⟨hnumber', hday'⟩ := monthsBefore_eq_ok_iff.1 he'
  rw [le_iff_number] at hle ⊢
  rcases hle with hbefore | ⟨hsame, hdays⟩
  · left
    omega
  · -- both days are cut to the length of one month
    have hmonth : e.inMonth = e'.inMonth := Month.number_injective (by omega)
    rw [hday, hday', hmonth]
    right
    omega

theorem monthsBefore_lt {more : Int} {e' : Date} (hlt : months < more)
    (he : d.monthsBefore months = .ok e) (he' : d.monthsBefore more = .ok e') : e' < e := by
  have hnumber := (monthsBefore_eq_ok_iff.1 he).1
  have hnumber' := (monthsBefore_eq_ok_iff.1 he').1
  rw [lt_iff_number]
  left
  omega

/-- Going back by months ends in the month with the number so much smaller, if it lies in the
calendar, on the same day or on the last. It keeps the order of dates, and more months lead to
earlier dates; as many months forward lead back home just if the day was not cut. -/
theorem monthsBefore_clamps (d : Date) (months : Int) :
    (∃! t : Month, t.number = d.inMonth.number - months) ∧
    (∀ t : Month, t.number = d.inMonth.number - months →
      ((∃ e, d.monthsBefore months = .ok e) ↔ 1 ≤ t.year ∧ t.year ≤ 9999) ∧
      ∀ e, d.monthsBefore months = .ok e → e.inMonth = t ∧ e.day = min d.day t.lastDay ∧
        (e.monthsBefore (-months) = .ok d ↔ d.day ≤ t.lastDay)) ∧
    (∀ later e e', d ≤ later → d.monthsBefore months = .ok e →
      later.monthsBefore months = .ok e' → e ≤ e') ∧
    ∀ more e e', months < more → d.monthsBefore months = .ok e → d.monthsBefore more = .ok e' →
      e' < e := by
  refine ⟨?_, fun t ht => ⟨exists_monthsBefore_iff ht, fun e he => ?_⟩,
    fun later e e' => monthsBefore_mono, fun more e e' => monthsBefore_lt⟩
  · obtain ⟨t, ht⟩ := Month.number_surjective (d.inMonth.number - months)
    exact ⟨t, ht, fun t' ht' => Month.number_injective (ht'.trans ht.symm)⟩
  · obtain ⟨hnumber, hday⟩ := monthsBefore_eq_ok_iff.1 he
    obtain rfl := Month.number_injective (ht.trans hnumber.symm)
    exact ⟨rfl, hday, monthsBefore_neg_iff he⟩

/-- The last of March goes back to a leap day, which does not come back to it. -/
theorem monthsBefore_clamps_to_leap_day :
    let d : Date := ⟨2024, 3, 31, by decide⟩
    let e : Date := ⟨2024, 2, 29, by decide⟩
    let february : Month := ⟨2024, 2, by decide⟩
    february.number = d.inMonth.number - 1 ∧ d.monthsBefore 1 = .ok e ∧ e.inMonth = february ∧
      ¬ e.monthsBefore (-1) = .ok d ∧
      (∀ later e', d ≤ later → later.monthsBefore 1 = .ok e' → e ≤ e') ∧
      ∀ more e', 1 < more → d.monthsBefore more = .ok e' → e' < e := by
  intro d e february
  obtain ⟨-, hmonth, hmono, hanti⟩ := monthsBefore_clamps d 1
  obtain ⟨-, hdate⟩ := hmonth february rfl
  have he : d.monthsBefore 1 = .ok e := monthsBefore_eq_ok_iff.2 (by decide)
  obtain ⟨hinMonth, -, hback⟩ := hdate e he
  refine ⟨rfl, he, hinMonth, ?_, fun later e' hle he' => hmono later e e' hle he he',
    fun more e' hlt he' => hanti more e e' hlt he he'⟩
  rw [hback]
  decide

end Date

end IssueGateway.Calendar
