import IssueGateway.Proofs.Calendar.Parts
import IssueGateway.Proofs.Stats.CalendarOrder

/-!
# Keys and buckets

A key tells its bucket. The year ends where a text goes on with something that is no digit, so that
its length does not matter, and behind it stands the unit, or month and day where the name is that of
no period (`bucketKey_eq_iff_sameBucket`). Weeks and quarters are quotients that are rounded up as
doubles, which for days and months is the same as rounding up the exact quotient.
-/

namespace IssueGateway.Stats

open Calendar Text Number

/-- Whether two dates are in one bucket of a named period: of one year, and in one unit of it. Weeks
are counted within any month, and a name that is no period makes days. -/
def SameBucket (period : String) (d e : Date) : Prop :=
  d.year = e.year ∧
    if period = "week" then (d.day + 6) / 7 = (e.day + 6) / 7
    else if period = "month" then d.month = e.month
    else if period = "quarter" then (d.month + 2) / 3 = (e.month + 2) / 3
    else if period = "year" then True
    else d.month = e.month ∧ d.day = e.day

theorem ofName?_eq_some_iff {name : String} {period : Period} :
    Period.ofName? name = some period ↔ name = period.name := by
  constructor
  · intro h
    rw [Period.ofName?] at h
    have hname := List.find?_some h
    exact (beq_iff_eq.1 hname).symm
  · rintro rfl
    cases period <;> decide

theorem ofName?_eq_none_iff {name : String} :
    Period.ofName? name = none ↔ ∀ period : Period, name ≠ period.name := by
  rw [Option.eq_none_iff_forall_ne_some]
  exact forall_congr' fun period => not_congr ofName?_eq_some_iff

section Keys

variable {d e : Date}

theorem bucketKey_eq_iff_sameBucket {period : String} :
    bucketKey d period = bucketKey e period ↔ SameBucket period d e := by
  cases hperiod : Period.ofName? period with
  | some named =>
    obtain rfl := ofName?_eq_some_iff.1 hperiod
    rw [bucketKey_eq_iff, bucketIndex, bucketIndex, toLex_inj, Prod.mk.injEq]
    refine and_congr_right fun _ => ?_
    cases named with
    | week => simp [unitIndex, weekOfMonth_eq, Period.name]
    | month => simp [unitIndex, Period.name]
    | quarter => simp [unitIndex, Period.name]
    | year => simp [unitIndex, Period.name]
  | none =>
    have hkey (d : Date) : bucketKey d period = d.iso := by simp only [bucketKey, hperiod]
    have hother := ofName?_eq_none_iff.1 hperiod
    have hweek : period ≠ "week" := hother .week
    have hmonth : period ≠ "month" := hother .month
    have hquarter : period ≠ "quarter" := hother .quarter
    have hyear : period ≠ "year" := hother .year
    rw [hkey, hkey, Date.iso, Date.iso, String.ofList_inj, Date.isoChars_eq_iff, SameBucket,
      if_neg hweek, if_neg hmonth, if_neg hquarter, if_neg hyear]

end Keys

/-- A key tells its bucket, of whatever year: two moments have one key in a period just if they are
of one year and in one unit of it, and a name that is no period tells the day. The quotients behind
weeks and quarters are doubles, and are rounded up to what the exact quotients are. -/
theorem bucketKey_identifies (period : String) :
    (∀ a b : Timestamp, bucketKey a.date period = bucketKey b.date period ↔
      SameBucket period a.date b.date) ∧
    ∀ d : Date,
      ceiling? (ratio d.day 7) = some (((d.day + 6) / 7 : Nat) : Int) ∧
      ceiling? (ratio d.month 3) = some (((d.month + 2) / 3 : Nat) : Int) := by
  refine ⟨fun a b => bucketKey_eq_iff_sameBucket, fun d => ⟨?_, ?_⟩⟩
  · have hday := d.day_lt
    exact ceiling?_ratio (by decide) (hday.trans (by decide)) (by decide)
  · have hmonth := d.month_lt
    exact ceiling?_ratio (by decide) (hmonth.trans (by decide)) (by decide)

end IssueGateway.Stats
