import IssueGateway.Proofs.Calendar.DayCount
import IssueGateway.Proofs.Number.Quotient
import IssueGateway.Proofs.Stats.Chronology
import IssueGateway.Proofs.Text.Decimal

/-!
# Weeks in the order of their keys

A week is counted within its month, so the first days of a month have a smaller key than the last
days of the month before. At most a week apart, this is the only way in which keys leave the order
of the dates, years without four digits aside (`weekKey_le_iff`). A weekly series is in time order
exactly if it does not happen (`chronological_iff_inKeyOrder`), and it does not in a window whose
two ends have their keys in order (`inKeyOrder_of_window`).
-/

namespace IssueGateway.Stats

open Calendar Text

/-- Counts of 53 bits are divided into parts as if no double came between. -/
theorem partsBegun_eq {n size : Nat} (hsize : 0 < size) (hn : n < 2 ^ 53) (hsize' : size ≤ 2 ^ 53) :
    partsBegun n size = (n + size - 1) / size := by
  rw [partsBegun, Number.ceiling?_ratio hsize hn hsize', Option.getD_some, Int.toNat_natCast]

/-- The number of a date's week within its month. -/
def weekOfMonth (d : Date) : Nat := partsBegun d.day 7

theorem weekOfMonth_eq (d : Date) : weekOfMonth d = (d.day + 6) / 7 := by
  have hday := d.isDate.2.2.2.trans (daysInMonth_le d.year d.month)
  exact partsBegun_eq (by decide) (by omega) (by decide)

theorem toList_numeral (n : Nat) : (numeral n).toList = natural n :=
  String.toList_ofList

theorem toList_weekKey (d : Date) : (bucketKey d "week").toList =
    natural d.year ++ ("-W".toList ++ natural (weekOfMonth d)) := by
  change (numeral d.year ++ "-W" ++ numeral (weekOfMonth d)).toList = _
  rw [String.toList_append, String.toList_append, toList_numeral, toList_numeral,
    List.append_assoc]

theorem length_weekOfMonth (d : Date) : (natural (weekOfMonth d)).length = 1 := by
  obtain ⟨-, -, hday, hday'⟩ := d.isDate
  have hmonth := daysInMonth_le d.year d.month
  refine length_natural (k := 0) ?_ ?_
  · rw [weekOfMonth_eq]
    omega
  · rw [weekOfMonth_eq]
    omega

section Keys

variable {d e : Date}

/-- Keys compare year and week where the years have as many digits. -/
theorem weekKey_lt_iff (h : (natural d.year).length = (natural e.year).length) :
    bucketKey d "week" < bucketKey e "week" ↔
      d.year < e.year ∨ d.year = e.year ∧ weekOfMonth d < weekOfMonth e := by
  have hweek := (length_weekOfMonth d).trans (length_weekOfMonth e).symm
  rw [String.lt_iff_toList_lt, toList_weekKey, toList_weekKey, append_lt_append_iff h,
    natural_lt_iff h, natural_injective.eq_iff, append_lt_append_iff rfl, natural_lt_iff hweek]
  simp

/-- At most a week on, but in a later month of the year, a date is in a smaller week. -/
theorem weekOfMonth_lt_of_near (hyear : d.year = e.year) (hmonth : d.month < e.month)
    (hnear : e.ordinal ≤ d.ordinal + 7) : weekOfMonth e < weekOfMonth d := by
  have hapart := Date.dayOfYear_of_month_lt hyear hmonth
  have hlong := le_daysInMonth d.year d.month
  have hfirst := e.isDate.2.2.1
  rw [Date.ordinal, Date.ordinal, hyear] at hnear
  rw [weekOfMonth_eq, weekOfMonth_eq]
  omega

theorem year_le_of_near (hnear : e.ordinal ≤ d.ordinal + 7) : e.year ≤ d.year + 1 := by
  have hlast := d.dayOfYear_le
  have hfirst := e.dayOfYear_pos
  have hwhole := daysInYear_eq (d.year + 1)
  by_contra hfar
  have hnext := Date.daysBeforeYear_mono (Nat.le_add_left 1 (d.year + 1)) (Nat.lt_of_not_le hfar)
  rw [Date.daysBeforeYear_succ (Nat.le_add_left 1 d.year),
    Date.daysBeforeYear_succ d.isDate.1.1] at hnext
  rw [Date.ordinal, Date.ordinal] at hnear
  omega

/-- At most a week after a date of the year before, it is January. -/
theorem month_eq_one_of_near (hlt : d.year < e.year) (hnear : e.ordinal ≤ d.ordinal + 7) :
    e.month = 1 := by
  have hapart := Date.ordinal_of_year_lt hlt
  have hlast := d.dayOfYear_le
  have hday : d.ordinal = Date.daysBeforeYear d.year + d.dayOfYear := rfl
  exact Date.month_eq_one (by omega)

/-- At most a week before a date of the next year, it is December. -/
theorem month_eq_twelve_of_near (hlt : d.year < e.year) (hnear : e.ordinal ≤ d.ordinal + 7) :
    d.month = 12 := by
  have hapart := Date.ordinal_of_year_lt hlt
  have hfirst := e.dayOfYear_pos
  have hday : d.ordinal = Date.daysBeforeYear d.year + d.dayOfYear := rfl
  exact Date.month_eq_twelve (by omega)

/-- The year 1000 comes before the year 999 as a text. -/
theorem weekKey_lt_of_thousand (hd : d.year = 999) (he : e.year = 1000) :
    bucketKey e "week" < bucketKey d "week" := by
  have hthousand : natural 1000 = ['1', '0', '0', '0'] := by decide
  have hbefore : natural 999 = ['9', '9', '9'] := by decide
  rw [String.lt_iff_toList_lt, toList_weekKey, toList_weekKey, hd, he, hthousand, hbefore]
  exact List.cons_lt_cons_iff.2 (Or.inl (by decide))

/-- From one year to the next the keys are in order if the years have four digits. -/
theorem weekKey_le_iff_of_year_lt (hlt : d.year < e.year) (hnear : e.ordinal ≤ d.ordinal + 7)
    (hyear : 999 ≤ d.year) : bucketKey d "week" ≤ bucketKey e "week" ↔ 1000 ≤ d.year := by
  rw [← not_lt]
  rcases hyear.lt_or_eq with hdigits | hbefore
  · have hlength : (natural e.year).length = (natural d.year).length := by
      rw [length_natural (k := 3) hdigits (Nat.lt_succ_of_le d.isDate.1.2),
        length_natural (k := 3) (hdigits.trans hlt) (Nat.lt_succ_of_le e.isDate.1.2)]
    rw [weekKey_lt_iff hlength]
    refine iff_of_true ?_ hdigits
    omega
  · have hnext := year_le_of_near hnear
    have hreversed := weekKey_lt_of_thousand hbefore.symm (by omega : e.year = 1000)
    exact iff_of_false (not_not.2 hreversed) (by omega)

/-- Within a year the keys are in order if the month is the same. -/
theorem weekKey_le_iff_of_year_eq (hsame : d.year = e.year) (hle : d ≤ e)
    (hnear : e.ordinal ≤ d.ordinal + 7) :
    bucketKey d "week" ≤ bucketKey e "week" ↔ d.month = e.month := by
  have hparts := mt Date.lt_iff.2 hle.not_gt
  rw [← not_lt, weekKey_lt_iff (congrArg (fun year => (natural year).length) hsame.symm)]
  by_cases hmonth : d.month = e.month
  · refine iff_of_true ?_ hmonth
    rw [weekOfMonth_eq, weekOfMonth_eq]
    omega
  · have hweek := weekOfMonth_lt_of_near hsame (by omega) hnear
    exact iff_of_false (not_not.2 (Or.inr ⟨hsame.symm, hweek⟩)) hmonth

/-- Dates whose weeks have their keys in order: in one month, or in different years of four
digits. -/
def InKeyOrder (d e : Date) : Prop :=
  d.year = e.year ∧ d.month = e.month ∨ d.year < e.year ∧ 1000 ≤ d.year

instance : Decidable (InKeyOrder d e) := inferInstanceAs (Decidable (_ ∨ _))

/-- At most a week apart, keys of weeks are in order exactly in one month and from a year of
four digits to the next. -/
theorem weekKey_le_iff (hle : d ≤ e) (hnear : e.ordinal ≤ d.ordinal + 7) (hyear : 999 ≤ d.year) :
    bucketKey d "week" ≤ bucketKey e "week" ↔ InKeyOrder d e := by
  rcases (Date.year_le_of_le hle).lt_or_eq with hlt | hsame
  · rw [weekKey_le_iff_of_year_lt hlt hnear hyear, InKeyOrder]
    omega
  · rw [weekKey_le_iff_of_year_eq hsame hle hnear, InKeyOrder]
    omega

end Keys

section Window

variable {first today d e : Date} (hwindow : first.ordinal + 7 = today.ordinal)

include hwindow

theorem near_of_window (hd : first ≤ d) (he : e ≤ today) : e.ordinal ≤ d.ordinal + 7 := by
  have hbegin := Date.ordinal_le_ordinal_iff.2 hd
  have hend := Date.ordinal_le_ordinal_iff.2 he
  omega

theorem year_of_window (hyear : 1000 ≤ today.year) (hd : first ≤ d) : 999 ≤ d.year := by
  have hnext := year_le_of_near hwindow.ge
  have hbegin := Date.year_le_of_le hd
  omega

/-- Dates of one year are of one month in a window that reaches into the year before. -/
theorem month_eq_of_window (hnext : first.year < today.year) (hd : first ≤ d) (hde : d ≤ e)
    (he : e ≤ today) (hsame : d.year = e.year) : d.month = e.month := by
  rcases (Date.year_le_of_le hd).lt_or_eq with hlt | hfirst
  · rw [month_eq_one_of_near hlt (near_of_window hwindow le_rfl (hde.trans he)),
      month_eq_one_of_near (hlt.trans_eq hsame) (near_of_window hwindow le_rfl he)]
  · rw [month_eq_twelve_of_near (hfirst.symm.trans_lt hnext) (near_of_window hwindow hd le_rfl),
      month_eq_twelve_of_near ((hfirst.trans hsame).symm.trans_lt hnext)
        (near_of_window hwindow (hd.trans hde) le_rfl)]

/-- If the ends of a window are in the order of their keys, so are all its dates. -/
theorem inKeyOrder_of_window (h : InKeyOrder first today) (hd : first ≤ d) (hde : d ≤ e)
    (he : e ≤ today) : InKeyOrder d e := by
  have hbegin := Date.year_le_of_le hd
  have hmiddle := Date.year_le_of_le hde
  have hend := Date.year_le_of_le he
  rcases h with ⟨hyear, hmonth⟩ | ⟨hnext, hdigits⟩
  · have hfirst := Date.month_le_of_le hd (by omega)
    have hlast := Date.month_le_of_le he (by omega)
    have hwithin := Date.month_le_of_le hde (by omega)
    exact Or.inl ⟨by omega, by omega⟩
  · rcases hmiddle.lt_or_eq with hlt | hsame
    · exact Or.inr ⟨hlt, by omega⟩
    · exact Or.inl ⟨hsame, month_eq_of_window hwindow hnext hd hde he hsame⟩

/-- A weekly series of moments on one clock in the window is in time order exactly if any two of
them have their keys in order. -/
theorem chronological_iff_inKeyOrder {records : List Record} {column : String}
    (hyear : 1000 ≤ today.year)
    (hwithin : ∀ t ∈ moments records column, t.offset = none ∧ first ≤ t.date ∧ t.date ≤ today) :
    Chronological records column "week" (series records column "week") ↔
      ∀ s ∈ moments records column, ∀ t ∈ moments records column, s.Before t →
        InKeyOrder s.date t.date := by
  rw [chronological_iff_keys fun t ht => (hwithin t ht).1]
  refine forall₂_congr fun s hs => forall₂_congr fun t ht => forall_congr' fun hbefore => ?_
  obtain ⟨-, hbegin, -⟩ := hwithin s hs
  obtain ⟨-, -, hend⟩ := hwithin t ht
  exact weekKey_le_iff hbefore.date_le (near_of_window hwindow hbegin hend)
    (year_of_window hwindow hyear hbegin)

end Window

end IssueGateway.Stats
