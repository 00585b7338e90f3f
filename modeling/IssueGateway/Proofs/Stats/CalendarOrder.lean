import IssueGateway.Proofs.Stats.WeekOrder
import IssueGateway.Proofs.Text.Trim

/-!
# Months, quarters and years in the order of their keys

A key is the numeral of a year and the text of a unit within that year. The texts of one period have
one length, so between years of four digits the order of the keys is that of year and unit
(`cmp_bucketKey`). Months, quarters and years, unlike weeks of a month, follow each other as time
does (`lt_of_bucketIndex_lt`), and a series of them goes through its buckets in this order.
-/

namespace IssueGateway.Stats

open Calendar Text

/-- The number of a date's unit of a period within its year. Weeks are counted within their month,
and a year is one unit. -/
def unitIndex : Period → Date → Nat
  | .week, d => weekOfMonth d
  | .month, d => d.month
  | .quarter, d => (d.month + 2) / 3
  | .year, _ => 0

/-- The bucket of a date as a pair of numbers, ordered by the year and then by the unit. -/
def bucketIndex (period : Period) (d : Date) : ℕ ×ₗ ℕ := toLex (d.year, unitIndex period d)

/-- What a key says behind the year. -/
def unitText : Period → Date → List Char
  | .week, d => "-W".toList ++ natural (weekOfMonth d)
  | .month, d => ['-'] ++ padded 2 d.month
  | .quarter, d => "-Q".toList ++ natural ((d.month + 2) / 3)
  | .year, _ => []

theorem partsBegun_month (d : Date) : partsBegun d.month 3 = (d.month + 2) / 3 := by
  have hmonth := d.isDate.2.1.2
  exact partsBegun_eq (by decide) (by omega) (by decide)

theorem toList_bucketKey (period : Period) (d : Date) :
    (bucketKey d period.name).toList = natural d.year ++ unitText period d := by
  cases period with
  | week => exact toList_weekKey d
  | month =>
    change (numeral d.year ++ "-" ++ String.ofList (padded 2 d.month)).toList = _
    rw [String.toList_append, String.toList_append, toList_numeral, List.append_assoc]
    rw [String.toList_ofList (l := padded 2 d.month)]
    rfl
  | quarter =>
    change (numeral d.year ++ "-Q" ++ numeral (partsBegun d.month 3)).toList = _
    rw [String.toList_append, String.toList_append, toList_numeral, toList_numeral,
      List.append_assoc, partsBegun_month]
    rfl
  | year =>
    rw [unitText, List.append_nil]
    exact toList_numeral d.year

theorem length_quarter (d : Date) : (natural ((d.month + 2) / 3)).length = 1 := by
  obtain ⟨-, ⟨hmonth, hmonth'⟩, -⟩ := d.isDate
  refine length_natural (k := 0) ?_ ?_ <;> omega

variable {period : Period} {d e : Date}

theorem unitText_lt_iff : unitText period d < unitText period e ↔
    unitIndex period d < unitIndex period e := by
  cases period with
  | week =>
    have hlength := (length_weekOfMonth d).trans (length_weekOfMonth e).symm
    rw [unitText, unitText, append_lt_append_iff rfl, natural_lt_iff hlength]
    simp [unitIndex]
  | month =>
    have hd : d.month < 10 ^ 2 := Nat.lt_of_le_of_lt d.isDate.2.1.2 (by decide)
    have he : e.month < 10 ^ 2 := Nat.lt_of_le_of_lt e.isDate.2.1.2 (by decide)
    rw [unitText, unitText, append_lt_append_iff rfl, padded_lt_iff (by decide) hd he]
    simp [unitIndex]
  | quarter =>
    have hlength := (length_quarter d).trans (length_quarter e).symm
    rw [unitText, unitText, append_lt_append_iff rfl, natural_lt_iff hlength]
    simp [unitIndex]
  | year => simp [unitText, unitIndex]

/-- Keys of years with four digits are ordered like their buckets. -/
theorem bucketKey_lt_iff (hd : 1000 ≤ d.year) (he : 1000 ≤ e.year) :
    bucketKey d period.name < bucketKey e period.name ↔
      bucketIndex period d < bucketIndex period e := by
  have hlength : (natural d.year).length = (natural e.year).length := by
    rw [length_natural (k := 3) hd (Nat.lt_succ_of_le d.isDate.1.2),
      length_natural (k := 3) he (Nat.lt_succ_of_le e.isDate.1.2)]
  rw [String.lt_iff_toList_lt, toList_bucketKey, toList_bucketKey, append_lt_append_iff hlength,
    natural_lt_iff hlength, natural_injective.eq_iff, unitText_lt_iff, bucketIndex, bucketIndex,
    Prod.Lex.toLex_lt_toLex]

theorem unitText_eq_iff : unitText period d = unitText period e ↔
    unitIndex period d = unitIndex period e := by
  rw [le_antisymm_iff, ← not_lt, ← not_lt, unitText_lt_iff, unitText_lt_iff, not_lt, not_lt,
    le_antisymm_iff]

theorem unitText_head? (period : Period) (d : Date) :
    ∀ c ∈ (unitText period d).head?, c.isDigit = false := by
  intro c hc
  cases period with
  | year => cases hc
  | _ =>
    obtain rfl := Option.some.inj hc
    rfl

/-- A key ends its year with its unit, so years of any length belong to keys of their own. -/
theorem bucketKey_eq_iff : bucketKey d period.name = bucketKey e period.name ↔
    bucketIndex period d = bucketIndex period e := by
  rw [← String.toList_inj, toList_bucketKey, toList_bucketKey,
    append_eq_append_iff_of_front (fun _ => isDigit_of_mem_natural) (unitText_head? period d)
      (fun _ => isDigit_of_mem_natural) (unitText_head? period e),
    natural_injective.eq_iff, unitText_eq_iff, bucketIndex, bucketIndex, toLex_inj, Prod.mk.injEq]

theorem cmp_bucketKey (hd : 1000 ≤ d.year) (he : 1000 ≤ e.year) :
    cmp (bucketKey d period.name) (bucketKey e period.name) =
      cmp (bucketIndex period d) (bucketIndex period e) := by
  simp only [cmp, cmpUsing, bucketKey_lt_iff hd he, bucketKey_lt_iff he hd]

/-- Dates in an earlier month, quarter or year are earlier. -/
theorem lt_of_bucketIndex_lt (hperiod : period ≠ .week)
    (h : bucketIndex period d < bucketIndex period e) : d < e := by
  rw [bucketIndex, bucketIndex, Prod.Lex.toLex_lt_toLex] at h
  rw [Date.lt_iff]
  cases period with
  | week => exact absurd rfl hperiod
  | month =>
    simp only [unitIndex] at h
    omega
  | quarter =>
    simp only [unitIndex] at h
    omega
  | year =>
    simp only [unitIndex] at h
    omega

/-- A series that goes through its buckets as time does, as far as years have four digits. -/
structure VisitsInOrder (records : List Record) (column : String) (period : Period)
    (points : List SeriesPoint) : Prop where
  /-- Every moment is counted at a point, and every point counts some. -/
  covers : ∀ t ∈ moments records column, ∃ p ∈ points, t ∈ momentsIn records column period.name p
  count_eq : ∀ p ∈ points, 1 ≤ p.count ∧
    p.count = (momentsIn records column period.name p).length
  /-- A point stands for one bucket. -/
  mem_iff : ∀ p ∈ points, ∀ s ∈ momentsIn records column period.name p,
    ∀ t ∈ moments records column, 1000 ≤ s.date.year → 1000 ≤ t.date.year →
      (t ∈ momentsIn records column period.name p ↔
        bucketIndex period t.date = bucketIndex period s.date)
  ascending : points.Pairwise fun p q => ∀ s ∈ momentsIn records column period.name p,
    ∀ t ∈ momentsIn records column period.name q, 1000 ≤ s.date.year → 1000 ≤ t.date.year →
      bucketIndex period s.date < bucketIndex period t.date ∧ s.date < t.date

theorem visitsInOrder_series (hperiod : period ≠ .week) (records : List Record) (column : String) :
    VisitsInOrder records column period (series records column period.name) := by
  constructor
  · intro t ht
    obtain ⟨p, hp, -, htp⟩ := exists_mem_momentsIn period.name ht
    exact ⟨p, hp, htp⟩
  · intro p hp
    rw [length_momentsIn]
    exact (mem_series_iff records column period.name p).1 hp
  · intro p _ s hs t ht _ _
    obtain ⟨-, hkey⟩ := mem_momentsIn.1 hs
    rw [mem_momentsIn, and_iff_right ht, ← hkey, bucketKey_eq_iff]
  · refine (pairwise_series records column period.name).imp fun {p q} hlt s hs t ht hsyear htyear => ?_
    obtain ⟨-, hskey⟩ := mem_momentsIn.1 hs
    obtain ⟨-, htkey⟩ := mem_momentsIn.1 ht
    rw [← hskey, ← htkey, bucketKey_lt_iff hsyear htyear] at hlt
    exact ⟨hlt, lt_of_bucketIndex_lt hperiod hlt⟩

/-- Months, quarters and years of four digits have their keys in the order of year and unit, so
that a series of any records visits its buckets in the order of time. -/
theorem series_visits_in_order {period : Period} (hperiod : period ≠ .week) :
    (∀ a b : Timestamp, 1000 ≤ a.date.year → 1000 ≤ b.date.year →
      cmp (bucketKey a.date period.name) (bucketKey b.date period.name) =
        cmp (toLex (a.date.year, unitIndex period a.date))
          (toLex (b.date.year, unitIndex period b.date))) ∧
    ∀ (records : List Record) (analysisType : String) (groupBy dateField : Option String)
      (analysis : TrendAnalysis),
      analyze records analysisType period.name groupBy dateField = .ok analysis →
        VisitsInOrder records (datedBy analysisType dateField) period analysis.series := by
  constructor
  · intro a b ha hb
    exact cmp_bucketKey ha hb
  · intro records analysisType groupBy dateField analysis hanalyze
    obtain ⟨-, hseries, -, -⟩ := analyze_eq_ok_iff.1 hanalyze
    rw [hseries]
    exact visitsInOrder_series hperiod records _

/-- Four issues in February, October and the January after; as numbers without a zero in front, the
tenth month would come before the second. -/
theorem series_visits_in_order_over_new_year :
    let a : Timestamp := { date := ⟨2023, 12, 31, by decide⟩ }
    let b : Timestamp := { date := ⟨2024, 1, 1, by decide⟩ }
    let records := ["2024-01-02", "2023-10-05T10:00:00", "2023/2/1", "2024-01-31"].map fun time =>
      Record.mk [("CreatedTime", .str time)]
    Period.month ≠ .week ∧ 1000 ≤ a.date.year ∧ 1000 ≤ b.date.year ∧
      cmp (bucketKey a.date "month") (bucketKey b.date "month") = .lt ∧
      ∃ analysis, analyze records "creation" "month" none none = .ok analysis ∧
        VisitsInOrder records "CreatedTime" .month analysis.series ∧
        analysis.series = [⟨"2023-02", 1⟩, ⟨"2023-10", 1⟩, ⟨"2024-01", 2⟩] := by
  intro a b records
  have hseries : series records "CreatedTime" "month" =
      [⟨"2023-02", 1⟩, ⟨"2023-10", 1⟩, ⟨"2024-01", 2⟩] :=
    series_eq_of_sorted _ _ _ (by decide +kernel) (by decide +kernel)
  have htrend : ((Trend.of [1, 1, 2]).map fun _ => ()).toOption = some () := by decide +kernel
  have hgroups : (((groupsOf records none).mapM fun group =>
      summarize group.1 group.2).map fun _ => ()).toOption = some () := by decide +kernel
  obtain ⟨trend, htrend, -⟩ := exists_ok_of_toOption_map htrend
  obtain ⟨groups, hgroups, -⟩ := exists_ok_of_toOption_map hgroups
  have hanalyze : analyze records "creation" "month" none none =
      .ok ⟨groups, [⟨"2023-02", 1⟩, ⟨"2023-10", 1⟩, ⟨"2024-01", 2⟩], trend⟩ :=
    analyze_eq_ok_iff.2
      ⟨areNamed_none records, hseries.symm, htrend, mapM_eq_ok_iff.1 hgroups⟩
  obtain ⟨hkeys, hvisits⟩ := series_visits_in_order (by decide : Period.month ≠ .week)
  refine ⟨by decide, by decide, by decide, (hkeys a b (by decide) (by decide)).trans ?_, _,
    hanalyze, hvisits records "creation" none none _ hanalyze, rfl⟩
  decide

end IssueGateway.Stats
