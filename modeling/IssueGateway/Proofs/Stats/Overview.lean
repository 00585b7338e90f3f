import IssueGateway.Proofs.Number.Percent
import IssueGateway.Proofs.Stats.Grouping

/-!
# Totals over all groups

The overview counts and sums over the records and over the groups. As the groups make up the
records, what is added up group by group comes to the same as over all records: counts always
(`total_over_groups`), work if it is all in integers (`sum_totalWork`), as integers can be added in
any order and doubles cannot.
-/

namespace IssueGateway.Stats

theorem total_eq_sum (counts : List Nat) : total counts = counts.sum := rfl

/-- The work of a record where it is an integer. -/
def wholeWork (r : Record) : Int :=
  match work r with
  | .int n => n
  | .float _ => 0

/-- Whether a record adds an integer to the work. -/
def HasWholeWork (r : Record) : Prop :=
  ∀ x, r.workValue? ≠ some (.float x)

theorem work_eq_wholeWork {r : Record} (h : HasWholeWork r) : work r = .int (wholeWork r) := by
  rw [wholeWork]
  cases hwork : work r with
  | int n => rfl
  | float x =>
    exfalso
    rw [work] at hwork
    cases hvalue : r.workValue? with
    | none =>
      rw [hvalue] at hwork
      cases hwork
    | some n =>
      cases n with
      | int n =>
        rw [hvalue, addend] at hwork
        split at hwork <;> cases hwork
      | float y => exact h y hvalue

/-- Integers have their sum. -/
theorem sum_ints (ns : List Int) : Number.sum (ns.map Number.int) = .ok (.int ns.sum) := by
  induction ns using List.reverseRecOn with
  | nil => rfl
  | append_singleton ns n ih =>
    rw [List.map_append, Number.sum]
    refine foldlM_concat_eq_ok_iff.2 ⟨_, ih, ?_⟩
    rw [Number.add, List.sum_append, List.sum_singleton]

theorem sum_work {records : List Record} (h : ∀ r ∈ records, HasWholeWork r) :
    Number.sum (records.map work) = .ok (.int (records.map wholeWork).sum) := by
  have hints : records.map work = (records.map wholeWork).map Number.int := by
    rw [List.map_map]
    exact List.map_congr_left fun r hr => work_eq_wholeWork (h r hr)
  rw [hints, sum_ints]

section Groups

variable {select : Selector} {records : List Record} {groups : Assoc GroupKey GroupStats}
  (h : aggregate records select = .ok groups)

include h

theorem length_over_groups :
    (groups.map fun g => (members select g.1 records).length).sum = records.length := by
  rw [← (members_perm_of_aggregate h).length_eq, List.length_flatMap]

/-- What is counted of the records of each group comes to what is counted of all records. -/
theorem countP_over_groups (p : Record → Bool) :
    (groups.map fun g => (members select g.1 records).countP p).sum = records.countP p := by
  rw [← (members_perm_of_aggregate h).countP_eq, List.countP_flatMap]
  rfl

theorem sum_over_groups (weight : Record → Int) :
    (groups.map fun g => ((members select g.1 records).map weight).sum).sum =
      (records.map weight).sum := by
  rw [← ((members_perm_of_aggregate h).map weight).sum_eq, List.map_flatMap, List.flatMap_def,
    List.sum_flatten, List.map_map]
  rfl

/-- The counts of the groups come to the number of records, and so do their rows. -/
theorem total_over_groups :
    total (groups.map (·.2.count)) = records.length ∧
      total (groups.map (·.2.rows.length)) = records.length := by
  have hcount : (groups.map (·.2.count)) =
      groups.map fun g => (members select g.1 records).length :=
    List.map_congr_left fun _ hmem => (stats_of_aggregate h hmem).count_eq
  have hrows : (groups.map (·.2.rows.length)) =
      groups.map fun g => (members select g.1 records).length :=
    List.map_congr_left fun _ hmem => by
      rw [(stats_of_aggregate h hmem).rows_eq, List.length_map]
  rw [total_eq_sum, total_eq_sum, hcount, hrows]
  exact ⟨length_over_groups h, length_over_groups h⟩

theorem total_completed_over_groups :
    total (groups.map (·.2.completedCount)) = records.countP Record.isCompleted := by
  have hcompleted : (groups.map (·.2.completedCount)) =
      groups.map fun g => (members select g.1 records).countP Record.isCompleted :=
    List.map_congr_left fun _ hmem => (stats_of_aggregate h hmem).completedCount_eq
  rw [total_eq_sum, hcompleted]
  exact countP_over_groups h Record.isCompleted

/-- In integers the work of the groups comes to the work of all records. -/
theorem sum_totalWork (hwhole : ∀ r ∈ records, HasWholeWork r) :
    Number.sum (groups.map (·.2.totalWork)) = Number.sum (records.map work) := by
  have hwork : (groups.map (·.2.totalWork)) = (groups.map fun g =>
      ((members select g.1 records).map wholeWork).sum).map Number.int := by
    rw [List.map_map]
    refine List.map_congr_left fun g hmem => ?_
    have hown := (stats_of_aggregate h hmem).totalWork_eq
    have hmembers : ∀ r ∈ members select g.1 records, HasWholeWork r :=
      fun r hr => hwhole r (List.mem_of_mem_filter hr)
    rw [sum_work hmembers] at hown
    exact (Except.ok.inj hown).symm
  rw [hwork, sum_ints, sum_over_groups h, sum_work hwhole]

end Groups

theorem overview_eq_ok_iff {records : List Record} {groups : Assoc GroupKey GroupStats}
    {totals : Overview} : overview records groups = .ok totals ↔
      totals.totalCompleted = total (groups.map (·.2.completedCount)) ∧
      Number.sum (records.map work) = .ok totals.totalWork ∧
      totals.completionRate = if records.isEmpty then Number.notANumber
        else Number.percent totals.totalCompleted records.length := by
  simp only [overview, bind_eq_ok_iff, checked_eq_ok_iff, pure_eq_ok_iff]
  constructor
  · rintro ⟨w, hw, rfl⟩
    exact ⟨rfl, hw, rfl⟩
  · obtain ⟨completed, rate, w⟩ := totals
    rintro ⟨hcompleted, hw, hrate⟩
    dsimp only at hcompleted hw hrate
    subst hcompleted hrate
    exact ⟨w, hw, rfl⟩

/-- The rate of an overview is a number unless there are no records. -/
theorem isNaN_completionRate {records : List Record} {groups : Assoc GroupKey GroupStats}
    {totals : Overview} (h : overview records groups = .ok totals) :
    totals.completionRate.isNaN = records.isEmpty := by
  rw [(overview_eq_ok_iff.1 h).2.2]
  cases records with
  | nil => exact (by decide : Number.notANumber.isNaN = true)
  | cons r rest => exact Number.isNaN_percent ..

end IssueGateway.Stats
