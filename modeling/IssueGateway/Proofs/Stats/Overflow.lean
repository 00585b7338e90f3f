import IssueGateway.Proofs.Number.Rounding
import IssueGateway.Proofs.Stats.Existence
import IssueGateway.Proofs.Stats.Overview
import IssueGateway.Proofs.Stats.Series

/-!
# When an analysis overflows

An analysis takes any records, names and columns. What can stop it is an integer that is too large:
one in the name of a group that has too many digits to be written, or those of a mean that is
therefore no double. A sum of integers is exact, so only its quotient can be out of range; from the
first double on the sum is a double, and the sum before it, each integer after it and the number of
all have to be in range on their own (`exists_mean_iff`). Nothing else stops an analysis
(`analyze_succeeds_iff`).
-/

namespace IssueGateway

namespace Number

theorem exists_toFloat_int_iff {n : Int} :
    (∃ x, toFloat (.int n) = .ok x) ↔ n.natAbs < firstOverflow := by
  rw [← not_le, ← ofInt?_eq_none_iff, toFloat]
  cases ofInt? n <;> simp

theorem add_float_eq_ok_iff {a b s : Number} (h : (∃ x, a = .float x) ∨ ∃ x, b = .float x) :
    add a b = .ok s ↔ ∃ x, a.toFloat = .ok x ∧ ∃ y, b.toFloat = .ok y ∧ .float (x + y) = s := by
  have hadd : add a b = do return .float ((← a.toFloat) + (← b.toFloat)) := by
    rcases h with ⟨x, rfl⟩ | ⟨x, rfl⟩
    · rfl
    · cases a <;> rfl
  rw [hadd]
  simp only [bind_eq_ok_iff, pure_eq_ok_iff]

/-- Once a sum is a double it stays one. -/
theorem float_of_foldlM_add {x : Float} {ns : List Number} {s : Number}
    (h : ns.foldlM add (.float x) = .ok s) : ∃ y, s = .float y := by
  induction ns generalizing x with
  | nil => exact ⟨x, (pure_eq_ok_iff.1 h).symm⟩
  | cons n ns ih =>
    rw [List.foldlM_cons] at h
    obtain ⟨m, hm, hrest⟩ := bind_eq_ok_iff.1 h
    obtain ⟨_, _, _, _, rfl⟩ := (add_float_eq_ok_iff (.inl ⟨x, rfl⟩)).1 hm
    exact ih hrest

/-- Any integer that is too large stops a sum that is a double. -/
theorem exists_foldlM_add_float_iff {x : Float} {ns : List Number} :
    (∃ s, ns.foldlM add (.float x) = .ok s) ↔ ∀ n, .int n ∈ ns → n.natAbs < firstOverflow := by
  induction ns generalizing x with
  | nil => exact iff_of_true ⟨_, rfl⟩ (by simp)
  | cons n ns ih =>
    have hstep : (∃ s, (n :: ns).foldlM add (.float x) = .ok s) ↔
        (∃ y, n.toFloat = .ok y) ∧ ∀ n, .int n ∈ ns → n.natAbs < firstOverflow := by
      simp only [List.foldlM_cons, bind_eq_ok_iff, add_float_eq_ok_iff (.inl ⟨x, rfl⟩)]
      constructor
      · rintro ⟨s, _, ⟨_, _, y, hy, rfl⟩, hs⟩
        exact ⟨⟨y, hy⟩, ih.1 ⟨s, hs⟩⟩
      · rintro ⟨⟨y, hy⟩, hall⟩
        obtain ⟨s, hs⟩ := ih (x := x + y).2 hall
        exact ⟨s, _, ⟨x, rfl, y, hy, rfl⟩, hs⟩
    rw [hstep]
    cases n with
    | int n => simp [exists_toFloat_int_iff]
    | float y => simp [toFloat]

/-- All numbers are integers, or there is a first double. -/
theorem ints_or_first_float (ns : List Number) : (∃ ints : List Int, ns = ints.map .int) ∨
    ∃ (ints : List Int) (x : Float) (rest : List Number),
      ns = ints.map .int ++ .float x :: rest := by
  induction ns with
  | nil => exact .inl ⟨[], rfl⟩
  | cons n ns ih =>
    cases n with
    | float x => exact .inr ⟨[], x, ns, rfl⟩
    | int n =>
      rcases ih with ⟨ints, rfl⟩ | ⟨ints, x, rest, rfl⟩
      · exact .inl ⟨n :: ints, rfl⟩
      · exact .inr ⟨n :: ints, x, rest, rfl⟩

end Number

namespace Stats

open Number

/-- Why a mean has no double as its result. -/
inductive MeanOverflows (ns : List Number) : Prop where
  /-- All are integers, with too large a sum for its quotient. -/
  | quotient (ints : List Int) (hints : ns = ints.map .int) (hne : ints ≠ [])
      (h : firstOverflow * ints.length ≤ ints.sum.natAbs)
  /-- The integers before the first double have too large a sum. -/
  | total (ints : List Int) (x : Float) (rest : List Number)
      (hfirst : ns = ints.map .int ++ .float x :: rest) (h : firstOverflow ≤ ints.sum.natAbs)
  /-- An integer after the first double is too large. -/
  | amount (ints : List Int) (x : Float) (rest : List Number) (n : Int)
      (hfirst : ns = ints.map .int ++ .float x :: rest) (hn : .int n ∈ rest)
      (h : firstOverflow ≤ n.natAbs)
  /-- There is a double, and too many numbers to divide it by. -/
  | count (ints : List Int) (x : Float) (rest : List Number)
      (hfirst : ns = ints.map .int ++ .float x :: rest) (h : firstOverflow ≤ ns.length)

theorem exists_mean_ints_iff {ints : List Int} : (∃ q, mean (ints.map .int) = .ok q) ↔
    ints = [] ∨ ints.sum.natAbs < firstOverflow * ints.length := by
  simp only [mean, sum_ints, bind_eq_ok_iff, Except.ok.injEq, exists_eq_left', List.length_map]
  have hquotient : (∃ q, dividedBy (.int ints.sum) ints.length = .ok q) ↔
      nearest? (ints.sum < 0) ints.sum.natAbs ints.length ≠ none := by
    rw [dividedBy]
    cases nearest? (ints.sum < 0) ints.sum.natAbs ints.length <;> simp
  rw [hquotient]
  cases ints with
  | nil => exact iff_of_true (by decide) (.inl rfl)
  | cons n ints =>
    rw [ne_eq, nearest?_eq_none_iff (List.length_pos_of_ne_nil (List.cons_ne_nil n ints)), not_le]
    exact (or_iff_right (List.cons_ne_nil n ints)).symm

theorem exists_dividedBy_float_iff {x : Float} {count : Nat} :
    (∃ q, dividedBy (.float x) count = .ok q) ↔ count < firstOverflow := by
  rw [← Int.natAbs_natCast count, ← exists_toFloat_int_iff, Int.natAbs_natCast]
  simp only [dividedBy, bind_eq_ok_iff, pure_eq_ok_iff]
  constructor
  · rintro ⟨_, y, hy, _⟩
    exact ⟨y, hy⟩
  · rintro ⟨y, hy⟩
    exact ⟨_, y, hy, rfl⟩

/-- With a double in it, a sum is a double. -/
theorem sum_first_float_eq_ok_iff {ints : List Int} {x : Float} {rest : List Number} {s : Number} :
    Number.sum (ints.map Number.int ++ .float x :: rest) = .ok s ↔
      ∃ y, toFloat (.int ints.sum) = .ok y ∧ rest.foldlM add (.float (y + x)) = .ok s := by
  have hints : (ints.map Number.int).foldlM add 0 = .ok (.int ints.sum) := sum_ints ints
  rw [Number.sum, List.foldlM_append, hints]
  change (Number.float x :: rest).foldlM add (.int ints.sum) = .ok s ↔ _
  rw [List.foldlM_cons, bind_eq_ok_iff]
  simp only [add_float_eq_ok_iff (.inr ⟨x, rfl⟩)]
  constructor
  · rintro ⟨_, ⟨y, hy, _, ⟨⟩, rfl⟩, hs⟩
    exact ⟨y, hy, hs⟩
  · rintro ⟨y, hy, hs⟩
    exact ⟨_, ⟨y, hy, x, rfl, rfl⟩, hs⟩

theorem exists_mean_float_iff {ints : List Int} {x : Float} {rest : List Number} :
    (∃ q, mean (ints.map Number.int ++ .float x :: rest) = .ok q) ↔
      ints.sum.natAbs < firstOverflow ∧ (∀ n, .int n ∈ rest → n.natAbs < firstOverflow) ∧
        (ints.map Number.int ++ .float x :: rest).length < firstOverflow := by
  rw [mean]
  generalize (ints.map Number.int ++ .float x :: rest).length = count
  simp only [bind_eq_ok_iff, sum_first_float_eq_ok_iff]
  rw [← exists_toFloat_int_iff, ← exists_dividedBy_float_iff (x := x)]
  constructor
  · rintro ⟨q, s, ⟨y, hy, hs⟩, hq⟩
    obtain ⟨z, rfl⟩ := float_of_foldlM_add hs
    exact ⟨⟨y, hy⟩, exists_foldlM_add_float_iff.1 ⟨_, hs⟩,
      exists_dividedBy_float_iff.2 (exists_dividedBy_float_iff.1 ⟨q, hq⟩)⟩
  · rintro ⟨⟨y, hy⟩, hrest, hcount⟩
    obtain ⟨s, hs⟩ := exists_foldlM_add_float_iff (x := y + x).2 hrest
    obtain ⟨z, rfl⟩ := float_of_foldlM_add hs
    obtain ⟨q, hq⟩ := exists_dividedBy_float_iff (x := z).2 (exists_dividedBy_float_iff.1 hcount)
    exact ⟨q, _, ⟨y, hy, hs⟩, hq⟩

/-- A mean exists unless it overflows. -/
theorem exists_mean_iff {ns : List Number} : (∃ q, mean ns = .ok q) ↔ ¬ MeanOverflows ns := by
  constructor
  · rintro hmean (⟨ints, rfl, hne, h⟩ | ⟨ints, x, rest, rfl, h⟩ | ⟨ints, x, rest, n, rfl, hn, h⟩ |
      ⟨ints, x, rest, rfl, h⟩)
    · exact (exists_mean_ints_iff.1 hmean).elim hne (not_lt.2 h)
    · exact absurd (exists_mean_float_iff.1 hmean).1 (not_lt.2 h)
    · exact absurd ((exists_mean_float_iff.1 hmean).2.1 n hn) (not_lt.2 h)
    · exact absurd (exists_mean_float_iff.1 hmean).2.2 (not_lt.2 h)
  · intro hnot
    rcases ints_or_first_float ns with ⟨ints, rfl⟩ | ⟨ints, x, rest, rfl⟩
    · refine exists_mean_ints_iff.2 (or_iff_not_imp_left.2 fun hne => ?_)
      exact not_le.1 fun h => hnot (.quotient ints rfl hne h)
    · refine exists_mean_float_iff.2 ⟨?_, fun n hn => ?_, ?_⟩
      · exact not_le.1 fun h => hnot (.total ints x rest rfl h)
      · exact not_le.1 fun h => hnot (.amount ints x rest n rfl hn h)
      · exact not_le.1 fun h => hnot (.count ints x rest rfl h)

theorem outOfRange_mean_iff {ns : List Number} : OutOfRange (mean ns) ↔ MeanOverflows ns := by
  rw [outOfRange_iff, exists_mean_iff, not_not]

/-- Why a series has no slope: one half of its counts has too large a mean. -/
def SlopeOverflows (counts : List Nat) : Prop :=
  2 ≤ counts.length ∧ ∃ half ∈ [counts.take (counts.length / 2), counts.drop (counts.length / 2)],
    firstOverflow * half.length ≤ half.sum

theorem exists_mean_counts_iff {counts : List Nat} (hne : counts ≠ []) :
    (∃ q, mean (counts.map fun n : Nat => Number.int n) = .ok q) ↔
      ¬ firstOverflow * counts.length ≤ counts.sum := by
  have hints : (counts.map fun n : Nat => Number.int n) = (counts.map Nat.cast).map .int := by
    rw [List.map_map]
    rfl
  have hsum : ((counts.map Nat.cast : List Int).sum).natAbs = counts.sum := by
    rw [← Nat.cast_list_sum, Int.natAbs_natCast]
  rw [hints, exists_mean_ints_iff, hsum, List.length_map, not_le, List.map_eq_nil_iff]
  exact or_iff_right hne

theorem outOfRange_slope_iff {counts : List Nat} :
    OutOfRange (slope (counts.map fun n : Nat => Number.int n)) ↔ SlopeOverflows counts := by
  rw [outOfRange_iff, not_iff_comm, slope, List.length_map, SlopeOverflows]
  split
  · rename_i hshort
    exact iff_of_true (fun h => absurd h.1 (not_le.2 hshort)) ⟨_, rfl⟩
  · rename_i hlong
    have htake : counts.take (counts.length / 2) ≠ [] := by
      rw [← List.length_pos_iff, List.length_take]
      omega
    have hdrop : counts.drop (counts.length / 2) ≠ [] := by
      rw [← List.length_pos_iff, List.length_drop]
      omega
    simp only [bind_eq_ok_iff, pure_eq_ok_iff, ← List.map_take, ← List.map_drop]
    simp only [List.mem_cons, List.not_mem_nil, or_false, exists_eq_or_imp, exists_eq_left,
      not_lt.1 hlong, true_and, not_or, ← exists_mean_counts_iff htake,
      ← exists_mean_counts_iff hdrop]
    exact ⟨fun ⟨⟨_, hearlier⟩, _, hlater⟩ => ⟨_, _, hlater, _, hearlier, rfl⟩,
      fun ⟨_, _, hlater, _, hearlier, _⟩ => ⟨⟨_, hearlier⟩, _, hlater⟩⟩

/-- Counts whose slope overflows count more than any memory holds. -/
theorem SlopeOverflows.le_sum {counts : List Nat} (h : SlopeOverflows counts) :
    firstOverflow ≤ counts.sum := by
  obtain ⟨hlong, half, hhalf, hlarge⟩ := h
  have hsplit : (counts.take (counts.length / 2)).sum + (counts.drop (counts.length / 2)).sum =
      counts.sum := by
    rw [← List.sum_append, List.take_append_drop]
  simp only [List.mem_cons, List.not_mem_nil, or_false] at hhalf
  have hlength : 0 < half.length := by
    rcases hhalf with rfl | rfl
    · rw [List.length_take]
      omega
    · rw [List.length_drop]
      omega
  have hone : firstOverflow ≤ firstOverflow * half.length := Nat.le_mul_of_pos_right _ hlength
  rcases hhalf with rfl | rfl <;> omega

/-- An analysis of any records by any names exists if all groups have a name, unless the mean
progress of a group overflows, or the slope of a series that is too long for any memory. Otherwise
it fails for a name that cannot be written if there is one, else with an overflow, and in no other
way. -/
theorem analyze_succeeds_iff (records : List Record) (analysisType period : String)
    (groupBy dateField : Option String) :
    ((∃ analysis, analyze records analysisType period groupBy dateField = .ok analysis) ↔
      AreNamed records (groupedBy groupBy) ∧
      (∀ name, ¬ MeanOverflows
        ((records.filter (nameBy (groupedBy groupBy) · == name)).map progress)) ∧
      ¬ SlopeOverflows
        ((series records (datedBy analysisType dateField) period).map (·.count))) ∧
    (SlopeOverflows ((series records (datedBy analysisType dateField) period).map (·.count)) →
      firstOverflow ≤ records.length) ∧
    (¬ AreNamed records (groupedBy groupBy) →
      analyze records analysisType period groupBy dateField = .error .integerTooLong) ∧
    (AreNamed records (groupedBy groupBy) → ∀ failure,
      analyze records analysisType period groupBy dateField = .error failure →
        ∃ cause, failure = .range cause) := by
  refine ⟨?_, fun h => ?_, fun hunnamed => ?_, range_analyze⟩
  · rw [exists_analysis_iff, outOfRange_slope_iff]
    simp only [outOfRange_mean_iff]
  · refine h.le_sum.trans ?_
    rw [← total_eq_sum, total_series]
    exact List.countP_le_length
  · rw [analyze_eq, if_neg hunnamed]

/-- A record whose progress is an integer past all doubles. -/
def hugeRecord : Record :=
  ⟨[("ProgressRate", .num (.int (10 ^ 200 * 10 ^ 200)))]⟩

/-- One such record is enough to stop an analysis. -/
theorem analyze_stopped_by_huge_progress :
    (¬ ∃ analysis, analyze [hugeRecord] "creation" "month" none none = .ok analysis) ∧
      AreNamed [hugeRecord] (groupedBy none) ∧
      ∀ failure, analyze [hugeRecord] "creation" "month" none none = .error failure →
        ∃ cause, failure = .range cause := by
  obtain ⟨hsucceeds, -, -, hfails⟩ :=
    analyze_succeeds_iff [hugeRecord] "creation" "month" none none
  refine ⟨fun hanalysis => ?_, areNamed_none _, hfails (areNamed_none _)⟩
  refine (hsucceeds.1 hanalysis).2.1 "all" ?_
  exact .quotient [10 ^ 200 * 10 ^ 200] rfl (List.cons_ne_nil _ _) (by decide +kernel)

/-- So is a record whose group has too many digits for a name. -/
example : ¬ AreNamed [⟨[("ClassA", .int (10 ^ 4300 : Nat))]⟩] (groupedBy (some "ClassA")) := by
  decide +kernel

end Stats

end IssueGateway
