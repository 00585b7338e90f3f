import IssueGateway.Operation.Search
import IssueGateway.Proofs.Query.DateBounds
import IssueGateway.Proofs.Results

/-!
# Which dates a search asks for

A search hands its dates on as they are. The request tells the bounds of a date column unless one
range passes for another, which takes a quote in a lower bound (`dateBounds_told`); then a lower
bound alone can ask for what two bounds ask for (`dateBounds_forged`).
-/

namespace IssueGateway.Operation

open Query

/-- The date bounds that a search asks for, by column. -/
def SearchArguments.dateRanges (a : SearchArguments) : Assoc String DateRange :=
  (a.dateFilters.getD {}).ranges

theorem SearchArguments.expressions_of_check {a : SearchArguments} {site : Int}
    {query : Query.Payload} (h : a.check = .ok (site, query)) :
    query.columnExpressions = rangeExpressions ((a.dateFilters.map DateFilters.ranges).getD [])
      ((a.numberFilters.map NumberFilters.ranges).getD []) := by
  rw [check] at h
  simp only [bind_eq_ok_iff, pure_eq_ok_iff] at h
  obtain ⟨site', -, offset, -, limit, -, order, -, -, -, -, -, heq⟩ := h
  obtain ⟨-, rfl⟩ := Prod.mk.inj heq
  rfl

theorem nodup_dateColumns (dateFilters : Option DateFilters) :
    (Assoc.keys ((dateFilters.map DateFilters.ranges).getD [])).Nodup := by
  cases dateFilters with
  | none => exact List.nodup_nil
  | some f => exact (by decide : ["StartTime", "CompletionTime", "UpdatedTime"].Nodup)

theorem nodup_numberColumns (numberFilters : Option NumberFilters) :
    (Assoc.keys ((numberFilters.map NumberFilters.ranges).getD [])).Nodup := by
  cases numberFilters with
  | none => exact List.nodup_nil
  | some f => exact (by decide : ["ProgressRate", "WorkValue"].Nodup)

/-- A date column is asked for by the expression of its bounds alone. -/
theorem SearchArguments.get?_of_check {a : SearchArguments} {site : Int} {query : Query.Payload}
    (h : a.check = .ok (site, query)) {column : String} {range : DateRange}
    (hmem : (column, range) ∈ a.dateRanges) :
    query.columnExpressions.get? column = range.expression column := by
  have hdate : (Assoc.get? ((a.dateFilters.map DateFilters.ranges).getD []) column).getD {} =
      range := by
    rw [dateRanges] at hmem
    cases hfilters : a.dateFilters with
    | none =>
      rw [hfilters] at hmem
      have hnone : ∀ entry ∈ DateFilters.ranges {}, entry.2 = {} := by decide
      exact (hnone _ hmem).symm
    | some f =>
      rw [hfilters] at hmem
      have hdistinct := nodup_dateColumns (some f)
      rw [Assoc.get?_of_mem (hdistinct.imp fun hne => beq_eq_false_iff_ne.2 (Ne.symm hne)) hmem]
      rfl
  have hnumber : Assoc.get? ((a.numberFilters.map NumberFilters.ranges).getD []) column = none := by
    have hcolumn : column ∈ ["StartTime", "CompletionTime", "UpdatedTime"] :=
      List.mem_map_of_mem (f := Prod.fst) hmem
    cases a.numberFilters with
    | none => rfl
    | some f =>
      simp only [List.mem_cons, List.not_mem_nil, or_false] at hcolumn
      rcases hcolumn with rfl | rfl | rfl <;> rfl
  rw [expressions_of_check h, get?_rangeExpressions (nodup_dateColumns _) (nodup_numberColumns _),
    clausesOf, hdate, hnumber, DateRange.expression_eq]
  exact congrArg joined (List.append_nil _)

/-- The date bounds that a search gives, by column. -/
def SearchArguments.dateBounds (a : SearchArguments) :
    Assoc String (Option String × Option String) :=
  a.dateRanges.map fun (column, range) => (column, range.bounds)

/-- A range whose lower bound has no quote in it. -/
def HasPlainStart (range : DateRange) : Prop :=
  ∀ start ∈ range.first, '\'' ∉ start.toList

instance (range : DateRange) : Decidable (HasPlainStart range) :=
  inferInstanceAs (Decidable (∀ start ∈ range.first, '\'' ∉ start.toList))

theorem bounds_eq_of_expression_eq {column : String} {range other : DateRange}
    (hplain : HasPlainStart range) (hother : HasPlainStart other)
    (h : range.expression column = other.expression column) : range.bounds = other.bounds := by
  rcases (DateRange.expression_eq_iff column range other).1 h with hbounds | hpasses | hpasses
  · exact hbounds
  · obtain ⟨start, hstart, hquote⟩ := hpasses.quote_mem
    exact absurd hquote (hplain start hstart)
  · obtain ⟨start, hstart, hquote⟩ := hpasses.quote_mem
    exact absurd hquote (hother start hstart)

/-- Two ranges have one expression only if they give the same bounds or one passes for the other,
which takes a quote in its lower bound and can be done for any two bounds. Searches without quotes
in their lower bounds ask for the same dates only if they give the same. -/
theorem dateBounds_told :
    (∀ column (range other : DateRange), range.expression column = other.expression column ↔
      range.bounds = other.bounds ∨ PassesFor column range other ∨
        PassesFor column other range) ∧
    (∀ column range other, PassesFor column range other → ¬ HasPlainStart range) ∧
    (∀ column first last, first ≠ "" → last ≠ "" →
      PassesFor column ⟨some (first ++ ("'" ++ upperClause column ("'" ++ last))), none⟩
        ⟨some first, some last⟩) ∧
    ∀ (a b : SearchArguments) (sites : Int × Int) (query other : Query.Payload),
      a.check = .ok (sites.1, query) → b.check = .ok (sites.2, other) →
      (∀ entry ∈ a.dateRanges ++ b.dateRanges, HasPlainStart entry.2) →
      query.columnExpressions = other.columnExpressions → a.dateBounds = b.dateBounds := by
  refine ⟨DateRange.expression_eq_iff, ?_, fun column _ _ => passesFor_of_clauses column, ?_⟩
  · intro column range other hpasses hplain
    obtain ⟨start, hstart, hquote⟩ := hpasses.quote_mem
    exact hplain start hstart hquote
  · intro a b sites query other ha hb hplain heq
    have hsame : ∀ column range range', (column, range) ∈ a.dateRanges →
        (column, range') ∈ b.dateRanges → range.bounds = range'.bounds := by
      intro column range range' hmem hmem'
      have hexpression : range.expression column = range'.expression column := by
        rw [← SearchArguments.get?_of_check ha hmem, ← SearchArguments.get?_of_check hb hmem', heq]
      exact bounds_eq_of_expression_eq (hplain _ (List.mem_append_left _ hmem))
        (hplain _ (List.mem_append_right _ hmem')) hexpression
    have hstart := hsame "StartTime" _ _ (.head _) (.head _)
    have hcompletion := hsame "CompletionTime" _ _ (.tail _ (.head _)) (.tail _ (.head _))
    have hupdated := hsame "UpdatedTime" _ _ (.tail _ (.tail _ (.head _)))
      (.tail _ (.tail _ (.head _)))
    simp only [SearchArguments.dateBounds, SearchArguments.dateRanges, DateFilters.ranges,
      List.map_cons, List.map_nil, hstart, hcompletion, hupdated]

/-- A lower bound that passes for two, and two searches of which one has an upper bound that is
empty instead of none. -/
theorem dateBounds_told_of_forged :
    let range : DateRange := ⟨some "2024-01-01'<=[StartTime]<='2024-01-31", none⟩
    let other : DateRange := ⟨some "2024-01-01", some "2024-01-31"⟩
    let a : SearchArguments := { site := .int 1, dateFilters := some { startFrom := "2024-01-01" } }
    let b : SearchArguments :=
      { site := .int 2, dateFilters := some { startFrom := "2024-01-01", startTo := "" } }
    PassesFor "StartTime" range other ∧ ¬ HasPlainStart range ∧
      range.expression "StartTime" = other.expression "StartTime" ∧
      (∀ entry ∈ a.dateRanges ++ b.dateRanges, HasPlainStart entry.2) ∧
      ∃ query query', a.check = .ok (1, query) ∧ b.check = .ok (2, query') ∧
        query.columnExpressions = query'.columnExpressions ∧ a.dateBounds = b.dateBounds := by
  intro range other a b
  obtain ⟨hiff, hquote, hforged, hsearch⟩ := dateBounds_told
  have hpasses : PassesFor "StartTime" range other :=
    hforged "StartTime" "2024-01-01" "2024-01-31" (by decide) (by decide)
  have hplain : ∀ entry ∈ a.dateRanges ++ b.dateRanges, HasPlainStart entry.2 := by
    decide
  exact ⟨hpasses, hquote _ _ _ hpasses, (hiff _ _ _).2 (Or.inr (Or.inl hpasses)), hplain, _, _, rfl,
    rfl, rfl, hsearch a b (1, 2) _ _ rfl rfl hplain rfl⟩

/-- A lower bound asks for what two bounds ask for. -/
theorem dateBounds_forged :
    let range : DateRange := ⟨some "2024-01-01'<=[StartTime]<='2024-01-31", none⟩
    let other : DateRange := ⟨some "2024-01-01", some "2024-01-31"⟩
    range.expression "StartTime" = other.expression "StartTime" ∧ range.bounds ≠ other.bounds := by
  decide +kernel

end IssueGateway.Operation
