import IssueGateway.Proofs.Assoc
import IssueGateway.Query.Payload

/-!
# The expressions of all columns

An expression is made of clauses, one for each bound that is given. The map of expressions is built
by two loops, over date ranges and over number ranges. Both add what a range contributes to what
its column has already, so the map is one collection of all contributions in order: each column with
a bound stands where its first contribution comes, and holds its own clauses and no others
(`rangeExpressions_complete`).
-/

namespace IssueGateway.Query

/-- The clauses of date bounds, the lower one first; an empty text is no bound. -/
def DateRange.clauses (column : String) (range : DateRange) : List String :=
  ((filled range.first).map fun date => lowerClause column (quotedDate date)).toList ++
    ((filled range.last).map fun date => upperClause column (quotedDate date)).toList

/-- The clauses of numeric bounds, the lower one first; zero is a bound. -/
def NumberRange.clauses (column : String) (range : NumberRange) : List String :=
  (range.minimum.map fun bound => lowerClause column bound.written).toList ++
    (range.maximum.map fun bound => upperClause column bound.written).toList

theorem lowerClause_ne_empty (column value : String) : lowerClause column value ≠ "" := by
  rw [lowerClause, ← String.toList_inj.ne]
  simp

theorem upperClause_ne_empty (column value : String) : upperClause column value ≠ "" := by
  rw [upperClause, ← String.toList_inj.ne]
  simp

theorem DateRange.ne_empty_of_mem_clauses {column clause : String} {range : DateRange}
    (h : clause ∈ range.clauses column) : clause ≠ "" := by
  simp only [clauses, List.mem_append, Option.mem_toList, Option.map_eq_some_iff] at h
  rcases h with ⟨date, -, rfl⟩ | ⟨date, -, rfl⟩
  · exact lowerClause_ne_empty _ _
  · exact upperClause_ne_empty _ _

theorem NumberRange.ne_empty_of_mem_clauses {column clause : String} {range : NumberRange}
    (h : clause ∈ range.clauses column) : clause ≠ "" := by
  simp only [clauses, List.mem_append, Option.mem_toList, Option.map_eq_some_iff] at h
  rcases h with ⟨bound, -, rfl⟩ | ⟨bound, -, rfl⟩
  · exact lowerClause_ne_empty _ _
  · exact upperClause_ne_empty _ _

/-- Clauses one after the other, or nothing if there are none. -/
def joined (clauses : List String) : Option String :=
  if clauses = [] then none else some (String.join clauses)

theorem nonEmpty_join {clauses : List String} (h : ∀ clause ∈ clauses, clause ≠ "") :
    nonEmpty (String.join clauses) = joined clauses := by
  cases clauses with
  | nil => rfl
  | cons clause rest =>
    have hne : String.join (clause :: rest) ≠ "" := by
      rw [String.join_cons, ← String.toList_inj.ne, String.toList_append]
      simpa using fun hempty => absurd hempty (h clause List.mem_cons_self)
    rw [nonEmpty, if_neg (by simpa using hne), joined, if_neg (List.cons_ne_nil _ _)]

theorem dateClause_eq (clause : String → String → String) (column : String)
    (date : Option String) : dateClause clause column date =
      String.join ((filled date).map fun date => clause column (quotedDate date)).toList := by
  cases date with
  | none => rfl
  | some date =>
    rw [dateClause, filled]
    split
    · rfl
    · simp

theorem numberClause_eq (clause : String → String → String) (column : String)
    (bound : Option Bound) : numberClause clause column bound =
      String.join (bound.map fun bound => clause column bound.written).toList := by
  cases bound with
  | none => rfl
  | some bound => simp [numberClause]

theorem DateRange.expression_eq (column : String) (range : DateRange) :
    range.expression column = joined (range.clauses column) := by
  rw [← nonEmpty_join fun _ => ne_empty_of_mem_clauses, expression, dateClause_eq, dateClause_eq,
    ← String.join_append]
  rfl

theorem NumberRange.expression_eq (column : String) (range : NumberRange) :
    range.expression column = joined (range.clauses column) := by
  rw [← nonEmpty_join fun _ => ne_empty_of_mem_clauses, expression, numberClause_eq,
    numberClause_eq, ← String.join_append]
  rfl

theorem isSome_joined {clauses : List String} : (joined clauses).isSome ↔ clauses ≠ [] := by
  rw [joined]
  split <;> simp_all

theorem joined_of_ne_nil {clauses : List String} (h : clauses ≠ []) :
    joined clauses = some (String.join clauses) :=
  if_neg h

/-- Whether some date bound is given. -/
def DateRange.isBounded (range : DateRange) : Bool :=
  (filled range.first).isSome || (filled range.last).isSome

/-- Whether some numeric bound is given. -/
def NumberRange.isBounded (range : NumberRange) : Bool :=
  range.minimum.isSome || range.maximum.isSome

theorem DateRange.clauses_ne_nil_iff (column : String) (range : DateRange) :
    range.clauses column ≠ [] ↔ range.isBounded = true := by
  rw [clauses, isBounded]
  cases filled range.first <;> cases filled range.last <;> simp

theorem NumberRange.clauses_ne_nil_iff (column : String) (range : NumberRange) :
    range.clauses column ≠ [] ↔ range.isBounded = true := by
  rw [clauses, isBounded]
  cases range.minimum <;> cases range.maximum <;> simp

theorem DateRange.isSome_expression (column : String) (range : DateRange) :
    (range.expression column).isSome = range.isBounded := by
  rw [Bool.eq_iff_iff, expression_eq, isSome_joined, clauses_ne_nil_iff]

theorem NumberRange.isSome_expression (column : String) (range : NumberRange) :
    (range.expression column).isSome = range.isBounded := by
  rw [Bool.eq_iff_iff, expression_eq, isSome_joined, clauses_ne_nil_iff]

/-- Clauses may be joined in two parts. -/
theorem joined_append (first second : List String) :
    joined (first ++ second) = joined ((joined first).toList ++ (joined second).toList) := by
  cases first <;> cases second <;> simp [joined, String.append_assoc]

section Contributions

variable {ρ : Type} (express : String → ρ → Option String)

/-- What an entry of a map of ranges contributes to the expressions. -/
def contribution (entry : String × ρ) : Option (String × String) :=
  (express entry.1 entry.2).map fun expression => (entry.1, expression)

/-- Puts a contribution behind what its column has. -/
def contribute (expressions : Assoc String String) (part : String × String) :
    Assoc String String :=
  Assoc.update expressions part.1 fun old => old.getD "" ++ part.2

theorem foldl_addExpression (ranges : Assoc String ρ) (expressions : Assoc String String) :
    ranges.foldl (fun acc (column, range) => addExpression acc column (express column range))
      expressions = (ranges.filterMap (contribution express)).foldl contribute expressions := by
  rw [List.foldl_filterMap]
  refine List.foldl_ext _ _ _ fun acc entry _ => ?_
  rw [contribution]
  cases hexpress : express entry.1 entry.2 with
  | none => simp [hexpress, addExpression]
  | some expression => simp [hexpress, addExpression, contribute]

/-- The columns of a map whose ranges have a bound, in order. -/
def boundedBy (isBounded : ρ → Bool) (ranges : Assoc String ρ) : List String :=
  Assoc.keys (ranges.filter fun entry => isBounded entry.2)

theorem nodup_boundedBy (isBounded : ρ → Bool) {ranges : Assoc String ρ}
    (hdistinct : ranges.keys.Nodup) : (boundedBy isBounded ranges).Nodup :=
  (List.filter_sublist.map Prod.fst).nodup hdistinct

theorem keys_contributions {isBounded : ρ → Bool}
    (hsome : ∀ column range, (express column range).isSome = isBounded range)
    (ranges : Assoc String ρ) :
    Assoc.keys (ranges.filterMap (contribution express)) = boundedBy isBounded ranges := by
  rw [boundedBy, Assoc.keys, Assoc.keys, List.map_filterMap, ← List.filterMap_eq_filter,
    List.map_filterMap]
  refine List.filterMap_congr fun entry _ => ?_
  rw [contribution, Option.guard, ← hsome entry.1]
  cases express entry.1 entry.2 <;> rfl

/-- In a map with distinct columns each column contributes its own expression. -/
theorem filter_contributions {ranges : Assoc String ρ} (hdistinct : ranges.keys.Nodup)
    (column : String) :
    ((ranges.filterMap (contribution express)).filter (·.1 == column)).map Prod.snd =
      ((ranges.get? column).bind (express column)).toList := by
  have hown : ((ranges.filterMap (contribution express)).filter (·.1 == column)).map Prod.snd =
      (ranges.filter (·.1 == column)).filterMap fun entry => express column entry.2 := by
    rw [List.filter_filterMap, List.map_filterMap, List.filterMap_filter]
    refine List.filterMap_congr fun entry _ => ?_
    rw [contribution]
    by_cases hkey : entry.1 = column
    · subst hkey
      cases express entry.1 entry.2 <;> simp
    · cases express entry.1 entry.2 <;> simp [hkey]
  rw [hown, Assoc.filter_key hdistinct]
  cases ranges.get? column with
  | none => rfl
  | some range => cases hexpress : express column range <;> simp [hexpress]

end Contributions

/-- The clauses of a column: those of its dates, then those of its numbers. -/
def clausesOf (dates : Assoc String DateRange) (numbers : Assoc String NumberRange)
    (column : String) : List String :=
  ((dates.get? column).getD {}).clauses column ++ ((numbers.get? column).getD {}).clauses column

/-- All contributions, those of dates before those of numbers. -/
def allContributions (dates : Assoc String DateRange) (numbers : Assoc String NumberRange) :
    Assoc String String :=
  dates.filterMap (contribution fun column range => range.expression column) ++
    numbers.filterMap (contribution fun column range => range.expression column)

theorem clausesOf_ne_nil_iff (dates : Assoc String DateRange) (numbers : Assoc String NumberRange)
    (column : String) : clausesOf dates numbers column ≠ [] ↔
      (∃ range, dates.get? column = some range ∧ range.isBounded) ∨
        ∃ range, numbers.get? column = some range ∧ range.isBounded := by
  rw [clausesOf, Ne, List.append_eq_nil_iff, not_and_or]
  refine or_congr ?_ ?_
  · rw [← Ne, DateRange.clauses_ne_nil_iff]
    cases dates.get? column <;> simp [DateRange.isBounded, filled]
  · rw [← Ne, NumberRange.clauses_ne_nil_iff]
    cases numbers.get? column <;> simp [NumberRange.isBounded]

theorem rangeExpressions_eq (dates : Assoc String DateRange) (numbers : Assoc String NumberRange) :
    rangeExpressions dates numbers = (allContributions dates numbers).foldl contribute [] := by
  rw [rangeExpressions, foldl_addExpression fun column (range : DateRange) =>
    range.expression column, foldl_addExpression fun column (range : NumberRange) =>
    range.expression column, ← List.foldl_append]
  rfl

/-- What some contributions to a column leave in it. -/
theorem foldl_parts (parts : List (String × String)) :
    parts.foldl (fun (held : Option String) part => some (held.getD "" ++ part.2)) none =
      joined (parts.map Prod.snd) := by
  induction parts using List.reverseRecOn with
  | nil => rfl
  | append_singleton parts part ih =>
    rw [List.foldl_append, List.foldl_cons, List.foldl_nil, ih]
    cases parts <;> simp [joined, String.join_append, String.append_assoc]

section Distinct

variable {dates : Assoc String DateRange} {numbers : Assoc String NumberRange}
  (hdates : dates.keys.Nodup) (hnumbers : numbers.keys.Nodup)

include hdates hnumbers

/-- A column holds its own clauses, whatever the other columns hold. -/
theorem get?_rangeExpressions (column : String) :
    (rangeExpressions dates numbers).get? column = joined (clausesOf dates numbers column) := by
  have hdate : ((dates.get? column).bind fun range => range.expression column) =
      joined (((dates.get? column).getD {}).clauses column) := by
    cases dates.get? column with
    | none => rfl
    | some range => exact range.expression_eq column
  have hnumber : ((numbers.get? column).bind fun range => range.expression column) =
      joined (((numbers.get? column).getD {}).clauses column) := by
    cases numbers.get? column with
    | none => rfl
    | some range => exact range.expression_eq column
  have hcollected := Assoc.get?_foldl_update Prod.fst
    (fun old (part : String × String) => old.getD "" ++ part.2)
    (allContributions dates numbers) column
  rw [rangeExpressions_eq, clausesOf, joined_append, ← hdate, ← hnumber,
    ← filter_contributions (fun column (range : DateRange) => range.expression column) hdates,
    ← filter_contributions (fun column (range : NumberRange) => range.expression column) hnumbers,
    ← List.map_append, ← List.filter_append, ← foldl_parts]
  exact hcollected

/-- Columns stand in the order in which they first have a bound. -/
theorem keys_rangeExpressions : (rangeExpressions dates numbers).keys =
    (boundedBy DateRange.isBounded dates) ++
      (boundedBy NumberRange.isBounded numbers).removeAll
        (boundedBy DateRange.isBounded dates) := by
  have hcollected := Assoc.keys_foldl_update Prod.fst
    (fun old (part : String × String) => old.getD "" ++ part.2) (allContributions dates numbers)
  have hdate := keys_contributions _ DateRange.isSome_expression dates
  have hnumber := keys_contributions _ NumberRange.isSome_expression numbers
  rw [rangeExpressions_eq]
  refine hcollected.trans ?_
  rw [allContributions, List.map_append]
  change (Assoc.keys _ ++ Assoc.keys _).eraseDups = _
  rw [hdate, hnumber, List.eraseDups_append,
    eraseDups_of_nodup (nodup_boundedBy _ hdates), eraseDups_of_nodup]
  exact List.filter_sublist.nodup (nodup_boundedBy _ hnumbers)

end Distinct

/-- Expressions that render the ranges of their columns: the columns with a bound, in the order in
which they first have one, each with its clauses, dates before numbers. -/
structure Renders (dates : Assoc String DateRange) (numbers : Assoc String NumberRange)
    (expressions : Assoc String String) : Prop where
  keys_eq : expressions.keys = boundedBy DateRange.isBounded dates ++
    (boundedBy NumberRange.isBounded numbers).removeAll (boundedBy DateRange.isBounded dates)
  keys_nodup : expressions.keys.Nodup
  mem_keys_iff : ∀ column, column ∈ expressions.keys ↔
    (∃ range, dates.get? column = some range ∧ range.isBounded) ∨
      ∃ range, numbers.get? column = some range ∧ range.isBounded
  get?_eq : ∀ column ∈ expressions.keys,
    expressions.get? column = some (String.join (clausesOf dates numbers column))

/-- The map of expressions renders both maps of ranges, and a column's expression depends on the
ranges of this column alone. A map that is not given is the empty one. -/
theorem rangeExpressions_complete {dates : Assoc String DateRange}
    {numbers : Assoc String NumberRange} (hdates : dates.keys.Nodup)
    (hnumbers : numbers.keys.Nodup) :
    Renders dates numbers (rangeExpressions dates numbers) ∧
      ∀ (dates' : Assoc String DateRange) (numbers' : Assoc String NumberRange) (column : String),
        dates'.keys.Nodup → numbers'.keys.Nodup → dates'.get? column = dates.get? column →
        numbers'.get? column = numbers.get? column →
        (rangeExpressions dates' numbers').get? column =
          (rangeExpressions dates numbers).get? column := by
  have hget := get?_rangeExpressions hdates hnumbers
  have hkeys := keys_rangeExpressions hdates hnumbers
  constructor
  · refine
      { keys_eq := hkeys
        keys_nodup := ?_
        mem_keys_iff := fun column => ?_
        get?_eq := fun column hmem => ?_ }
    · rw [hkeys]
      refine List.nodup_append.2 ⟨nodup_boundedBy _ hdates,
        List.filter_sublist.nodup (nodup_boundedBy _ hnumbers), ?_⟩
      rintro column hdate _ hnumber rfl
      simpa [hdate] using (List.mem_filter.1 hnumber).2
    · rw [Assoc.mem_keys_iff, hget, isSome_joined, clausesOf_ne_nil_iff]
    · rw [Assoc.mem_keys_iff, hget, isSome_joined] at hmem
      rw [hget, joined_of_ne_nil hmem]
  · intro dates' numbers' column hdates' hnumbers' hdate hnumber
    rw [get?_rangeExpressions hdates' hnumbers', hget, clausesOf, clausesOf, hdate, hnumber]

/-- A column with a date and a number, one whose only date is empty, and one with zero as its bound;
without the dates of the first the third stays. -/
theorem rangeExpressions_complete_shared_column :
    let dates : Assoc String DateRange :=
      [("StartTime", ⟨some "2024-01-01", none⟩), ("UpdatedTime", ⟨some "", none⟩)]
    let numbers : Assoc String NumberRange :=
      [("WorkValue", ⟨some (.number (.int 0)), none⟩),
        ("StartTime", ⟨none, some (.number (.float 5.0))⟩)]
    dates.keys.Nodup ∧ numbers.keys.Nodup ∧
      Renders dates numbers (rangeExpressions dates numbers) ∧
      rangeExpressions dates numbers =
        [("StartTime", ">=[StartTime]>='2024-01-01'<=[StartTime]<=5"),
          ("WorkValue", ">=[WorkValue]>=0")] ∧
      (rangeExpressions [] numbers).get? "WorkValue" =
        (rangeExpressions dates numbers).get? "WorkValue" := by
  intro dates numbers
  have hdates : dates.keys.Nodup := by decide
  have hnumbers : numbers.keys.Nodup := by decide
  obtain ⟨hrenders, hlocal⟩ := rangeExpressions_complete hdates hnumbers
  exact ⟨hdates, hnumbers, hrenders, by decide +kernel,
    hlocal [] numbers "WorkValue" List.nodup_nil hnumbers rfl rfl⟩

end IssueGateway.Query
