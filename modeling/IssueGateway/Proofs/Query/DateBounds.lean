import IssueGateway.Proofs.Query.Expressions

/-!
# What the expression of dates tells of its bounds

The date of a lower bound ends at the first quote, if it has no quote itself; so an expression tells
both bounds. A date that has one can go on past it as the expression of other bounds does: one range
then passes for another (`PassesFor`), and in no other way do two ranges have one expression
(`DateRange.expression_eq_iff`).
-/

namespace IssueGateway.Query

/-- The bounds that a range gives. -/
def DateRange.bounds (range : DateRange) : Option String × Option String :=
  (filled range.first, filled range.last)

/-- What stands behind the date of a lower bound: its closing quote, then the clause of the upper
bound if there is one. -/
def closing (column : String) : Option String → String
  | none => "'"
  | some date => "'" ++ upperClause column (quotedDate date)

/-- A range passes for another if its lower bound is that of the other and goes on past it with what
the expression of the other has there. -/
def PassesFor (column : String) (range other : DateRange) : Prop :=
  ∃ start more, more ≠ "" ∧ filled other.first = some start ∧
    filled range.first = some (start ++ more) ∧
    closing column (filled other.last) = more ++ closing column (filled range.last)

theorem append_eq_append_iff {s t u v : String} :
    s ++ t = u ++ v ↔ (∃ w, u = s ++ w ∧ t = w ++ v) ∨ ∃ w, s = u ++ w ∧ v = w ++ t := by
  have hlist (a b : String) (w : List Char) :
      a.toList = b.toList ++ w ↔ a = b ++ String.ofList w := by
    rw [← String.toList_inj, String.toList_append, String.toList_ofList]
  have hback (a b : String) (w : List Char) :
      a.toList = w ++ b.toList ↔ a = String.ofList w ++ b := by
    rw [← String.toList_inj, String.toList_append, String.toList_ofList]
  rw [← String.toList_inj, String.toList_append, String.toList_append, List.append_eq_append_iff]
  simp only [hlist, hback]
  constructor
  · rintro (⟨w, h⟩ | ⟨w, h⟩)
    · exact Or.inl ⟨_, h⟩
    · exact Or.inr ⟨_, h⟩
  · rintro (⟨w, h⟩ | ⟨w, h⟩)
    · exact Or.inl ⟨w.toList, by rwa [String.ofList_toList]⟩
    · exact Or.inr ⟨w.toList, by rwa [String.ofList_toList]⟩

theorem quotedDate_injective : Function.Injective quotedDate := fun date other h => by
  rwa [quotedDate, quotedDate, String.append_left_inj, String.append_right_inj] at h

theorem upperClause_injective (column : String) : Function.Injective (upperClause column) :=
  fun _ _ h => (String.append_right_inj _).1 h

theorem closing_injective (column : String) : Function.Injective (closing column) := by
  have hnone (date : String) : closing column none ≠ closing column (some date) := by
    intro h
    have hempty : "'" ++ "" = "'" ++ upperClause column (quotedDate date) := h
    exact upperClause_ne_empty _ _ ((String.append_right_inj _).1 hempty).symm
  intro last other h
  cases last with
  | none =>
    cases other with
    | none => rfl
    | some date => exact absurd h (hnone date)
  | some date =>
    cases other with
    | none => exact absurd h.symm (hnone date)
    | some date' =>
      have hclause := (String.append_right_inj _).1 h
      rw [quotedDate_injective (upperClause_injective column hclause)]

/-- What stands before the date of a lower bound. -/
def opening (column : String) : String :=
  ">=[" ++ column ++ "]>=" ++ "'"

theorem lowerClause_quotedDate (column date : String) :
    lowerClause column (quotedDate date) = opening column ++ (date ++ "'") := by
  simp only [lowerClause, quotedDate, opening, String.append_assoc]

namespace DateRange

variable {column : String} {range other : DateRange}

theorem expression_of_first {start : String} (h : filled range.first = some start) :
    range.expression column =
      some (opening column ++ (start ++ closing column (filled range.last))) := by
  rw [expression_eq, clauses, h]
  cases filled range.last <;> simp [joined, closing, lowerClause_quotedDate, String.append_assoc]

theorem expression_of_no_first (h : filled range.first = none) :
    range.expression column =
      (filled range.last).map fun date => upperClause column (quotedDate date) := by
  rw [expression_eq, clauses, h]
  cases filled range.last <;> simp [joined]

/-- Whether there is a lower bound shows in the first character. -/
theorem expression_ne_of_first {start : String} (h : filled range.first = some start)
    (hother : filled other.first = none) :
    range.expression column ≠ other.expression column := by
  rw [expression_of_first h, expression_of_no_first hother]
  intro heq
  obtain ⟨date, -, htext⟩ := Option.map_eq_some_iff.1 heq.symm
  have hfirst := congrArg (fun s => s.toList.head?) htext
  simp [upperClause, opening] at hfirst

theorem expression_eq_iff_of_no_first (h : filled range.first = none)
    (hother : filled other.first = none) :
    range.expression column = other.expression column ↔ range.bounds = other.bounds := by
  have hinjective : Function.Injective fun date => upperClause column (quotedDate date) :=
    (upperClause_injective column).comp quotedDate_injective
  rw [expression_of_no_first h, expression_of_no_first hother,
    (Option.map_injective hinjective).eq_iff, bounds, bounds, h, hother, Prod.mk.injEq]
  exact (and_iff_right rfl).symm

/-- Of two dates that begin their lower bounds' clauses alike, one begins the other. -/
theorem expression_eq_iff_of_first {start start' : String} (h : filled range.first = some start)
    (hother : filled other.first = some start') :
    range.expression column = other.expression column ↔
      range.bounds = other.bounds ∨ PassesFor column range other ∨
        PassesFor column other range := by
  have hpasses : ∀ {range other : DateRange} {start start' : String},
      filled range.first = some start → filled other.first = some start' →
      (PassesFor column range other ↔ ∃ more, more ≠ "" ∧ start = start' ++ more ∧
        closing column (filled other.last) = more ++ closing column (filled range.last)) := by
    intro range other start start' h hother
    rw [PassesFor, h, hother]
    constructor
    · rintro ⟨_, more, hmore, ⟨⟩, ⟨⟩, hclosing⟩
      exact ⟨more, hmore, rfl, hclosing⟩
    · rintro ⟨more, hmore, rfl, hclosing⟩
      exact ⟨_, more, hmore, rfl, rfl, hclosing⟩
  rw [expression_of_first h, expression_of_first hother, Option.some_inj,
    String.append_right_inj, append_eq_append_iff, hpasses h hother, hpasses hother h, bounds,
    bounds, h, hother, Prod.mk.injEq, Option.some_inj]
  constructor
  · rintro (⟨more, hstart, hclosing⟩ | ⟨more, hstart, hclosing⟩)
    · by_cases hmore : more = ""
      · subst hmore
        rw [String.append_empty] at hstart
        rw [String.empty_append] at hclosing
        exact Or.inl ⟨hstart.symm, closing_injective column hclosing⟩
      · exact Or.inr (Or.inr ⟨more, hmore, hstart, hclosing⟩)
    · by_cases hmore : more = ""
      · subst hmore
        rw [String.append_empty] at hstart
        rw [String.empty_append] at hclosing
        exact Or.inl ⟨hstart, (closing_injective column hclosing).symm⟩
      · exact Or.inr (Or.inl ⟨more, hmore, hstart, hclosing⟩)
  · rintro (⟨rfl, hlast⟩ | ⟨more, -, hstart, hclosing⟩ | ⟨more, -, hstart, hclosing⟩)
    · exact Or.inl ⟨"", by rw [String.append_empty], by rw [hlast, String.empty_append]⟩
    · exact Or.inr ⟨more, hstart, hclosing⟩
    · exact Or.inl ⟨more, hstart, hclosing⟩

/-- Two ranges of a column have one expression only if they have the same bounds or one of them
passes for the other. -/
theorem expression_eq_iff (column : String) (range other : DateRange) :
    range.expression column = other.expression column ↔
      range.bounds = other.bounds ∨ PassesFor column range other ∨
        PassesFor column other range := by
  cases h : filled range.first with
  | none =>
    cases hother : filled other.first with
    | none =>
      rw [expression_eq_iff_of_no_first h hother, PassesFor, PassesFor, h, hother]
      simp
    | some start' =>
      refine iff_of_false (expression_ne_of_first hother h).symm ?_
      rw [PassesFor, PassesFor, bounds, bounds, h, hother]
      simp
  | some start =>
    cases hother : filled other.first with
    | none =>
      refine iff_of_false (expression_ne_of_first h hother) ?_
      rw [PassesFor, PassesFor, bounds, bounds, h, hother]
      simp
    | some start' => exact expression_eq_iff_of_first h hother

end DateRange

theorem filled_of_ne_empty {s : String} (h : s ≠ "") : filled (some s) = some s := by
  rw [filled, if_neg (by simpa using h)]

theorem eq_of_filled {text? : Option String} {s : String} (h : filled text? = some s) :
    text? = some s := by
  cases text? with
  | none => cases h
  | some t =>
    rw [filled] at h
    split at h
    · cases h
    · exact h

/-- A range passes for another only with a quote in its lower bound. -/
theorem PassesFor.quote_mem {column : String} {range other : DateRange}
    (h : PassesFor column range other) :
    ∃ start, range.first = some start ∧ '\'' ∈ start.toList := by
  obtain ⟨start, more, hmore, -, hrange, hclosing⟩ := h
  refine ⟨_, eq_of_filled hrange, ?_⟩
  have hquote : (closing column (filled other.last)).toList.head? = some '\'' := by
    cases filled other.last <;> simp [closing]
  have hnonempty : more.toList ≠ [] := by simpa using hmore
  rw [hclosing, String.toList_append, List.head?_append_of_ne_nil _ hnonempty] at hquote
  rw [String.toList_append]
  exact List.mem_append_right _ (List.mem_of_mem_head? hquote)

/-- Any two bounds of a column can be written as one lower bound that passes for them. -/
theorem passesFor_of_clauses (column : String) {first last : String} (hfirst : first ≠ "")
    (hlast : last ≠ "") :
    PassesFor column ⟨some (first ++ ("'" ++ upperClause column ("'" ++ last))), none⟩
      ⟨some first, some last⟩ := by
  have hmore : "'" ++ upperClause column ("'" ++ last) ≠ "" := by
    rw [← String.toList_inj.ne]
    simp
  have hstart : first ++ ("'" ++ upperClause column ("'" ++ last)) ≠ "" := by
    rw [← String.toList_inj.ne] at hfirst ⊢
    simp_all
  refine ⟨first, "'" ++ upperClause column ("'" ++ last), hmore, filled_of_ne_empty hfirst,
    filled_of_ne_empty hstart, ?_⟩
  rw [filled_of_ne_empty hlast, filled, closing, closing, upperClause, upperClause, quotedDate]
  simp only [String.append_assoc]

end IssueGateway.Query
