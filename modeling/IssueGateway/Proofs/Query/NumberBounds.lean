import IssueGateway.Proofs.Json.Text
import IssueGateway.Proofs.Number.Numeral
import IssueGateway.Proofs.Query.DateBounds

/-!
# What the expression of numbers tells of its bounds

A whole number is written with its digits, whether it is an integer or a double, and any other
double with a numeral that reads back as it. So finite numbers are written alike just if they are
equal (`wholeOrShortest_eq_iff`). No numeral has the character in it that begins an upper clause, so
an expression tells both bounds, whatever the name of its column is (`numberBounds_told`).
-/

namespace IssueGateway

namespace Number

open Text

/-- Whether a number is an integer or a finite double. -/
def isFinite : Number → Bool
  | .int _ => true
  | .float x => (finite? x).isSome

/-- A double is whole if it equals an integer. -/
theorem whole?_eq_some_iff {x : Float} {z : Int} :
    whole? x = some z ↔ equals (.float x) (.int z) = true := by
  rw [whole?, equals]
  cases hx : finite? x with
  | none => simp
  | some b =>
    simp only [Option.bind_some, beq_iff_eq, Binary.denominator, Binary.numerator]
    by_cases he : 0 ≤ b.exponent
    · simp only [if_pos he, Option.bind_eq_bind, Option.bind_some, Option.pure_def,
        Option.map_some, Option.some_inj, Nat.cast_one, mul_one]
      exact eq_comm
    · simp only [if_neg he]
      have hunit : Nat.pow 2 (-b.exponent).toNat ≠ 0 := (Nat.two_pow_pos _).ne'
      generalize Nat.pow 2 (-b.exponent).toNat = unit at hunit ⊢
      have habs : (if b.negative then -(b.significand : Int) else b.significand).natAbs =
          b.significand := by
        split <;> simp
      by_cases hdvd : b.significand % unit = 0
      · obtain ⟨k, hk⟩ := Nat.dvd_of_mod_eq_zero hdvd
        have hcancel (y : Int) : y = z ↔ z * unit = unit * y := by
          rw [mul_comm z, mul_right_inj' (by exact_mod_cast hunit), eq_comm]
        rw [if_pos hdvd, hk, Nat.mul_div_cancel_left _ (Nat.pos_of_ne_zero hunit)]
        simp only [Option.bind_eq_bind, Option.bind_some, Option.pure_def, Option.map_some,
          Option.some_inj, hcancel]
        split <;> simp
      · rw [if_neg hdvd]
        refine iff_of_false (by simp) fun h => hdvd ?_
        rw [← habs, ← h, Int.natAbs_mul, Int.natAbs_natCast]
        exact Nat.mul_mod_left _ _

theorem value?_eq_int_iff {n : Number} {z : Int} :
    n.value? = some (.rational z) ↔ n.equals (.int z) = true := by
  rw [equals_iff]
  exact ⟨fun h => ⟨_, h, rfl⟩, fun ⟨_, hn, hz⟩ => hn.trans hz.symm⟩

/-- Numerals tell finite doubles apart that are not whole. -/
theorem numeral_eq_iff {x y : Float} {b c : Binary} (hx : finite? x = some b)
    (hy : finite? y = some c) (hwhole : whole? x = none) :
    numeral x = numeral y ↔ equals (.float x) (.float y) = true := by
  have hb : b.Normal := binaryOf_normal (finite?_eq x ▸ hx)
  have hc : c.Normal := binaryOf_normal (finite?_eq y ▸ hy)
  have hpos : 0 < b.significand := by
    refine Nat.pos_of_ne_zero fun hzero => ?_
    have hvalue : value? (.float x) = some (.rational (0 : Int)) := by
      rw [value?_float_of_finite? hx, Binary.toRat_eq_zero.2 hzero, Int.cast_zero]
    rw [whole?_eq_some_iff.2 (value?_eq_int_iff.1 hvalue)] at hwhole
    cases hwhole
  have hequals : equals (.float x) (.float y) = true ↔ b.toRat = c.toRat := by
    rw [equals_iff, value?_float_of_finite? hx, value?_float_of_finite? hy]
    simp [eq_comm]
  rw [hequals, numeral, numeral, hx, hy, String.ofList_inj]
  exact ⟨hb.toRat_eq_of_numeral_eq hc, fun h => congrArg _ (hb.eq_of_toRat_eq hc hpos h)⟩

theorem lessThan_not_mem_numeral (x : Float) : '<' ∉ (numeral x).toList := by
  rw [numeral]
  cases finite? x with
  | none =>
    simp only
    split
    · decide
    · split <;> decide
  | some b =>
    simp only [String.toList_ofList]
    exact b.not_mem_numeral rfl (by decide)

end Number

namespace Query

open Number

/-- A number is written with the digits of the integer that it equals. -/
theorem wholeOrShortest_of_equals {n : Number} {z : Int} (h : n.equals (.int z) = true) :
    wholeOrShortest n = String.ofList (Text.integer z) := by
  cases n with
  | int m =>
    obtain rfl : m = z := by simpa [equals] using h
    rfl
  | float x => rw [wholeOrShortest, whole?_eq_some_iff.2 h]

/-- A number that equals no integer is a double and written with its numeral. -/
theorem exists_float_of_not_whole {n : Number} (h : ¬ ∃ z : Int, n.equals (.int z) = true) :
    ∃ x, n = .float x ∧ whole? x = none ∧ wholeOrShortest n = numeral x := by
  cases n with
  | int m => exact absurd ⟨m, by simp [equals]⟩ h
  | float x =>
    have hwhole : whole? x = none := by
      rw [Option.eq_none_iff_forall_ne_some]
      exact fun z hz => h ⟨z, whole?_eq_some_iff.1 hz⟩
    exact ⟨x, rfl, hwhole, by rw [wholeOrShortest, hwhole]⟩

theorem wholeOrShortest_ne_of_whole {m n : Number} {z : Int} (hm : m.equals (.int z) = true)
    (hn : ¬ ∃ z : Int, n.equals (.int z) = true) :
    wholeOrShortest m ≠ wholeOrShortest n ∧ ¬ m.equals n = true := by
  obtain ⟨y, rfl, -, hwritten⟩ := exists_float_of_not_whole hn
  constructor
  · rw [wholeOrShortest_of_equals hm, hwritten]
    obtain ⟨c, hc, hother⟩ := exists_mem_numeral y
    exact (Json.ne_integer_of_mem hc hother z).symm
  · intro hequals
    obtain ⟨w, hmw, hyw⟩ := (equals_iff _ _).1 hequals
    rw [value?_eq_int_iff.2 hm] at hmw
    exact hn ⟨z, value?_eq_int_iff.1 (hyw.trans hmw.symm)⟩

/-- Finite numbers are written alike just if they are equal. -/
theorem wholeOrShortest_eq_iff {m n : Number} (hm : m.isFinite = true) (hn : n.isFinite = true) :
    wholeOrShortest m = wholeOrShortest n ↔ m.equals n = true := by
  by_cases hmwhole : ∃ z : Int, m.equals (.int z) = true
  · obtain ⟨z, hz⟩ := hmwhole
    by_cases hnwhole : ∃ z : Int, n.equals (.int z) = true
    · obtain ⟨w, hw⟩ := hnwhole
      rw [wholeOrShortest_of_equals hz, wholeOrShortest_of_equals hw, String.ofList_inj,
        Text.integer_injective.eq_iff, equals_iff, value?_eq_int_iff.2 hz, value?_eq_int_iff.2 hw]
      simp [eq_comm]
    · obtain ⟨htext, hequals⟩ := wholeOrShortest_ne_of_whole hz hnwhole
      exact iff_of_false htext hequals
  · by_cases hnwhole : ∃ z : Int, n.equals (.int z) = true
    · obtain ⟨w, hw⟩ := hnwhole
      obtain ⟨htext, hequals⟩ := wholeOrShortest_ne_of_whole hw hmwhole
      exact iff_of_false htext.symm fun h => hequals (equals_comm.1 h)
    · obtain ⟨x, rfl, hx, hxwritten⟩ := exists_float_of_not_whole hmwhole
      obtain ⟨y, rfl, -, hywritten⟩ := exists_float_of_not_whole hnwhole
      obtain ⟨b, hb⟩ := Option.isSome_iff_exists.1 hm
      obtain ⟨c, hc⟩ := Option.isSome_iff_exists.1 hn
      rw [hxwritten, hywritten, numeral_eq_iff hb hc hx]

theorem lessThan_not_mem_wholeOrShortest (n : Number) : '<' ∉ (wholeOrShortest n).toList := by
  have hinteger (z : Int) : '<' ∉ (String.ofList (Text.integer z)).toList := fun h => by
    rw [String.toList_ofList] at h
    cases Text.isNumeralChar_of_mem_integer h
  by_cases hwhole : ∃ z : Int, n.equals (.int z) = true
  · obtain ⟨z, hz⟩ := hwhole
    rw [wholeOrShortest_of_equals hz]
    exact hinteger z
  · obtain ⟨x, -, -, hwritten⟩ := exists_float_of_not_whole hwhole
    rw [hwritten]
    exact lessThan_not_mem_numeral x

theorem nonEmpty_injective : Function.Injective nonEmpty := by
  have hnone {s : String} (h : s.isEmpty) : s = "" := by simpa using h
  intro s t h
  rw [nonEmpty, nonEmpty] at h
  split at h <;> split at h
  · rename_i hs ht
    rw [hnone hs, hnone ht]
  · cases h
  · cases h
  · exact Option.some.inj h

theorem numberClause_upper_eq_iff {column : String} {last last' : Option Bound} :
    numberClause upperClause column last = numberClause upperClause column last' ↔
      last.map Bound.written = last'.map Bound.written := by
  have hne (bound : Bound) : upperClause column bound.written ≠ "" := upperClause_ne_empty _ _
  cases last <;> cases last' <;>
    simp [numberClause, hne, (hne _).symm, (upperClause_injective column).eq_iff]

/-- A text without the character that begins an upper clause ends where the clause begins. -/
theorem append_numberClause_eq_iff {column text text' : String} {last last' : Option Bound}
    (htext : '<' ∉ text.toList) (htext' : '<' ∉ text'.toList) :
    text ++ numberClause upperClause column last = text' ++ numberClause upperClause column last' ↔
      text = text' ∧ last.map Bound.written = last'.map Bound.written := by
  have hfront {text : String} (h : '<' ∉ text.toList) (last : Option Bound) :
      (text ++ numberClause upperClause column last).toList.takeWhile (· != '<') = text.toList := by
    rw [String.toList_append]
    cases last with
    | none =>
      change (text.toList ++ []).takeWhile _ = _
      rw [List.append_nil, takeWhile_none h]
    | some bound =>
      obtain ⟨rest, hrest⟩ : ∃ rest, (upperClause column bound.written).toList = '<' :: rest := by
        simp [upperClause]
      rw [numberClause, hrest, takeWhile_until h]
  constructor
  · intro h
    have hsame := congrArg (fun s => s.toList.takeWhile (· != '<')) h
    simp only [hfront htext, hfront htext'] at hsame
    obtain rfl := String.toList_inj.1 hsame
    exact ⟨rfl, numberClause_upper_eq_iff.1 ((String.append_right_inj _).1 h)⟩
  · rintro ⟨rfl, h⟩
    rw [numberClause_upper_eq_iff.2 h]

/-- Whether there is a lower bound shows in the first character. -/
theorem lowerClause_append_ne {column text rest : String} {last : Option Bound} :
    lowerClause column text ++ rest ≠ numberClause upperClause column last := by
  intro h
  have hfirst := congrArg (fun s => s.toList.head?) h
  cases last <;> simp [lowerClause, numberClause, upperClause] at hfirst

/-- Ranges have one expression just if their bounds are written alike, unless a lower bound does not
end where an upper clause begins. -/
theorem NumberRange.expression_eq_iff {column : String} {range other : NumberRange}
    (h : ∀ bound ∈ range.minimum, '<' ∉ bound.written.toList)
    (hother : ∀ bound ∈ other.minimum, '<' ∉ bound.written.toList) :
    range.expression column = other.expression column ↔
      range.minimum.map Bound.written = other.minimum.map Bound.written ∧
        range.maximum.map Bound.written = other.maximum.map Bound.written := by
  rw [expression, expression, nonEmpty_injective.eq_iff]
  cases hminimum : range.minimum with
  | none =>
    cases hminimum' : other.minimum with
    | none =>
      simp only [numberClause, String.empty_append, true_and, Option.map_none]
      exact numberClause_upper_eq_iff
    | some bound =>
      simp only [numberClause, String.empty_append]
      exact iff_of_false lowerClause_append_ne.symm (by simp)
  | some bound =>
    cases hminimum' : other.minimum with
    | none =>
      simp only [numberClause, String.empty_append]
      exact iff_of_false lowerClause_append_ne (by simp)
    | some bound' =>
      have hclause (text rest : String) : lowerClause column text ++ rest =
          ">=[" ++ column ++ "]>=" ++ (text ++ rest) := String.append_assoc
      rw [numberClause, numberClause, hclause, hclause, String.append_right_inj,
        append_numberClause_eq_iff (h bound hminimum) (hother bound' hminimum'), Option.map_some,
        Option.map_some, Option.some_inj]

/-- The bounds of a range are integers or finite doubles. -/
def NumberRange.IsFinite (range : NumberRange) : Prop :=
  (∀ bound ∈ range.minimum, ∃ n : Number, bound = .number n ∧ n.isFinite = true) ∧
    ∀ bound ∈ range.maximum, ∃ n : Number, bound = .number n ∧ n.isFinite = true

/-- Two bounds are both none or numerically equal. -/
inductive SameBound : Option Bound → Option Bound → Prop where
  | none : SameBound none none
  | number (m n : Number) (h : m.equals n = true) :
    SameBound (some (.number m)) (some (.number n))

theorem sameBound_iff {bound other : Option Bound}
    (h : ∀ b ∈ bound, ∃ n : Number, b = .number n ∧ n.isFinite = true)
    (hother : ∀ b ∈ other, ∃ n : Number, b = .number n ∧ n.isFinite = true) :
    bound.map Bound.written = other.map Bound.written ↔ SameBound bound other := by
  cases bound with
  | none =>
    cases other with
    | none => exact iff_of_true rfl .none
    | some b => exact iff_of_false nofun nofun
  | some b =>
    cases other with
    | none => exact iff_of_false nofun nofun
    | some b' =>
      obtain ⟨m, rfl, hm⟩ := h b rfl
      obtain ⟨n, rfl, hn⟩ := hother b' rfl
      rw [Option.map_some, Option.map_some, Option.some_inj]
      refine (wholeOrShortest_eq_iff hm hn).trans ⟨.number m n, ?_⟩
      rintro ⟨⟩
      assumption

theorem NumberRange.IsFinite.lessThan_not_mem {range : NumberRange} (h : range.IsFinite) :
    ∀ bound ∈ range.minimum, '<' ∉ bound.written.toList := fun bound hbound => by
  obtain ⟨n, rfl, -⟩ := h.1 bound hbound
  exact lessThan_not_mem_wholeOrShortest n

/-- An expression is made of the clauses of its bounds. A number is written with the digits of the
integer that it equals, an integer and a double alike. Two ranges of finite numbers have one
expression just if their bounds are the same, whatever is in the name of the column. -/
theorem numberBounds_told (column : String) :
    (∀ range : NumberRange, range.expression column = joined (range.clauses column) ∧
      (range.expression column = none ↔ range.minimum = none ∧ range.maximum = none)) ∧
    (∀ (n : Number) (z : Int), n.equals (.int z) = true →
      (Bound.number n).written = String.ofList (Text.integer z)) ∧
    ∀ range other : NumberRange, range.IsFinite → other.IsFinite →
      (range.expression column = other.expression column ↔
        SameBound range.minimum other.minimum ∧ SameBound range.maximum other.maximum) := by
  refine ⟨fun range => ⟨range.expression_eq column, ?_⟩, fun n z => wholeOrShortest_of_equals,
    fun range other hrange hother => ?_⟩
  · rw [← Option.not_isSome_iff_eq_none, NumberRange.isSome_expression, NumberRange.isBounded]
    simp
  · rw [NumberRange.expression_eq_iff hrange.lessThan_not_mem hother.lessThan_not_mem,
      sameBound_iff hrange.1 hother.1, sameBound_iff hrange.2 hother.2]

/-- The integer five and the double five ask for the same, also in a column whose name looks like
clauses, and another upper bound asks for something else. -/
theorem numberBounds_told_of_five :
    let column := "Work]>=0<=[Work"
    let range : NumberRange := ⟨some (.number 5), some (.number (.float 0.1))⟩
    let same : NumberRange := ⟨some (.number (.float 5.0)), some (.number (.float 0.1))⟩
    let other : NumberRange := ⟨some (.number 5), some (.number (.float 0.2))⟩
    range.IsFinite ∧ same.IsFinite ∧ other.IsFinite ∧
      range.expression column = same.expression column ∧
      range.expression column ≠ other.expression column ∧
      Number.equals (.float 1e23) (.int 99999999999999991611392) = true ∧
      (Bound.number (.float 1e23)).written = "99999999999999991611392" := by
  intro column range same other
  have hrange : range.IsFinite := ⟨fun _ h => ⟨5, (Option.some.inj h).symm, rfl⟩,
    fun _ h => ⟨.float 0.1, (Option.some.inj h).symm, by decide⟩⟩
  have hsame : same.IsFinite := ⟨fun _ h => ⟨.float 5.0, (Option.some.inj h).symm, by decide⟩,
    fun _ h => ⟨.float 0.1, (Option.some.inj h).symm, by decide⟩⟩
  have hother : other.IsFinite := ⟨fun _ h => ⟨5, (Option.some.inj h).symm, rfl⟩,
    fun _ h => ⟨.float 0.2, (Option.some.inj h).symm, by decide⟩⟩
  obtain ⟨-, hwhole, htold⟩ := numberBounds_told column
  have hlarge : Number.equals (.float 1e23) (.int 99999999999999991611392) = true := by decide
  refine ⟨hrange, hsame, hother, ?_, fun h => ?_, hlarge, hwhole _ _ hlarge⟩
  · exact (htold range same hrange hsame).2 ⟨.number _ _ (by decide), .number _ _ (by decide)⟩
  · cases ((htold range other hrange hother).1 h).2 with
    | number m n hequals => exact absurd hequals (by decide)

end Query

end IssueGateway
