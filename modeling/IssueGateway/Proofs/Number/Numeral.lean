import IssueGateway.Proofs.Number.Shortest

/-!
# Numerals of doubles read back

A decimal text stands for a number: its digits, moved by its point and its exponent. The numeral of
a double stands for a number that rounds to the double, whichever way the digits are laid out
(`Binary.Normal.decimalValue_unsigned`). So doubles with one numeral are numerically equal
(`Binary.Normal.toRat_eq_of_numeral_eq`).
-/

namespace IssueGateway.Number

open Text

/-- The number that a run of digits is read as. -/
def digitsValue (digits : List Char) : Nat :=
  Nat.ofDigitChars 10 digits 0

/-- The number that digits with a point or without stand for. -/
def pointedValue (cs : List Char) : ℚ :=
  let fraction := (cs.dropWhile (· != '.')).drop 1
  digitsValue (cs.takeWhile (· != '.') ++ fraction) * 10 ^ (-fraction.length : Int)

/-- The exponent that a sign and digits stand for. -/
def exponentValue : List Char → Int
  | [] => 0
  | sign :: digits => if sign = '-' then -digitsValue digits else digitsValue digits

/-- The number that an unsigned decimal text stands for, with an exponent or without. -/
def decimalValue (cs : List Char) : ℚ :=
  pointedValue (cs.takeWhile (· != 'e')) * 10 ^ exponentValue ((cs.dropWhile (· != 'e')).drop 1)

theorem digitsValue_append (s t : List Char) :
    digitsValue (s ++ t) = digitsValue s * 10 ^ t.length + digitsValue t := by
  rw [digitsValue, Nat.ofDigitChars_append, Nat.ofDigitChars_eq_ofDigitChars_zero, mul_comm]
  rfl

theorem digitsValue_zeros (count : Nat) : digitsValue (List.replicate count '0') = 0 := by
  rw [digitsValue, Nat.ofDigitChars_replicate_zero, Nat.mul_zero]

theorem digitsValue_natural (n : Nat) : digitsValue (natural n) = n :=
  Nat.ofDigitChars_ten_toDigits

theorem digitsValue_padded (width n : Nat) : digitsValue (padded width n) = n := by
  rw [padded, digitsValue_append, digitsValue_zeros, digitsValue_natural, Nat.zero_mul,
    Nat.zero_add]

theorem padded_injective (width : Nat) : Function.Injective (padded width) :=
  Function.LeftInverse.injective (digitsValue_padded width)

section Split

variable {mark : Char} {front : List Char}

theorem takeWhile_until (h : mark ∉ front) (rest : List Char) :
    (front ++ mark :: rest).takeWhile (· != mark) = front := by
  rw [List.takeWhile_append_of_pos fun c hc => by simpa using fun heq : c = mark => h (heq ▸ hc)]
  simp

theorem dropWhile_until (h : mark ∉ front) (rest : List Char) :
    (front ++ mark :: rest).dropWhile (· != mark) = mark :: rest := by
  rw [List.dropWhile_append_of_pos fun c hc => by simpa using fun heq : c = mark => h (heq ▸ hc)]
  simp

theorem takeWhile_none (h : mark ∉ front) : front.takeWhile (· != mark) = front :=
  List.takeWhile_eq_self_iff.2 fun c hc => by simpa using fun heq : c = mark => h (heq ▸ hc)

theorem dropWhile_none (h : mark ∉ front) : front.dropWhile (· != mark) = [] :=
  List.dropWhile_eq_nil_iff.2 fun c hc => by simpa using fun heq : c = mark => h (heq ▸ hc)

end Split

theorem pointedValue_point {whole : List Char} (h : '.' ∉ whole) (fraction : List Char) :
    pointedValue (whole ++ '.' :: fraction) =
      digitsValue (whole ++ fraction) * 10 ^ (-fraction.length : Int) := by
  rw [pointedValue, takeWhile_until h, dropWhile_until h]
  rfl

theorem pointedValue_whole {whole : List Char} (h : '.' ∉ whole) :
    pointedValue whole = digitsValue whole := by
  rw [pointedValue, takeWhile_none h, dropWhile_none h]
  simp

theorem decimalValue_exponent {mantissa : List Char} (h : 'e' ∉ mantissa) (exponent : List Char) :
    decimalValue (mantissa ++ 'e' :: exponent) =
      pointedValue mantissa * 10 ^ exponentValue exponent := by
  rw [decimalValue, takeWhile_until h, dropWhile_until h]
  rfl

theorem decimalValue_pointed {mantissa : List Char} (h : 'e' ∉ mantissa) :
    decimalValue mantissa = pointedValue mantissa := by
  rw [decimalValue, takeWhile_none h, dropWhile_none h]
  simp [exponentValue]

theorem exponentValue_padded (width : Nat) (exponent : Int) :
    exponentValue ((if exponent < 0 then '-' else '+') :: padded width exponent.natAbs) =
      exponent := by
  rw [exponentValue, digitsValue_padded]
  by_cases hneg : exponent < 0
  · rw [if_pos hneg, if_pos rfl]
    omega
  · rw [if_neg hneg, if_neg (by decide)]
    omega

/-- Zeros behind digits move the number, zeros before digits do not. -/
theorem digitsValue_append_zeros (digits : List Char) (count : Nat) :
    digitsValue (digits ++ List.replicate count '0') = digitsValue digits * 10 ^ count := by
  rw [digitsValue_append, digitsValue_zeros, List.length_replicate, Nat.add_zero]

theorem digitsValue_zeros_append (count : Nat) (digits : List Char) :
    digitsValue (List.replicate count '0' ++ digits) = digitsValue digits := by
  rw [digitsValue_append, digitsValue_zeros, Nat.zero_mul, Nat.zero_add]

/-- Digits and nothing else. -/
def AllDigits (cs : List Char) : Prop :=
  ∀ c ∈ cs, c.isDigit = true

namespace AllDigits

variable {cs ds : List Char}

theorem zeros (count : Nat) : AllDigits (List.replicate count '0') := fun c hc => by
  rw [List.eq_of_mem_replicate hc]
  rfl

theorem append (hcs : AllDigits cs) (hds : AllDigits ds) : AllDigits (cs ++ ds) :=
  List.forall_mem_append.2 ⟨hcs, hds⟩

theorem of_append (h : AllDigits (cs ++ ds)) : AllDigits cs ∧ AllDigits ds :=
  List.forall_mem_append.1 h

theorem not_mem (h : AllDigits cs) {mark : Char} (hmark : mark.isDigit = false) : mark ∉ cs :=
  fun hmem => by
    rw [h mark hmem] at hmark
    cases hmark

theorem digitsValue_lt (h : AllDigits cs) : digitsValue cs < 10 ^ cs.length := by
  induction cs with
  | nil => decide
  | cons c cs ih =>
    have hfirst :
        digitsValue (c :: cs) = (c.toNat - '0'.toNat) * 10 ^ cs.length + digitsValue cs := by
      rw [← List.singleton_append, digitsValue_append]
      simp [digitsValue, Nat.ofDigitChars]
    have hdigit : c.toNat - '0'.toNat < 10 :=
      of_isDigit (fun c => c.toNat - '0'.toNat < 10) (by decide) (h c List.mem_cons_self)
    have hrest := ih fun d hd => h d (List.mem_cons_of_mem c hd)
    calc digitsValue (c :: cs)
        < (c.toNat - '0'.toNat + 1) * 10 ^ cs.length := by
          rw [hfirst, Nat.succ_mul]
          exact Nat.add_lt_add_left hrest _
      _ ≤ 10 * 10 ^ cs.length := Nat.mul_le_mul_right _ hdigit
      _ = 10 ^ (c :: cs).length := (Nat.pow_succ' ..).symm

/-- No number has a longer numeral than the digits that it is read from. -/
theorem length_natural_le (h : AllDigits cs) (hne : cs ≠ []) :
    (natural (digitsValue cs)).length ≤ cs.length :=
  (Nat.length_toDigits_le_iff (by decide) (List.length_pos_of_ne_nil hne)).2 h.digitsValue_lt

theorem decimalValue_point (hcs : AllDigits cs) (hds : AllDigits ds) :
    decimalValue (cs ++ '.' :: ds) = digitsValue (cs ++ ds) * 10 ^ (-ds.length : Int) := by
  have hmark : 'e' ∉ cs := hcs.not_mem rfl
  have hmark' : 'e' ∉ ds := hds.not_mem rfl
  rw [decimalValue_pointed (by simp [hmark, hmark']), pointedValue_point (hcs.not_mem rfl)]

end AllDigits

theorem allDigits_natural (n : Nat) : AllDigits (natural n) :=
  fun _ => isDigit_of_mem_natural

section Layout

variable {digits : List Char} {point : Int}

/-- Digits with a point behind the first one, unless it is the only one. -/
def pointAfterFirst : List Char → List Char
  | first :: second :: rest => first :: '.' :: second :: rest
  | digits => digits

/-- The point is too far from the digits to be written in place. -/
abbrev IsScientific (point : Int) : Prop :=
  point ≤ -(layout.leadingZeros + 1 : Int) ∨ (layout.wholeDigits : Int) < point

theorem write_scientific (h : IsScientific point) :
    layout.write digits point = pointAfterFirst digits ++ 'e' ::
      (if point - 1 < 0 then '-' else '+') :: padded layout.exponentWidth (point - 1).natAbs := by
  rw [Layout.write, if_pos h]
  match digits with
  | [] => rfl
  | [_] => rfl
  | _ :: _ :: _ => rfl

theorem pointedValue_pointAfterFirst (hdigits : AllDigits digits) (hne : digits ≠ []) :
    pointedValue (pointAfterFirst digits) =
      digitsValue digits * 10 ^ (1 - digits.length : Int) := by
  obtain ⟨first, rest, rfl⟩ := List.exists_cons_of_ne_nil hne
  have hsplit : AllDigits ([first] ++ rest) := hdigits
  have hfirst : '.' ∉ [first] := hsplit.of_append.1.not_mem rfl
  cases rest with
  | nil =>
    change pointedValue [first] = _
    rw [pointedValue_whole hfirst]
    simp
  | cons second rest =>
    have hplaces : (1 - (first :: second :: rest).length : Int) =
        -((second :: rest).length : Int) := by
      simp only [List.length_cons]
      omega
    rw [hplaces]
    exact pointedValue_point hfirst _

theorem not_mem_pointAfterFirst {mark : Char} (hmark : mark ∉ digits) (hpoint : mark ≠ '.') :
    mark ∉ pointAfterFirst digits := by
  match digits with
  | [] => exact hmark
  | [_] => exact hmark
  | first :: second :: rest =>
    change mark ∉ first :: '.' :: second :: rest
    simp only [List.mem_cons, not_or] at hmark ⊢
    exact ⟨hmark.1, hpoint, hmark.2⟩

/-- Whichever way digits are laid out, they stand for the same number. -/
theorem decimalValue_write (hdigits : AllDigits digits) (hne : digits ≠ []) :
    decimalValue (layout.write digits point) =
      digitsValue digits * 10 ^ (point - digits.length) := by
  have hten : (10 : ℚ) ≠ 0 := by norm_num
  by_cases hscientific : IsScientific point
  · rw [write_scientific hscientific,
      decimalValue_exponent (not_mem_pointAfterFirst (hdigits.not_mem rfl) (by decide)),
      exponentValue_padded, pointedValue_pointAfterFirst hdigits hne, mul_assoc, ← zpow_add₀ hten]
    congr 2
    ring
  · rw [Layout.write, if_neg hscientific]
    split
    · rename_i hsmall
      change decimalValue
        (List.replicate 1 '0' ++ '.' :: (List.replicate (-point).toNat '0' ++ digits)) = _
      rw [(AllDigits.zeros 1).decimalValue_point ((AllDigits.zeros _).append hdigits),
        digitsValue_zeros_append, digitsValue_zeros_append, List.length_append,
        List.length_replicate]
      congr 2
      omega
    · rename_i hlarge
      obtain ⟨whole, rfl⟩ : ∃ whole : Nat, point = whole := ⟨point.toNat, by omega⟩
      rw [Int.toNat_natCast]
      simp only
      split
      · rename_i hle
        change decimalValue (digits ++ List.replicate (whole - digits.length) '0' ++
          '.' :: List.replicate 1 '0') = _
        rw [(hdigits.append (AllDigits.zeros _)).decimalValue_point (AllDigits.zeros 1),
          digitsValue_append_zeros, digitsValue_append_zeros, List.length_replicate,
          ← Nat.cast_sub hle, zpow_natCast]
        push_cast
        rw [mul_assoc]
        norm_num
      · rename_i hlong
        have hsplit : AllDigits (digits.take whole ++ digits.drop whole) := by
          rwa [List.take_append_drop]
        obtain ⟨htake, hdrop⟩ := hsplit.of_append
        rw [htake.decimalValue_point hdrop, List.take_append_drop, List.length_drop]
        congr 2
        omega

/-- What is laid out has digits, a point, an `e` and signs in it and no other character. -/
theorem not_mem_write (hdigits : AllDigits digits) {mark : Char} (hmark : mark.isDigit = false)
    (hother : mark ∉ ['.', 'e', '+', '-']) : mark ∉ layout.write digits point := by
  have hzeros (count : Nat) : mark ∉ List.replicate count '0' :=
    (AllDigits.zeros count).not_mem hmark
  have hmem : mark ∉ digits := hdigits.not_mem hmark
  simp only [List.mem_cons, List.not_mem_nil, or_false, not_or] at hother
  obtain ⟨hpoint, hexponent, hplus, hminus⟩ := hother
  by_cases hscientific : IsScientific point
  · have hpadded : mark ∉ padded layout.exponentWidth (point - 1).natAbs := by
      rw [padded, List.mem_append, not_or]
      exact ⟨hzeros _, (allDigits_natural _).not_mem hmark⟩
    have hsign : mark ≠ if point - 1 < 0 then '-' else '+' := by
      split
      · exact hminus
      · exact hplus
    rw [write_scientific hscientific]
    simp only [List.mem_append, List.mem_cons, not_or]
    exact ⟨not_mem_pointAfterFirst hmem hpoint, hexponent, hsign, hpadded⟩
  · have hzero : mark ≠ '0' := by
      rintro rfl
      cases hmark
    rw [Layout.write, if_neg hscientific]
    split
    · simp only [List.mem_append, List.mem_cons, not_or]
      exact ⟨hzero, hpoint, hzeros _, hmem⟩
    · simp only
      split
      · simp only [layout, List.mem_append, List.mem_cons, List.not_mem_nil, or_false, not_or]
        exact ⟨⟨hmem, hzeros _⟩, hpoint, hzero⟩
      · simp only [List.mem_append, List.mem_cons, not_or]
        exact ⟨mt List.mem_of_mem_take hmem, hpoint, mt List.mem_of_mem_drop hmem⟩

/-- What is laid out begins with a digit. -/
theorem exists_write_eq_cons (hdigits : AllDigits digits) (hne : digits ≠ []) :
    ∃ first rest, layout.write digits point = first :: rest ∧ first.isDigit = true := by
  obtain ⟨first, rest, rfl⟩ := List.exists_cons_of_ne_nil hne
  have hfirst : first.isDigit = true := hdigits first List.mem_cons_self
  rw [Layout.write]
  split
  · exact ⟨first, _, rfl, hfirst⟩
  · split
    · exact ⟨'0', _, rfl, rfl⟩
    · rename_i hlarge
      obtain ⟨whole, hwhole⟩ : ∃ whole, point.toNat = whole + 1 := ⟨point.toNat - 1, by omega⟩
      rw [hwhole]
      simp only
      split
      · exact ⟨first, _, rfl, hfirst⟩
      · exact ⟨first, _, rfl, hfirst⟩

end Layout

theorem exists_zeros_behind (digits : List Char) :
    ∃ count, digits = dropTrailingZeros digits ++ List.replicate count '0' := by
  refine ⟨(digits.reverse.takeWhile (· == '0')).length, ?_⟩
  have hzeros : digits.reverse.takeWhile (· == '0') =
      List.replicate (digits.reverse.takeWhile (· == '0')).length '0' :=
    List.eq_replicate_of_mem fun c hc => by simpa using List.mem_takeWhile_imp hc
  rw [dropTrailingZeros, ← List.reverse_replicate, ← hzeros, ← List.reverse_append,
    List.takeWhile_append_dropWhile, List.reverse_reverse]

theorem AllDigits.dropTrailingZeros {digits : List Char} (h : AllDigits digits) :
    AllDigits (dropTrailingZeros digits) := by
  obtain ⟨count, hcount⟩ := exists_zeros_behind digits
  rw [hcount] at h
  exact h.of_append.1

/-- The digits of a positive number without the zeros behind them, laid out with the point where it
was, stand for the number. -/
theorem decimalValue_write_natural {n : Nat} (hn : 0 < n) (exponent : Int) :
    dropTrailingZeros (natural n) ≠ [] ∧
      decimalValue (layout.write (dropTrailingZeros (natural n)) ((natural n).length + exponent)) =
        n * 10 ^ exponent := by
  have hdigits := (allDigits_natural n).dropTrailingZeros
  obtain ⟨count, hcount⟩ := exists_zeros_behind (natural n)
  generalize dropTrailingZeros (natural n) = digits at *
  have hvalue := digitsValue_natural n
  rw [hcount, digitsValue_append_zeros] at hvalue
  have hne : digits ≠ [] := by
    rintro rfl
    change 0 * _ = n at hvalue
    omega
  have hten : (10 : ℚ) ≠ 0 := by norm_num
  have hplaces : ((digits ++ List.replicate count '0').length + exponent - digits.length : Int) =
      count + exponent := by
    rw [List.length_append, List.length_replicate]
    push_cast
    ring
  refine ⟨hne, ?_⟩
  rw [decimalValue_write hdigits hne, hcount, hplaces, ← hvalue, zpow_add₀ hten, zpow_natCast]
  push_cast
  ring

namespace Binary

/-- The sign of a numeral. -/
def sign (b : Binary) : List Char :=
  if b.negative then ['-'] else []

/-- A numeral without its sign. -/
def unsigned (b : Binary) : List Char :=
  if b.significand = 0 then layout.write ['0'] 1
  else
    let digits := natural (shortest b.significand b.exponent).1
    layout.write (dropTrailingZeros digits)
      (digits.length + (shortest b.significand b.exponent).2)

theorem numeral_eq (b : Binary) : b.numeral = b.sign ++ b.unsigned := by
  rw [numeral, unsigned]
  split
  · rw [List.append_assoc]
    rfl
  · rfl

theorem not_mem_numeral (b : Binary) {mark : Char} (hmark : mark.isDigit = false)
    (hother : mark ∉ ['.', 'e', '+', '-']) : mark ∉ b.numeral := by
  rw [numeral_eq, List.mem_append, not_or, sign, unsigned]
  constructor
  · split
    · rintro (_ | ⟨_, ⟨⟩⟩)
      simp at hother
    · exact List.not_mem_nil
  · split
    · exact not_mem_write (AllDigits.zeros 1) hmark hother
    · exact not_mem_write (allDigits_natural _).dropTrailingZeros hmark hother

variable {a b : Binary}

theorem Normal.shortest_pos (hb : b.Normal) (hpos : 0 < b.significand) :
    0 < (shortest b.significand b.exponent).1 := by
  refine Nat.pos_of_ne_zero fun hnone => ?_
  have hlarge := (hb.roundsTo_shortest hpos).pos hpos
  rw [hnone, Nat.cast_zero, zero_mul] at hlarge
  exact hlarge.ne rfl

theorem Normal.exists_unsigned_eq_cons (hb : b.Normal) :
    ∃ first rest, b.unsigned = first :: rest ∧ first.isDigit = true := by
  rw [unsigned]
  split
  · exact ⟨'0', layout.wholeMark, rfl, rfl⟩
  · rename_i hne
    have hdigits := hb.shortest_pos (Nat.pos_of_ne_zero hne)
    exact exists_write_eq_cons (allDigits_natural _).dropTrailingZeros
      (decimalValue_write_natural hdigits 0).1

/-- The numeral of a double stands for zero or for a number that rounds to the double. -/
theorem Normal.decimalValue_unsigned (hb : b.Normal) :
    if b.significand = 0 then decimalValue b.unsigned = 0
    else RoundsTo b.significand b.exponent (decimalValue b.unsigned) := by
  rw [unsigned]
  split
  · refine (decimalValue_write (AllDigits.zeros 1) (List.cons_ne_nil _ _)).trans ?_
    rw [digitsValue_zeros, Nat.cast_zero, zero_mul]
  · rename_i hne
    have hpos := Nat.pos_of_ne_zero hne
    simp only
    rw [(decimalValue_write_natural (hb.shortest_pos hpos) _).2]
    exact hb.roundsTo_shortest hpos

/-- The sign shows in the first character. -/
theorem Normal.unsigned_eq_of_numeral_eq (ha : a.Normal) (hb : b.Normal)
    (h : a.numeral = b.numeral) : a.negative = b.negative ∧ a.unsigned = b.unsigned := by
  obtain ⟨c, s, hunsigned, hc⟩ := ha.exists_unsigned_eq_cons
  obtain ⟨d, t, hunsigned', hd⟩ := hb.exists_unsigned_eq_cons
  rw [numeral_eq, numeral_eq, hunsigned, hunsigned', sign, sign] at h
  rw [hunsigned, hunsigned']
  generalize a.negative = p at h ⊢
  generalize b.negative = q at h ⊢
  cases p <;> cases q
  · exact ⟨rfl, h⟩
  · obtain rfl : c = '-' := (List.cons.inj h).1
    cases hc
  · obtain rfl : '-' = d := (List.cons.inj h).1
    cases hd
  · exact ⟨rfl, (List.cons.inj h).2⟩

/-- Doubles with one numeral are numerically equal. -/
theorem Normal.toRat_eq_of_numeral_eq (ha : a.Normal) (hb : b.Normal)
    (h : a.numeral = b.numeral) : a.toRat = b.toRat := by
  obtain ⟨hnegative, hunsigned⟩ := ha.unsigned_eq_of_numeral_eq hb h
  have hvalue := ha.decimalValue_unsigned
  have hvalue' := hb.decimalValue_unsigned
  rw [← hunsigned] at hvalue'
  split at hvalue <;> split at hvalue'
  · rename_i hzero hzero'
    rw [toRat_eq_zero.2 hzero, toRat_eq_zero.2 hzero']
  · rename_i hzero hpos
    exact absurd hvalue (hvalue'.pos (Nat.pos_of_ne_zero hpos)).ne'
  · rename_i hpos hzero
    exact absurd hvalue' (hvalue.pos (Nat.pos_of_ne_zero hpos)).ne'
  · obtain ⟨hsignificand, hexponent⟩ := RoundsTo.unique ha hb hvalue hvalue'
    rw [toRat, toRat, hnegative, hsignificand, hexponent]

end Binary

end IssueGateway.Number
