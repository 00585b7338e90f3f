import IssueGateway.Proofs.Calendar.Reading

/-!
# Fields of the slash form

A pattern of a field may match a numeral in more than one way, but only one of its matches ends where
the numeral ends, and that one comes first; all others stop before a digit (`Leads`). Each field is
one digit or two, and its pattern reads it as their number if that is in the field's range
(`ReadsField`). No separator starts with a digit, so what follows a field never goes on from the
wrong match (`Leads.andThen`).
-/

namespace IssueGateway.Calendar

open Text Number Pattern

/-- So many ASCII digits, from `low` to `high` of them. -/
structure Digits (low high : Nat) where
  chars : List Char
  allDigits : AllDigits chars
  low_le : low ≤ chars.length
  le_high : chars.length ≤ high

/-- The number that the digits denote. -/
def Digits.value {low high : Nat} (d : Digits low high) : Nat :=
  digitsValue d.chars

/-- A field has one digit or two. -/
theorem Digits.one_or_two (d : Digits 1 2) :
    (∃ a, a.isDigit = true ∧ d.chars = [a] ∧ d.value = digitOf a) ∨
      ∃ a b, a.isDigit = true ∧ b.isDigit = true ∧ d.chars = [a, b] ∧
        d.value = 10 * digitOf a + digitOf b := by
  obtain ⟨chars, hdigits, hlow, hhigh⟩ := d
  match chars, hdigits, hlow, hhigh with
  | [a], hdigits, _, _ =>
    left
    refine ⟨a, hdigits a (by simp), rfl, ?_⟩
    simp [value, digitsValue, digitOf, Nat.ofDigitChars]
  | [a, b], hdigits, _, _ =>
    right
    refine ⟨a, b, hdigits a (by simp), hdigits b (by simp), rfl, ?_⟩
    simp [value, digitsValue, digitOf, Nat.ofDigitChars]

theorem Digits.exists_four (d : Digits 4 4) :
    ∃ a b c e, (a.isDigit = true ∧ b.isDigit = true ∧ c.isDigit = true ∧ e.isDigit = true) ∧
      d.chars = [a, b, c, e] ∧
        d.value = 100 * (10 * digitOf a + digitOf b) + (10 * digitOf c + digitOf e) := by
  obtain ⟨chars, hdigits, hlow, hhigh⟩ := d
  match chars, hdigits, hlow, hhigh with
  | [a, b, c, e], hdigits, _, _ =>
    refine ⟨a, b, c, e, ⟨hdigits a (by simp), hdigits b (by simp), hdigits c (by simp),
      hdigits e (by simp)⟩, rfl, ?_⟩
    simp only [value, digitsValue, digitOf, Nat.ofDigitChars, List.foldl_cons, List.foldl_nil]
    omega

/-- A text that goes on with an ASCII digit. -/
def GoesOn (rest : List Char) : Prop :=
  ∃ c others, c.isDigit = true ∧ rest = c :: others

theorem goesOn_cons {c : Char} (h : c.isDigit = true) (rest : List Char) : GoesOn (c :: rest) :=
  ⟨c, rest, h, rfl⟩

theorem Digits.goesOn (d : Digits 1 2) (rest : List Char) : GoesOn (d.chars ++ rest) := by
  rcases d.one_or_two with ⟨a, ha, hchars, -⟩ | ⟨a, b, ha, -, hchars, -⟩
  · rw [hchars]
    exact goesOn_cons ha _
  · rw [hchars]
    exact goesOn_cons ha _

/-! ## Patterns of a field -/

/-- A pattern that matches one digit from `low` to `high`. -/
structure OneDigit (p : Pattern Nat) (low high : Nat) : Prop where
  digit : ∀ {c : Char}, c.isDigit = true → ∀ rest,
    p (c :: rest) = if low ≤ digitOf c ∧ digitOf c ≤ high then [(digitOf c, rest)] else []
  ends : ∀ {rest : List Char}, EndsDigits rest → p rest = []

theorem oneDigit_digitBetween (low high : Nat) : OneDigit (digitBetween low high) low high where
  digit {c} hc rest := by
    rw [digitBetween, one, asciiDigit?_of_isDigit hc, Option.filter_some]
    by_cases hrange : low ≤ digitOf c ∧ digitOf c ≤ high <;> simp [hrange]
  ends {rest} hrest := by
    cases rest with
    | nil => rfl
    | cons c rest =>
      have hnone : asciiDigit? c = none := by
        by_contra hsome
        rw [asciiDigit?, ite_eq_right_iff, not_forall] at hsome
        obtain ⟨hc, -⟩ := hsome
        rw [Bool.and_eq_true, decide_eq_true_eq, decide_eq_true_eq] at hc
        have hdigit := digitValue?_of_isDigit (Char.isDigit_iff_toNat.2 hc)
        rw [hrest c rfl] at hdigit
        cases hdigit
      rw [digitBetween, one, hnone]
      rfl

theorem oneDigit_digit : OneDigit digit 0 9 where
  digit {c} hc rest := by
    have hlt := digitOf_lt hc
    rw [Pattern.digit, one, digitValue?_of_isDigit hc, if_pos ⟨Nat.zero_le _, by omega⟩]
  ends {rest} hrest := by
    cases rest with
    | nil => rfl
    | cons c rest =>
      rw [Pattern.digit, one, hrest c rfl]

/-- A pattern that matches certain pairs of digits, and after that certain single digits. -/
structure Alternatives (p : Pattern Nat) (pairs : Nat → Nat → Bool) (single : Nat → Bool) :
    Prop where
  two : ∀ {a b : Char}, a.isDigit = true → b.isDigit = true → ∀ rest, p (a :: b :: rest) =
    (if pairs (digitOf a) (digitOf b) then [(10 * digitOf a + digitOf b, rest)] else []) ++
      if single (digitOf a) then [(digitOf a, b :: rest)] else []
  one : ∀ {a : Char}, a.isDigit = true → ∀ {rest : List Char}, EndsDigits rest →
    p (a :: rest) = if single (digitOf a) then [(digitOf a, rest)] else []

theorem OneDigit.alternatives {p : Pattern Nat} {low high : Nat} (h : OneDigit p low high) :
    Alternatives p (fun _ _ => false) fun n => low ≤ n ∧ n ≤ high where
  two ha _ rest := by simp [h.digit ha]
  one {_} ha {rest} _ := by simp [h.digit ha]

theorem OneDigit.pair {p q : Pattern Nat} {low high low' high' : Nat} (hp : OneDigit p low high)
    (hq : OneDigit q low' high') : Alternatives (pair p q)
      (fun m n => (low ≤ m ∧ m ≤ high) ∧ low' ≤ n ∧ n ≤ high') fun _ => false where
  two {a b} ha hb rest := by
    rw [Pattern.pair, andThen, hp.digit ha]
    by_cases hfirst : low ≤ digitOf a ∧ digitOf a ≤ high
    · by_cases hsecond : low' ≤ digitOf b ∧ digitOf b ≤ high' <;>
        simp [hfirst, hsecond, andThen, hq.digit hb, done]
    · simp [hfirst]
  one {a} ha {rest} hrest := by
    rw [Pattern.pair, andThen, hp.digit ha]
    split <;> simp [andThen, hq.ends hrest]

namespace Alternatives

variable {p q : Pattern Nat} {pairs others : Nat → Nat → Bool} {single : Nat → Bool}

/-- More pairs before the others. -/
theorem orElse (hp : Alternatives p pairs fun _ => false) (hq : Alternatives q others single)
    (hapart : ∀ m < 10, ∀ n < 10, pairs m n = true → others m n = false) :
    Alternatives (p.orElse q) (fun m n => pairs m n || others m n) single where
  two {a b} ha hb rest := by
    rw [Pattern.orElse, hp.two ha hb, hq.two ha hb]
    by_cases hpair : pairs (digitOf a) (digitOf b) = true
    · simp [hpair, hapart _ (digitOf_lt ha) _ (digitOf_lt hb) hpair]
    · simp [hpair]
  one {_} ha {rest} hrest := by
    rw [Pattern.orElse, hp.one ha hrest, hq.one ha hrest]
    rfl

/-- A last alternative that starts with no digit. -/
theorem orElse_of_nil (hp : Alternatives p pairs single)
    (hq : ∀ {c : Char}, c.isDigit = true → ∀ rest, q (c :: rest) = []) :
    Alternatives (p.orElse q) pairs single where
  two ha hb rest := by rw [Pattern.orElse, hp.two ha hb, hq ha, List.append_nil]
  one {_} ha {rest} hrest := by rw [Pattern.orElse, hp.one ha hrest, hq ha, List.append_nil]

end Alternatives

/-- A pattern starts with this match if some condition holds; all its other matches stop before a
digit. -/
def Leads {α : Type} (p : Pattern α) (cs : List Char) (ok : Prop) (a : α) (rest : List Char) :
    Prop :=
  ∃ found others, p cs = found ++ others ∧ (ok → found = [(a, rest)]) ∧ (¬ ok → found = []) ∧
    ∀ other ∈ others, GoesOn other.2

/-- A pattern that reads numerals of one digit or two if they mean an allowed number. -/
def ReadsField (p : Pattern Nat) (allowed : Nat → Prop) : Prop :=
  ∀ (d : Digits 1 2) {rest : List Char}, EndsDigits rest →
    Leads p (d.chars ++ rest) (allowed d.value) d.value rest

theorem Alternatives.readsField {p : Pattern Nat} {pairs : Nat → Nat → Bool} {single : Nat → Bool}
    {allowed : Nat → Prop} (h : Alternatives p pairs single)
    (hpairs : ∀ m < 10, ∀ n < 10, pairs m n = true ↔ allowed (10 * m + n))
    (hsingle : ∀ n < 10, single n = true ↔ allowed n) : ReadsField p allowed := by
  intro d rest hrest
  rcases d.one_or_two with ⟨a, ha, hchars, hvalue⟩ | ⟨a, b, ha, hb, hchars, hvalue⟩
  · rw [hchars, hvalue]
    refine ⟨if single (digitOf a) then [(digitOf a, rest)] else [], [], ?_, fun hok => ?_,
      fun hok => ?_, nofun⟩
    · rw [List.append_nil]
      exact h.one ha hrest
    · exact if_pos ((hsingle _ (digitOf_lt ha)).2 hok)
    · exact if_neg (mt (hsingle _ (digitOf_lt ha)).1 hok)
  · rw [hchars, hvalue]
    refine ⟨_, _, h.two ha hb rest, fun hok => ?_, fun hok => ?_, ?_⟩
    · exact if_pos ((hpairs _ (digitOf_lt ha) _ (digitOf_lt hb)).2 hok)
    · exact if_neg (mt (hpairs _ (digitOf_lt ha) _ (digitOf_lt hb)).1 hok)
    · intro other hother
      split at hother
      · obtain rfl := List.mem_singleton.1 hother
        exact goesOn_cons hb rest
      · cases hother

theorem readsField_month : ReadsField month fun n => 1 ≤ n ∧ n ≤ 12 :=
  (((oneDigit_digitBetween 1 1).pair (oneDigit_digitBetween 0 2)).orElse
    (((oneDigit_digitBetween 0 0).pair (oneDigit_digitBetween 1 9)).orElse
      (oneDigit_digitBetween 1 9).alternatives (by decide)) (by decide)).readsField
    (by decide) (by decide)

/-- A day that starts with a digit has no space in front. -/
theorem readsField_day : ReadsField day fun n => 1 ≤ n ∧ n ≤ 31 := by
  have hspace : ∀ {c : Char}, c.isDigit = true → ∀ rest,
      ((char ' ').andThen fun _ => digitBetween 1 9) (c :: rest) = [] := by
    intro c hc rest
    have hne : c ≠ ' ' := by
      rintro rfl
      cases hc
    rw [andThen, char, one, if_neg hne]
    rfl
  exact (((oneDigit_digitBetween 3 3).pair (oneDigit_digitBetween 0 1)).orElse
    (((oneDigit_digitBetween 1 2).pair oneDigit_digit).orElse
      (((oneDigit_digitBetween 0 0).pair (oneDigit_digitBetween 1 9)).orElse
        ((oneDigit_digitBetween 1 9).alternatives.orElse_of_nil hspace) (by decide)) (by decide))
    (by decide)).readsField (by decide) (by decide)

theorem readsField_hour : ReadsField hour (· ≤ 23) :=
  (((oneDigit_digitBetween 2 2).pair (oneDigit_digitBetween 0 3)).orElse
    (((oneDigit_digitBetween 0 1).pair oneDigit_digit).orElse oneDigit_digit.alternatives
      (by decide)) (by decide)).readsField (by decide) (by decide)

theorem readsField_minute : ReadsField minute (· ≤ 59) :=
  (((oneDigit_digitBetween 0 5).pair oneDigit_digit).orElse oneDigit_digit.alternatives
    (by decide)).readsField (by decide) (by decide)

theorem readsField_second : ReadsField second (· ≤ 61) :=
  (((oneDigit_digitBetween 6 6).pair (oneDigit_digitBetween 0 1)).orElse
    (((oneDigit_digitBetween 0 5).pair oneDigit_digit).orElse oneDigit_digit.alternatives
      (by decide)) (by decide)).readsField (by decide) (by decide)

/-! ## Patterns in a row -/

namespace Leads

variable {α β : Type} {p : Pattern α} {cs rest rest' : List Char} {ok ok' : Prop} {a : α} {b : β}

theorem andThen_apply (p : Pattern α) (q : α → Pattern β) (cs : List Char) :
    p.andThen q cs = (p cs).flatMap fun found => q found.1 found.2 := rfl

/-- What follows starts with no digit, so it goes on from the first match alone. -/
theorem andThen {q : α → Pattern β} (hp : Leads p cs ok a rest)
    (hq : ∀ a rest, GoesOn rest → q a rest = []) (hnext : Leads (q a) rest ok' b rest') :
    Leads (p.andThen q) cs (ok ∧ ok') b rest' := by
  obtain ⟨found, others, heq, hfound, hnone, hothers⟩ := hp
  have hlost : others.flatMap (fun other => q other.1 other.2) = [] :=
    List.flatMap_eq_nil_iff.2 fun other hother => hq _ _ (hothers other hother)
  rw [Leads, andThen_apply, heq, List.flatMap_append, hlost, List.append_nil]
  by_cases hok : ok
  · obtain ⟨found', others', heq', hfound', hnone', hothers'⟩ := hnext
    refine ⟨found', others', ?_, fun h => hfound' h.2, fun h => hnone' fun h' => h ⟨hok, h'⟩,
      hothers'⟩
    rw [hfound hok, List.flatMap_singleton]
    exact heq'
  · rw [hnone hok]
    exact ⟨[], [], rfl, fun h => absurd h.1 hok, fun _ => rfl, nofun⟩

theorem map (hp : Leads p cs ok a rest) (f : α → β) :
    Leads (p.andThen fun a => done (f a)) cs ok (f a) rest := by
  obtain ⟨found, others, heq, hfound, hnone, hothers⟩ := hp
  have hdone : (p.andThen fun a => done (f a)) cs =
      (p cs).map fun found => (f found.1, found.2) := by
    rw [andThen_apply, List.map_eq_flatMap]
    rfl
  rw [Leads, hdone, heq, List.map_append]
  refine ⟨_, _, rfl, fun h => by rw [hfound h]; rfl, fun h => by rw [hnone h]; rfl, ?_⟩
  intro other hother
  obtain ⟨before, hbefore, rfl⟩ := List.mem_map.1 hother
  exact hothers before hbefore

theorem of_nil (h : p cs = []) : Leads p cs False a rest :=
  ⟨[], [], h, False.elim, fun _ => rfl, nofun⟩

/-- A pattern whose only match goes on to another one. -/
theorem only {q : α → Pattern β} (h : p cs = [(a, rest)]) (hnext : Leads (q a) rest ok b rest') :
    Leads (p.andThen q) cs ok b rest' := by
  rw [Leads, andThen_apply, h, List.flatMap_singleton]
  exact hnext

end Leads

theorem char_self (c : Char) (rest : List Char) : char c (c :: rest) = [((), rest)] := by
  simp [char, one]

/-- A separator of fields is no digit. -/
theorem char_of_goesOn {α : Type} {c : Char} (hc : c.isDigit = false) (q : Unit → Pattern α)
    {rest : List Char} (h : GoesOn rest) : (char c).andThen q rest = [] := by
  obtain ⟨d, others, hd, rfl⟩ := h
  have hne : d ≠ c := by
    rintro rfl
    rw [hd] at hc
    cases hc
  simp [andThen, char, one, hne]

theorem blanks_space {rest : List Char} (h : GoesOn rest) : blanks (' ' :: rest) = [((), rest)] := by
  obtain ⟨d, others, hd, rfl⟩ := h
  have hspace : isBlank ' ' = true := by decide
  simp [blanks, hspace, isBlank_of_isDigit hd]

theorem blanks_of_goesOn {α : Type} (q : Unit → Pattern α) {rest : List Char} (h : GoesOn rest) :
    blanks.andThen q rest = [] := by
  obtain ⟨d, others, hd, rfl⟩ := h
  simp [andThen, blanks, isBlank_of_isDigit hd]

theorem year_of_four (d : Digits 4 4) (rest : List Char) :
    year (d.chars ++ rest) = [(d.value, rest)] := by
  obtain ⟨a, b, c, e, ⟨ha, hb, hc, he⟩, hchars, hvalue⟩ := d.exists_four
  have hpair : ∀ {a b : Char}, a.isDigit = true → b.isDigit = true → ∀ rest,
      pair digit digit (a :: b :: rest) = [(10 * digitOf a + digitOf b, rest)] := by
    intro a b ha hb rest
    have hlt := digitOf_lt ha
    have hlt' := digitOf_lt hb
    rw [(oneDigit_digit.pair oneDigit_digit).two ha hb,
      if_pos (decide_eq_true ⟨⟨Nat.zero_le _, by omega⟩, Nat.zero_le _, by omega⟩)]
    rfl
  rw [hchars, hvalue, year, andThen]
  simp only [List.cons_append, List.nil_append, hpair ha hb, hpair hc he, List.flatMap_singleton,
    andThen, done]

end IssueGateway.Calendar
