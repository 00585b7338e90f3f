import IssueGateway.Proofs.Calendar.Parts

/-!
# The standard form

A text in standard form is a date, `T`, a clock and a zone (`IsoText`), and what it stands for is the
moment with these parts (`IsoText.timestamp`). Spelling out its `Z` and bringing its fraction to six
digits makes a text of the same form for the same moment (`IsoText.normalize_chars`), and that text
is read part by part (`IsoText.ofIso?_chars`). So the text is read as its moment, with blanks around
it or without, and a moment is read back from its own standard form (`Timestamp.ofText?_iso`).
-/

namespace IssueGateway.Calendar

open Text Number

/-- A text in standard form. -/
structure IsoText where
  date : Date
  hour : Nat
  minute : Nat
  second : Nat
  isTime : IsTime hour minute second 0
  fraction : List Char
  allDigits : AllDigits fraction
  zone : Zone

/-- The digits of a fraction that count, with zeros behind them if there are fewer than six. -/
def sixDigits (fraction : List Char) : List Char :=
  if fraction.isEmpty then [] else (fraction.take 6).rightpad 6 '0'

section Fraction

variable {fraction : List Char}

theorem length_sixDigits (h : fraction ≠ []) : (sixDigits fraction).length = 6 := by
  rw [sixDigits, if_neg (mt List.isEmpty_iff.1 h), List.length_rightpad, List.length_take]
  omega

theorem isNormalized_sixDigits (h : AllDigits fraction) : IsNormalized (sixDigits fraction) := by
  by_cases hempty : fraction = []
  · subst hempty
    exact ⟨h, Or.inl rfl⟩
  · refine ⟨?_, Or.inr (length_sixDigits hempty)⟩
    rw [sixDigits, if_neg (mt List.isEmpty_iff.1 hempty)]
    exact AllDigits.append (fun c hc => h c (List.mem_of_mem_take hc)) (AllDigits.zeros _)

theorem microseconds_sixDigits (h : AllDigits fraction) :
    microseconds (sixDigits fraction) = microseconds fraction := by
  rw [(isNormalized_sixDigits h).microseconds_eq, sixDigits]
  split
  · rename_i hempty
    rw [List.isEmpty_iff.1 hempty]
    rfl
  · rfl

end Fraction

namespace IsoText

/-- `HH:MM:SS` with a fraction or without. -/
def clock (x : IsoText) : List Char :=
  clockChars x.hour x.minute x.second x.fraction

/-- `YYYY-MM-DDTHH:MM:SS` with a fraction and a zone or without. -/
def chars (x : IsoText) : List Char :=
  x.date.isoChars ++ 'T' :: (x.clock ++ x.zone.chars)

def time (x : IsoText) : Time where
  hour := x.hour
  minute := x.minute
  second := x.second
  microsecond := microseconds x.fraction
  isTime := ⟨x.isTime.1, x.isTime.2.1, x.isTime.2.2.1, microseconds_lt x.allDigits⟩

/-- The moment that a text stands for. -/
def timestamp (x : IsoText) : Timestamp where
  date := x.date
  time := x.time
  offset := x.zone.offset?

/-- The text with six digits or none in its fraction, and with its offset in numbers. -/
def normalize (x : IsoText) : IsoText :=
  { x with
    fraction := sixDigits x.fraction
    allDigits := (isNormalized_sixDigits x.allDigits).allDigits
    zone := x.zone.spelledOut }

theorem timestamp_normalize (x : IsoText) : x.normalize.timestamp = x.timestamp := by
  have htime : x.normalize.time = x.time := by
    simp only [time, normalize, microseconds_sixDigits x.allDigits]
  rw [timestamp, timestamp, htime, normalize, Zone.offset?_spelledOut]

end IsoText

/-! ## The characters of the parts -/

section Characters

variable {P : Char → Prop} (hdigit : ∀ c, c.isDigit = true → P c)

include hdigit

theorem forall_mem_padded (width n : Nat) : ∀ c ∈ padded width n, P c :=
  fun c hc => hdigit c (allDigits_padded width n c hc)

theorem Date.forall_mem_isoChars (hdash : P '-') (d : Date) : ∀ c ∈ d.isoChars, P c := by
  simp only [isoChars, List.forall_mem_append, List.forall_mem_cons]
  exact ⟨⟨forall_mem_padded hdigit 4 _, hdash, forall_mem_padded hdigit 2 _⟩, hdash,
    forall_mem_padded hdigit 2 _⟩

theorem forall_mem_pointed {fraction : List Char} (hpoint : P '.') (h : AllDigits fraction) :
    ∀ c ∈ pointed fraction, P c := by
  rw [pointed]
  split
  · exact List.forall_mem_nil _
  · exact List.forall_mem_cons.2 ⟨hpoint, fun c hc => hdigit c (h c hc)⟩

theorem forall_mem_clockChars (hcolon : P ':') {fraction : List Char}
    (hfraction : ∀ c ∈ pointed fraction, P c) (hour minute second : Nat) :
    ∀ c ∈ clockChars hour minute second fraction, P c := by
  simp only [clockChars, List.forall_mem_append, List.forall_mem_cons]
  exact ⟨⟨⟨forall_mem_padded hdigit 2 _, hcolon, forall_mem_padded hdigit 2 _⟩, hcolon,
    forall_mem_padded hdigit 2 _⟩, hfraction⟩

theorem Zone.forall_mem_chars (hcolon : P ':') (hplus : P '+') (hminus : P '-') {zone : Zone}
    (hutc : zone = utc → P 'Z') : ∀ c ∈ zone.chars, P c := by
  cases zone with
  | none => exact List.forall_mem_nil _
  | utc => exact List.forall_mem_cons.2 ⟨hutc rfl, List.forall_mem_nil _⟩
  | offset negative hours minutes _ =>
    have hsign : P (if negative then '-' else '+') := by
      cases negative
      · exact hplus
      · exact hminus
    simp only [chars, List.forall_mem_cons, List.forall_mem_append]
    exact ⟨hsign, forall_mem_padded hdigit 2 _, hcolon, forall_mem_padded hdigit 2 _⟩

end Characters

/-- No digit is equal to a mark. -/
theorem ne_of_isDigit {mark : Char} (h : mark.isDigit = false) (c : Char)
    (hc : c.isDigit = true) : c ≠ mark := by
  rintro rfl
  rw [hc] at h
  cases h

theorem Zone.spellOutUtc_chars (zone : Zone) : spellOutUtc zone.chars = zone.spelledOut.chars := by
  have hother (hutc : zone ≠ utc) : spellOutUtc zone.chars = zone.chars := by
    have hne := forall_mem_chars (ne_of_isDigit (show 'Z'.isDigit = false from rfl))
      (by decide) (by decide) (by decide) fun h => absurd h hutc
    exact spellOutUtc_of_not_mem fun hmem => hne 'Z' hmem rfl
  cases zone with
  | none => exact hother nofun
  | utc => decide
  | offset negative hours minutes h => exact hother nofun

theorem Zone.endsDigits_chars (zone : Zone) : EndsDigits zone.chars := by
  cases zone with
  | none => exact endsDigits_nil
  | utc => exact endsDigits_cons (by decide) _
  | offset negative hours minutes _ =>
    cases negative
    · exact endsDigits_cons (by decide) _
    · exact endsDigits_cons (by decide) _

theorem normalizeFractions_pointed {fraction : List Char} (h : AllDigits fraction) (zone : Zone) :
    normalizeFractions none (pointed fraction ++ zone.chars) =
      pointed (sixDigits fraction) ++ zone.chars := by
  have hne : ∀ c ∈ zone.chars, c ≠ '.' :=
    Zone.forall_mem_chars (ne_of_isDigit rfl) (by decide) (by decide) (by decide) fun _ => by decide
  have hpoint : '.' ∉ zone.chars := fun hmem => hne '.' hmem rfl
  by_cases hempty : fraction = []
  · rw [hempty]
    exact normalizeFractions_of_not_mem hpoint
  · have hsix : sixDigits fraction ≠ [] :=
      List.ne_nil_of_length_pos (by rw [length_sixDigits hempty]; decide)
    rw [pointed, pointed, if_neg (mt List.isEmpty_iff.1 hempty),
      if_neg (mt List.isEmpty_iff.1 hsix), List.cons_append,
      normalizeFractions_point h hempty zone.endsDigits_chars hpoint, sixDigits,
      if_neg (mt List.isEmpty_iff.1 hempty)]
    rfl

namespace IsoText

variable (x : IsoText)

/-- A text goes from digits over marks to digits, unless it ends with a `Z`. -/
theorem forall_mem_chars {P : Char → Prop} (hdigit : ∀ c, c.isDigit = true → P c)
    (hdash : P '-') (htime : P 'T') (hcolon : P ':') (hpoint : P '.') (hplus : P '+')
    (hutc : P 'Z') : ∀ c ∈ x.chars, P c := by
  rw [chars, List.forall_mem_append, List.forall_mem_cons, List.forall_mem_append]
  exact ⟨Date.forall_mem_isoChars hdigit hdash _, htime,
    forall_mem_clockChars hdigit hcolon (forall_mem_pointed hdigit hpoint x.allDigits) _ _ _,
    Zone.forall_mem_chars hdigit hcolon hplus hdash fun _ => hutc⟩

theorem isBlank_eq_false : ∀ c ∈ x.chars, isBlank c = false :=
  x.forall_mem_chars (fun _ => isBlank_of_isDigit) rfl rfl rfl rfl rfl rfl

theorem chars_ne_nil : x.chars ≠ [] :=
  List.append_ne_nil_of_right_ne_nil _ (List.cons_ne_nil _ _)

/-- What stands before the fraction. -/
def front : List Char :=
  x.date.isoChars ++ 'T' :: clockChars x.hour x.minute x.second []

theorem chars_eq : x.chars = x.front ++ (pointed x.fraction ++ x.zone.chars) := by
  simp [chars, clock, front, clockChars, pointed]

theorem forall_mem_front {P : Char → Prop} (hdigit : ∀ c, c.isDigit = true → P c)
    (hdash : P '-') (htime : P 'T') (hcolon : P ':') : ∀ c ∈ x.front, P c := by
  rw [front, List.forall_mem_append, List.forall_mem_cons]
  exact ⟨Date.forall_mem_isoChars hdigit hdash _, htime,
    forall_mem_clockChars hdigit hcolon (List.forall_mem_nil _) _ _ _⟩

theorem spellOutUtc_chars :
    spellOutUtc x.chars = x.front ++ (pointed x.fraction ++ x.zone.spelledOut.chars) := by
  have hdigit := ne_of_isDigit (show 'Z'.isDigit = false from rfl)
  have hfront := x.forall_mem_front hdigit (by decide) (by decide) (by decide)
  have hpointed := forall_mem_pointed hdigit (by decide) x.allDigits
  rw [chars_eq, spellOutUtc_append fun hmem => hfront 'Z' hmem rfl,
    spellOutUtc_append fun hmem => hpointed 'Z' hmem rfl, Zone.spellOutUtc_chars]

theorem normalize_chars : normalizeFractions none (spellOutUtc x.chars) = x.normalize.chars := by
  have hdigit := ne_of_isDigit (show '.'.isDigit = false from rfl)
  have hfront := x.forall_mem_front hdigit (by decide) (by decide) (by decide)
  rw [spellOutUtc_chars, normalizeFractions_append fun hmem => hfront '.' hmem rfl,
    normalizeFractions_pointed x.allDigits, chars_eq]
  rfl

/-! ## Reading -/

/-- The bytes that start an offset. -/
def isSign (b : UInt8) : Bool :=
  b == ascii '+' || b == ascii '-'

variable {x}

theorem length_clock : x.clock.length = 8 + (pointed x.fraction).length :=
  length_clockChars x.isTime

theorem isSign_of_mem_clock : ∀ b ∈ x.clock.map ascii, isSign b = false := by
  have hclock : ∀ c ∈ x.clock, isSign (ascii c) = false := by
    have hdigit (c : Char) (hc : c.isDigit = true) : isSign (ascii c) = false :=
      of_isDigit (fun c => isSign (ascii c) = false) (by decide) hc
    exact forall_mem_clockChars hdigit rfl (forall_mem_pointed hdigit rfl x.allDigits) _ _ _
  exact List.forall_mem_map.2 hclock

/-- The first sign is the one behind the clock. -/
theorem findIdx_isSign (hzone : x.zone ≠ .utc) :
    ((x.clock ++ x.zone.chars).map ascii).findIdx isSign = x.clock.length := by
  have hbehind : (x.zone.chars.map ascii).findIdx isSign = 0 := by
    cases hcase : x.zone with
    | none => rfl
    | utc => exact absurd hcase hzone
    | offset negative hours minutes _ =>
      rw [Zone.chars, List.map_cons, List.findIdx_cons]
      cases negative <;> rfl
  rw [List.map_append, List.findIdx_append, List.findIdx_eq_length.2 isSign_of_mem_clock,
    if_neg (lt_irrefl _), hbehind, List.length_map, Nat.zero_add]

theorem readClock?_clock (h : IsNormalized x.fraction) (hzone : x.zone ≠ .utc) :
    readClock? ((x.clock ++ x.zone.chars).map ascii) 0 x.clock.length =
      some ⟨[x.hour, x.minute, x.second], digitsValue x.fraction,
        decide (x.clock.length < ((x.clock ++ x.zone.chars).map ascii).length)⟩ := by
  have hend : ∀ b ∈ ((x.clock ++ x.zone.chars).map ascii)[x.clock.length]?,
      byteDigit? b = none := by
    rw [List.getElem?_map, List.getElem?_append_right le_rfl, Nat.sub_self]
    cases hcase : x.zone with
    | none => nofun
    | utc => exact absurd hcase hzone
    | offset negative hours minutes _ =>
      cases negative <;> exact fun b hb => Option.some.inj hb ▸ rfl
  exact readClock?_of_time x.isTime h rfl
    (stands_append.1 (stands_self (x.clock ++ x.zone.chars))).1 hend

theorem time?_eq (h : IsNormalized x.fraction) :
    Time.of? x.hour x.minute x.second (digitsValue x.fraction) = some x.time :=
  Time.of?_eq_some_iff.2 ⟨rfl, rfl, rfl, h.microseconds_eq⟩

theorem readTime?_chars (h : IsNormalized x.fraction) (hzone : x.zone ≠ .utc) :
    readTime? ((x.clock ++ x.zone.chars).map ascii) = some (x.time, x.zone.offset?) := by
  have hsign : ((x.clock ++ x.zone.chars).map ascii).findIdx
      (fun b => b == ascii '+' || b == ascii '-') = x.clock.length := findIdx_isSign hzone
  have hread := readClock?_clock h hzone
  have hstands := (stands_append.1 (stands_self (x.clock ++ x.zone.chars))).2
  have hlength : ((x.clock ++ x.zone.chars).map ascii).length =
      x.clock.length + x.zone.chars.length := by
    rw [List.length_map, List.length_append]
  have hempty : ((x.clock ++ x.zone.chars).map ascii).isEmpty = false := by
    rw [List.isEmpty_eq_false_iff, ← List.length_pos_iff, hlength, length_clock]
    omega
  generalize (x.clock ++ x.zone.chars).map ascii = s at *
  rw [Nat.zero_add] at hstands
  cases hcase : x.zone with
  | none =>
    -- the clock is the whole text, so it must have left nothing over
    rw [hcase] at hlength
    change s.length = x.clock.length at hlength
    rw [hlength, decide_eq_false (lt_irrefl _)] at hread
    simp [readTime?, hempty, hsign, hread, hlength, Clock.get, time?_eq h, Zone.offset?]
  | utc => exact absurd hcase hzone
  | offset negative hours minutes isOffset =>
    -- what the clock left over is the zone, which is read behind its sign
    rw [hcase] at hstands hlength
    rw [Zone.length_chars_offset] at hlength
    have hne : x.clock.length ≠ s.length := by omega
    simp [readTime?, hempty, hsign, hread, Clock.get, time?_eq h, hne,
      Zone.readClock?_of_stands hstands hlength, Zone.isCharAt_of_stands hstands,
      Zone.offset?_of_clock (h := isOffset)]
    rfl

theorem ofIso?_chars (h : IsNormalized x.fraction) (hzone : x.zone ≠ .utc) :
    Timestamp.ofIso? x.chars = some x.timestamp := by
  have hascii : ∀ c ∈ x.chars, c.toNat < 128 :=
    x.forall_mem_chars (fun _ => lt_of_isDigit) (by decide) (by decide) (by decide) (by decide)
      (by decide) (by decide)
  have hstands : Stands (x.chars.map ascii) 0 x.date.isoChars :=
    (stands_append.1 (stands_self x.chars)).1
  have hlength : 7 < (x.chars.map ascii).length := by
    rw [List.length_map, chars, List.length_append, Date.length_isoChars]
    omega
  have hdrop : (x.chars.map ascii).drop 10 =
      ascii 'T' :: (x.clock ++ x.zone.chars).map ascii := by
    rw [chars, List.map_append, List.drop_left' (by rw [List.length_map, Date.length_isoChars])]
    rfl
  have hseparator : charLength (ascii 'T') - 1 = 0 := rfl
  rw [Timestamp.ofIso?, textBytes_eq_map hascii]
  simp only [Date.dateLength?_of_stands hstands hlength, Date.readDate?_of_stands hstands, hdrop,
    hseparator, List.drop_zero, readTime?_chars h hzone, Option.bind_eq_bind, Option.bind_some]
  rfl

/-- A text in standard form is read as its moment, with blanks around it or without. -/
theorem ofText?_chars (x : IsoText) {before after : List Char}
    (hbefore : ∀ c ∈ before, isBlank c = true) (hafter : ∀ c ∈ after, isBlank c = true) :
    Timestamp.ofText? (String.ofList (before ++ (x.chars ++ after))) = some x.timestamp := by
  have hfirst : ∀ c ∈ x.chars.head?, isBlank c = false :=
    fun c hc => x.isBlank_eq_false c (List.mem_of_mem_head? hc)
  have hlast : ∀ c ∈ x.chars.getLast?, isBlank c = false :=
    fun c hc => x.isBlank_eq_false c (List.mem_of_mem_getLast? hc)
  have hzone : x.normalize.zone ≠ .utc := x.zone.spelledOut_ne_utc
  rw [Timestamp.ofText?_between hbefore hafter x.chars_ne_nil hfirst hlast, x.normalize_chars,
    ofIso?_chars (isNormalized_sixDigits x.allDigits) hzone, timestamp_normalize, Option.some_or]

end IsoText

/-! ## Writing -/

/-- Whole minutes of less than a day are written as a sign, hours and minutes. -/
theorem Zone.exists_of_minutes {offset : Int} (hminutes : 60000000 ∣ offset)
    (hday : |offset| < 86400000000) :
    ∃ zone : Zone, zone.chars = offsetChars offset ∧ zone.offset? = some offset := by
  obtain ⟨minutes, hmagnitude⟩ : ∃ minutes, offset.natAbs = 60000000 * minutes :=
    Int.natAbs_dvd_natAbs.2 hminutes
  rw [Int.abs_eq_natAbs] at hday
  have hhours : offset.natAbs / 1000000 / 3600 = minutes / 60 := by omega
  have hrest : offset.natAbs / 1000000 / 60 % 60 = minutes % 60 := by omega
  have hwhole : offset.natAbs / 1000000 % 60 = 0 ∧ offset.natAbs % 1000000 = 0 := by omega
  refine ⟨.offset (offset < 0) (minutes / 60) (minutes % 60) (by omega), ?_, ?_⟩
  · rw [chars, offsetChars, if_pos hwhole, List.append_nil, hhours, hrest]
    simp
  · rw [offset?, Option.some.injEq]
    by_cases hnegative : offset < 0
    · simp only [hnegative, decide_true, if_true]
      omega
    · simp only [hnegative, decide_false, Bool.false_eq_true, if_false]
      omega

/-- Microseconds are written with six digits, or not at all. -/
theorem exists_fraction_of_lt {microsecond : Nat} (h : microsecond < 1000000) :
    ∃ fraction, AllDigits fraction ∧ pointed fraction = fractionChars microsecond ∧
      microseconds fraction = microsecond := by
  by_cases hzero : microsecond = 0
  · refine ⟨[], List.forall_mem_nil _, ?_, hzero.symm⟩
    rw [fractionChars, if_pos hzero]
    rfl
  · have hnormalized : IsNormalized (padded 6 microsecond) :=
      ⟨allDigits_padded 6 microsecond, Or.inr (length_padded (by decide) h)⟩
    refine ⟨padded 6 microsecond, hnormalized.allDigits, ?_, ?_⟩
    · rw [fractionChars, if_neg hzero, pointed,
        if_neg (mt List.isEmpty_iff.1 (padded_ne_nil 6 microsecond))]
    · rw [hnormalized.microseconds_eq, digitsValue_padded]

/-- The standard form of a moment with a whole number of minutes in its offset. -/
theorem Timestamp.exists_isoText {t : Timestamp}
    (h : ∀ offset ∈ t.offset, 60000000 ∣ offset ∧ |offset| < 86400000000) :
    ∃ x : IsoText, t.iso = String.ofList x.chars ∧ x.timestamp = t := by
  obtain ⟨date, ⟨hour, minute, second, microsecond, isTime⟩, offset⟩ := t
  -- the microseconds and the offset are replaced by the characters that they are written with
  obtain ⟨fraction, hdigits, hpointed, rfl⟩ := exists_fraction_of_lt isTime.2.2.2
  obtain ⟨zone, hzone, rfl⟩ : ∃ zone : Zone,
      zone.chars = (offset.map offsetChars).getD [] ∧ zone.offset? = offset := by
    cases offset with
    | none => exact ⟨.none, rfl, rfl⟩
    | some offset => exact Zone.exists_of_minutes (h offset rfl).1 (h offset rfl).2
  refine ⟨⟨date, hour, minute, second, ⟨isTime.1, isTime.2.1, isTime.2.2.1, by decide⟩, fraction,
    hdigits, zone⟩, ?_, rfl⟩
  rw [iso, IsoText.chars, IsoText.clock, clockChars, Time.isoChars, hzone, hpointed]
  simp only [List.append_assoc, List.cons_append]

/-- A text in standard form, between blanks, is read as the moment with just its parts. Its fraction
is cut off at microseconds and never rounded up. A moment is read back from its own standard form,
if its offset is a whole number of minutes. -/
theorem Timestamp.ofText?_iso :
    (∀ (x : IsoText) (before after : List Char), (∀ c ∈ before, isBlank c = true) →
      (∀ c ∈ after, isBlank c = true) →
        ofText? (String.ofList (before ++ (x.chars ++ after))) = some x.timestamp) ∧
      (∀ x : IsoText, x.timestamp.time.microsecond =
        digitsValue x.fraction * 10 ^ 6 / 10 ^ x.fraction.length) ∧
      ∀ t : Timestamp, (∀ offset ∈ t.offset, 60000000 ∣ offset ∧ |offset| < 86400000000) →
        ofText? t.iso = some t := by
  refine ⟨fun x before after hbefore hafter => x.ofText?_chars hbefore hafter,
    fun x => microseconds_eq_div x.allDigits, fun t ht => ?_⟩
  obtain ⟨x, hiso, rfl⟩ := exists_isoText ht
  have hread := x.ofText?_chars (List.forall_mem_nil _) (List.forall_mem_nil _)
  rwa [List.nil_append, List.append_nil, ← hiso] at hread

/-- The last moment of a leap day does not become the next day. -/
theorem Timestamp.ofText?_iso_before_midnight :
    let x : IsoText := ⟨⟨2024, 2, 29, by decide⟩, 23, 59, 59, by decide,
      ['9', '9', '9', '9', '9', '9', '9'], List.all_eq_true.1 rfl, .offset true 9 30 (by decide)⟩
    let t : Timestamp :=
      { date := ⟨2024, 2, 29, by decide⟩
        time := { hour := 23, minute := 59, second := 59, microsecond := 999999 }
        offset := some (-34200000000) }
    [' '].all isBlank ∧ ['\n'].all isBlank ∧
      [' '] ++ (x.chars ++ ['\n']) = " 2024-02-29T23:59:59.9999999-09:30\n".toList ∧
      ofText? (String.ofList ([' '] ++ (x.chars ++ ['\n']))) = some t ∧
      t.iso.toList = "2024-02-29T23:59:59.999999-09:30".toList ∧ ofText? t.iso = some t := by
  intro x t
  obtain ⟨hread, -, hback⟩ := ofText?_iso
  refine ⟨rfl, rfl, by decide,
    hread x [' '] ['\n'] (List.all_eq_true.1 rfl) (List.all_eq_true.1 rfl), ?_, hback t ?_⟩
  · rw [iso, String.toList_ofList]
    decide
  · intro offset hoffset
    obtain rfl := Option.some.inj hoffset
    decide

end IssueGateway.Calendar
