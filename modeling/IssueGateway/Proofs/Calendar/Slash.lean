import IssueGateway.Proofs.Calendar.Field
import IssueGateway.Proofs.Calendar.Order

/-!
# The slash form

A text in slash form has fields of one digit or two behind its year (`SlashText`). The preferred match
of the form with just these fields has each field's own digits, forms with more fields do not match,
and forms with fewer leave text over (`SlashText.ofSlash?_chars`). So the text is read as the moment
with just its fields if there is one (`SlashText.Names`), and as nothing otherwise
(`Timestamp.ofText?_slash`).
-/

namespace IssueGateway.Calendar

open Text Number Pattern

/-- What is written behind the date: nothing, hours and minutes, or seconds as well. -/
inductive SlashClock where
  | none
  | minutes (hour minute : Digits 1 2)
  | seconds (hour minute second : Digits 1 2)

namespace SlashClock

def hour : SlashClock → Nat
  | none => 0
  | minutes hour _ => hour.value
  | seconds hour _ _ => hour.value

def minute : SlashClock → Nat
  | none => 0
  | minutes _ minute => minute.value
  | seconds _ minute _ => minute.value

def second : SlashClock → Nat
  | none => 0
  | minutes _ _ => 0
  | seconds _ _ second => second.value

/-- ` H:M` or ` H:M:S`. -/
def chars : SlashClock → List Char
  | none => []
  | minutes hour minute => ' ' :: (hour.chars ++ ':' :: minute.chars)
  | seconds hour minute second =>
    ' ' :: (hour.chars ++ ':' :: (minute.chars ++ ':' :: second.chars))

end SlashClock

/-- A text in slash form, whatever moment it names. -/
structure SlashText where
  year : Digits 4 4
  month : Digits 1 2
  day : Digits 1 2
  clock : SlashClock

namespace SlashText

def dateChars (x : SlashText) (rest : List Char) : List Char :=
  x.year.chars ++ '/' :: (x.month.chars ++ '/' :: (x.day.chars ++ rest))

/-- `YYYY/M/D`, with a clock or without. -/
def chars (x : SlashText) : List Char :=
  x.dateChars x.clock.chars

def parts (x : SlashText) : SlashParts :=
  ⟨(x.year.value, x.month.value, x.day.value), x.clock.hour, x.clock.minute, x.clock.second⟩

/-- The ranges that the patterns of month and day allow. -/
def DateInRange (x : SlashText) : Prop :=
  (1 ≤ x.month.value ∧ x.month.value ≤ 12) ∧ 1 ≤ x.day.value ∧ x.day.value ≤ 31

/-- The ranges that the patterns of all fields allow. -/
def InRange (x : SlashText) : Prop :=
  x.DateInRange ∧ x.clock.hour ≤ 23 ∧ x.clock.minute ≤ 59 ∧ x.clock.second ≤ 61

variable (x : SlashText) {rest : List Char}

theorem leads_date (hrest : EndsDigits rest) :
    Leads date (x.dateChars rest) x.DateInRange x.parts.date rest := by
  have hslash : ∀ rest, EndsDigits ('/' :: rest) := endsDigits_cons (by decide)
  refine Leads.only (year_of_four x.year _) (Leads.only (char_self '/' _) ?_)
  refine (readsField_month x.month (hslash _)).andThen
    (fun _ _ => char_of_goesOn rfl _) (Leads.only (char_self '/' _) ?_)
  exact (readsField_day x.day hrest).map fun d => (x.year.value, x.month.value, d)

end SlashText

theorem leads_hourMinute (hour minute : Digits 1 2) {rest : List Char} (hrest : EndsDigits rest) :
    Leads hourMinute (hour.chars ++ ':' :: (minute.chars ++ rest))
      (hour.value ≤ 23 ∧ minute.value ≤ 59) (hour.value, minute.value) rest := by
  have hhour := readsField_hour hour (endsDigits_cons (c := ':') (by decide) (minute.chars ++ rest))
  have hminute := (readsField_minute minute hrest).map fun m => (hour.value, m)
  exact hhour.andThen (fun _ _ => char_of_goesOn rfl _) (Leads.only (char_self ':' _) hminute)

def secondsForm : Pattern SlashParts :=
  date.andThen fun d => blanks.andThen fun _ => hourMinute.andThen fun (h, m) =>
    (char ':').andThen fun _ => second.andThen fun s => done ⟨d, h, m, s⟩

def minutesForm : Pattern SlashParts :=
  date.andThen fun d => blanks.andThen fun _ => hourMinute.andThen fun (h, m) => done ⟨d, h, m, 0⟩

def dateForm : Pattern SlashParts :=
  date.andThen fun d => done ⟨d, 0, 0, 0⟩

theorem Timestamp.ofSlash?_eq (cs : List Char) : Timestamp.ofSlash? cs =
    (readSlash? secondsForm cs).or
      ((readSlash? minutesForm cs).or (readSlash? dateForm cs)) := by
  change [secondsForm, minutesForm, dateForm].findSome? (fun form => readSlash? form cs) = _
  rw [List.findSome?_cons, List.findSome?_cons, List.findSome?_cons]
  cases readSlash? secondsForm cs <;> cases readSlash? minutesForm cs <;>
    cases readSlash? dateForm cs <;> rfl

/-- A form whose first match uses up the text is read. -/
theorem readSlash?_of_leads {form : Pattern SlashParts} {cs : List Char} {ok : Prop}
    {parts : SlashParts} (h : Leads form cs ok parts []) (hok : ok) :
    readSlash? form cs = parts.timestamp? := by
  obtain ⟨found, others, heq, hfound, -, -⟩ := h
  rw [readSlash?, heq, hfound hok]
  rfl

/-- A form without such a match is not. -/
theorem readSlash?_eq_none {form : Pattern SlashParts} {cs rest : List Char} {ok : Prop}
    {parts : SlashParts} (h : Leads form cs ok parts rest) (hleft : ok → rest ≠ []) :
    readSlash? form cs = none := by
  obtain ⟨found, others, heq, hfound, hnone, hothers⟩ := h
  by_cases hok : ok
  · obtain ⟨c, rest, rfl⟩ := List.exists_cons_of_ne_nil (hleft hok)
    rw [readSlash?, heq, hfound hok]
    rfl
  · rw [readSlash?, heq, hnone hok]
    cases others with
    | nil => rfl
    | cons other others =>
      obtain ⟨parts, rest⟩ := other
      obtain ⟨c, rest, -, rfl⟩ := hothers _ List.mem_cons_self
      rfl

namespace SlashText

variable (x : SlashText) {rest : List Char}

theorem leads_dateForm (hrest : EndsDigits rest) : Leads dateForm (x.dateChars rest) x.DateInRange
    ⟨x.parts.date, 0, 0, 0⟩ rest :=
  (x.leads_date hrest).map fun d => (⟨d, 0, 0, 0⟩ : SlashParts)

/-- A clock stands behind the date and one space. -/
theorem leads_clock {q : ℕ × ℕ × ℕ → Pattern SlashParts} {hour : Digits 1 2} {behind : List Char}
    {ok : Prop} {parts : SlashParts}
    (hnext : Leads (q x.parts.date) (hour.chars ++ behind) ok parts rest) :
    Leads (date.andThen fun d => blanks.andThen fun _ => q d)
      (x.dateChars (' ' :: (hour.chars ++ behind))) (x.DateInRange ∧ ok) parts rest :=
  (x.leads_date (endsDigits_cons (by decide) _)).andThen (fun d _ => blanks_of_goesOn fun _ => q d)
    (Leads.only (blanks_space (hour.goesOn behind)) hnext)

theorem leads_minutesForm (hour minute : Digits 1 2) (hrest : EndsDigits rest) :
    Leads minutesForm (x.dateChars (' ' :: (hour.chars ++ ':' :: (minute.chars ++ rest))))
      (x.DateInRange ∧ hour.value ≤ 23 ∧ minute.value ≤ 59)
      ⟨x.parts.date, hour.value, minute.value, 0⟩ rest := by
  refine x.leads_clock (q := fun d => hourMinute.andThen fun (h, m) => done ⟨d, h, m, 0⟩) ?_
  exact (leads_hourMinute hour minute hrest).map fun (h, m) => (⟨x.parts.date, h, m, 0⟩ : SlashParts)

theorem leads_secondsForm (hour minute second : Digits 1 2) (hrest : EndsDigits rest) :
    Leads secondsForm (x.dateChars (' ' :: (hour.chars ++ ':' :: (minute.chars ++
        ':' :: (second.chars ++ rest)))))
      (x.DateInRange ∧ (hour.value ≤ 23 ∧ minute.value ≤ 59) ∧ second.value ≤ 61)
      ⟨x.parts.date, hour.value, minute.value, second.value⟩ rest := by
  have hsecond := (readsField_second second hrest).map fun s =>
    (⟨x.parts.date, hour.value, minute.value, s⟩ : SlashParts)
  refine x.leads_clock (q := fun d => hourMinute.andThen fun (h, m) =>
    (char ':').andThen fun _ => Pattern.second.andThen fun s => done ⟨d, h, m, s⟩) ?_
  exact (leads_hourMinute hour minute (endsDigits_cons (by decide) _)).andThen
    (fun _ _ => char_of_goesOn rfl _)
    (Leads.only (char_self ':' _) hsecond)

/-- Forms with a clock do not match a text without one. -/
theorem readSlash?_without_clock (q : ℕ × ℕ × ℕ → Pattern SlashParts) :
    readSlash? (date.andThen fun d => blanks.andThen fun _ => q d) (x.dateChars []) = none := by
  have hnone : Leads (blanks.andThen fun _ => q x.parts.date) [] False x.parts [] := Leads.of_nil rfl
  exact readSlash?_eq_none ((x.leads_date endsDigits_nil).andThen
    (fun d _ => blanks_of_goesOn fun _ => q d) hnone) fun hok => hok.2.elim

/-- The form with seconds does not match a text without them. -/
theorem readSlash?_without_second (hour minute : Digits 1 2) :
    readSlash? secondsForm
      (x.dateChars (' ' :: (hour.chars ++ ':' :: (minute.chars ++ [])))) = none := by
  have hnone : Leads ((char ':').andThen fun _ => Pattern.second.andThen fun s =>
      done (⟨x.parts.date, hour.value, minute.value, s⟩ : SlashParts)) [] False x.parts [] :=
    Leads.of_nil rfl
  have hleads := x.leads_clock (q := fun d => hourMinute.andThen fun (h, m) =>
    (char ':').andThen fun _ => Pattern.second.andThen fun s => done ⟨d, h, m, s⟩)
    ((leads_hourMinute hour minute endsDigits_nil).andThen (fun _ _ => char_of_goesOn rfl _) hnone)
  exact readSlash?_eq_none hleads fun hok => hok.2.2.elim

/-- The form of the text itself starts with its parts, if they are in range; the forms with more
fields do not match, those with fewer do not use up the text. -/
theorem ofSlash?_chars : (x.InRange → Timestamp.ofSlash? x.chars = x.parts.timestamp?) ∧
    (¬ x.InRange → Timestamp.ofSlash? x.chars = none) := by
  rw [Timestamp.ofSlash?_eq, chars, InRange, parts]
  have hleft : ∀ {behind : List Char}, readSlash? dateForm (x.dateChars (' ' :: behind)) = none :=
    readSlash?_eq_none (x.leads_dateForm (endsDigits_cons (by decide) _)) fun _ => nofun
  cases x.clock with
  | none =>
    have hlong : readSlash? secondsForm (x.dateChars []) = none := x.readSlash?_without_clock _
    have hmiddle : readSlash? minutesForm (x.dateChars []) = none := x.readSlash?_without_clock _
    have hshort := x.leads_dateForm endsDigits_nil
    rw [SlashClock.chars, hlong, hmiddle, Option.none_or, Option.none_or]
    refine ⟨fun hrange => readSlash?_of_leads hshort hrange.1, fun hrange => ?_⟩
    exact readSlash?_eq_none hshort fun hok => absurd ⟨hok, by decide⟩ hrange
  | minutes hour minute =>
    have hlong := x.readSlash?_without_second hour minute
    have hmiddle := x.leads_minutesForm hour minute endsDigits_nil
    rw [List.append_nil] at hlong hmiddle
    rw [SlashClock.chars, hlong, hleft, Option.none_or, Option.or_none]
    refine ⟨fun hrange => readSlash?_of_leads hmiddle ⟨hrange.1, hrange.2.1, hrange.2.2.1⟩,
      fun hrange => ?_⟩
    exact readSlash?_eq_none hmiddle fun hok =>
      absurd ⟨hok.1, hok.2.1, hok.2.2, Nat.zero_le _⟩ hrange
  | seconds hour minute second =>
    have hlong := x.leads_secondsForm hour minute second endsDigits_nil
    have hmiddle := readSlash?_eq_none (x.leads_minutesForm hour minute
      (endsDigits_cons (c := ':') (by decide) second.chars)) fun _ => nofun
    rw [List.append_nil] at hlong
    rw [SlashClock.chars, hmiddle, hleft, Option.or_none, Option.or_none]
    refine ⟨fun hrange => readSlash?_of_leads hlong
      ⟨hrange.1, ⟨hrange.2.1, hrange.2.2.1⟩, hrange.2.2.2⟩, fun hrange => ?_⟩
    exact readSlash?_eq_none hlong fun hok =>
      absurd ⟨hok.1, hok.2.1.1, hok.2.1.2, hok.2.2⟩ hrange

/-- The moment that a text names: the one with its fields, where what is not written is zero, and
without an offset. -/
structure Names (x : SlashText) (t : Timestamp) : Prop where
  year_eq : t.date.year = x.year.value
  month_eq : t.date.month = x.month.value
  day_eq : t.date.day = x.day.value
  hour_eq : t.time.hour = x.clock.hour
  minute_eq : t.time.minute = x.clock.minute
  second_eq : t.time.second = x.clock.second
  microsecond_eq : t.time.microsecond = 0
  offset_eq : t.offset = none

theorem timestamp?_parts_eq_some_iff {t : Timestamp} :
    x.parts.timestamp? = some t ↔ x.Names t := by
  rw [SlashParts.timestamp?]
  simp only [Option.bind_eq_bind, Option.bind_eq_some_iff, Date.of?_eq_some_iff,
    Time.of?_eq_some_iff, Option.pure_def, Option.some.injEq]
  constructor
  · rintro ⟨date, ⟨hyear, hmonth, hday⟩, time, ⟨hhour, hminute, hsecond, hmicrosecond⟩, rfl⟩
    exact ⟨hyear, hmonth, hday, hhour, hminute, hsecond, hmicrosecond, rfl⟩
  · obtain ⟨date, time, offset⟩ := t
    rintro ⟨hyear, hmonth, hday, hhour, hminute, hsecond, hmicrosecond, rfl⟩
    exact ⟨date, ⟨hyear, hmonth, hday⟩, time, ⟨hhour, hminute, hsecond, hmicrosecond⟩, rfl⟩

theorem Names.inRange {x : SlashText} {t : Timestamp} (h : x.Names t) : x.InRange := by
  obtain ⟨-, hmonth, hday, hlast⟩ := t.date.isDate
  obtain ⟨hhour, hminute, hsecond, -⟩ := t.time.isTime
  have hle := daysInMonth_le t.date.year t.date.month
  rw [h.month_eq] at hmonth
  rw [h.day_eq] at hday hlast
  rw [h.hour_eq] at hhour
  rw [h.minute_eq] at hminute
  rw [h.second_eq] at hsecond
  exact ⟨⟨hmonth, hday, hlast.trans hle⟩, Nat.le_of_lt_succ hhour, Nat.le_of_lt_succ hminute,
    by omega⟩

theorem ofSlash?_eq_some_iff {t : Timestamp} : Timestamp.ofSlash? x.chars = some t ↔ x.Names t := by
  obtain ⟨hread, hnone⟩ := x.ofSlash?_chars
  rw [← timestamp?_parts_eq_some_iff]
  by_cases hrange : x.InRange
  · rw [hread hrange]
  · rw [hnone hrange]
    refine ⟨nofun, fun h => ?_⟩
    exact absurd (x.timestamp?_parts_eq_some_iff.1 h).inRange hrange

end SlashText

/-- No date in standard form goes on with a slash behind its year. -/
theorem Timestamp.ofIso?_of_slash (d : Digits 4 4) (rest : List Char) :
    Timestamp.ofIso? (d.chars ++ '/' :: rest) = none := by
  obtain ⟨a, b, c, e, ⟨ha, hb, hc, he⟩, hchars, -⟩ := d.exists_four
  have hbytes : textBytes (d.chars ++ '/' :: rest) =
      ascii a :: ascii b :: ascii c :: ascii e :: ascii '/' :: textBytes rest := by
    rw [hchars, List.cons_append, List.cons_append, List.cons_append, List.cons_append,
      List.nil_append, textBytes_cons (lt_of_isDigit ha), textBytes_cons (lt_of_isDigit hb),
      textBytes_cons (lt_of_isDigit hc), textBytes_cons (lt_of_isDigit he),
      textBytes_cons (by decide)]
  have hdate : ∀ length, readDate? (textBytes (d.chars ++ '/' :: rest)) length = none := by
    intro length
    rw [hbytes]
    generalize textBytes rest = behind
    have hdashed : isCharAt (ascii a :: ascii b :: ascii c :: ascii e :: ascii '/' :: behind) 4 '-' =
      false := rfl
    have hweek : isCharAt (ascii a :: ascii b :: ascii c :: ascii e :: ascii '/' :: behind) 4 'W' =
      false := rfl
    have hmonth : digitsAt? (ascii a :: ascii b :: ascii c :: ascii e :: ascii '/' :: behind) 4 2 =
      none := rfl
    simp [readDate?, hdashed, hweek, hmonth]
  rw [ofIso?]
  simp only [Option.bind_eq_bind, hdate, Option.bind_none, Option.bind_fun_none]

namespace SlashText

variable (x : SlashText)

/-- A text has digits, slashes, spaces and colons in it and no other character. -/
theorem not_mem_chars {mark : Char} (hdigit : mark.isDigit = false)
    (hother : mark ∉ ['/', ' ', ':']) : mark ∉ x.chars := by
  have hdigits {low high : Nat} (d : Digits low high) : mark ∉ d.chars := d.allDigits.not_mem hdigit
  simp only [List.mem_cons, List.not_mem_nil, or_false, not_or] at hother
  rw [chars, dateChars]
  cases x.clock <;> simp [SlashClock.chars, hdigits, hother]

theorem isBlank_head? : ∀ c ∈ x.chars.head?, isBlank c = false := by
  obtain ⟨a, b, c, e, ⟨ha, -⟩, hchars, -⟩ := x.year.exists_four
  rw [chars, dateChars, hchars]
  intro first hfirst
  obtain rfl := Option.some.inj hfirst
  exact isBlank_of_isDigit ha

/-- The text ends with its last field. -/
theorem exists_chars_eq : ∃ (front : List Char) (d : Digits 1 2), x.chars = front ++ d.chars := by
  rw [chars, dateChars]
  cases x.clock with
  | none =>
    exact ⟨x.year.chars ++ '/' :: (x.month.chars ++ ['/']), x.day, by simp [SlashClock.chars]⟩
  | minutes hour minute =>
    exact ⟨x.year.chars ++ '/' :: (x.month.chars ++ '/' :: (x.day.chars ++ ' ' ::
      (hour.chars ++ [':']))), minute, by simp [SlashClock.chars]⟩
  | seconds hour minute second =>
    exact ⟨x.year.chars ++ '/' :: (x.month.chars ++ '/' :: (x.day.chars ++ ' ' ::
      (hour.chars ++ ':' :: (minute.chars ++ [':'])))), second, by simp [SlashClock.chars]⟩

theorem isBlank_getLast? : ∀ c ∈ x.chars.getLast?, isBlank c = false := by
  obtain ⟨front, d, hchars⟩ := x.exists_chars_eq
  intro c hc
  have hne : d.chars ≠ [] := List.ne_nil_of_length_pos d.low_le
  rw [hchars, List.getLast?_append_of_ne_nil _ hne] at hc
  exact isBlank_of_isDigit (d.allDigits c (List.mem_of_getLast? hc))

theorem chars_ne_nil : x.chars ≠ [] := by
  rw [chars, dateChars]
  exact List.append_ne_nil_of_right_ne_nil _ (List.cons_ne_nil _ _)

/-- The fields name a moment just if they are a date and a time of day. -/
theorem exists_names_iff : (∃ t, x.Names t) ↔
    IsDate x.year.value x.month.value x.day.value ∧
      x.clock.hour ≤ 23 ∧ x.clock.minute ≤ 59 ∧ x.clock.second ≤ 59 := by
  constructor
  · rintro ⟨t, h⟩
    obtain ⟨hhour, hminute, hsecond, -⟩ := t.time.isTime
    have hdate := t.date.isDate
    rw [h.year_eq, h.month_eq, h.day_eq] at hdate
    rw [h.hour_eq] at hhour
    rw [h.minute_eq] at hminute
    rw [h.second_eq] at hsecond
    exact ⟨hdate, Nat.le_of_lt_succ hhour, Nat.le_of_lt_succ hminute, Nat.le_of_lt_succ hsecond⟩
  · rintro ⟨hdate, hhour, hminute, hsecond⟩
    refine ⟨{ date := ⟨_, _, _, hdate⟩, time := ⟨_, _, _, 0, ?_⟩ }, rfl, rfl, rfl, rfl, rfl, rfl,
      rfl, rfl⟩
    exact ⟨Nat.lt_succ_of_le hhour, Nat.lt_succ_of_le hminute, Nat.lt_succ_of_le hsecond,
      by decide⟩

end SlashText

/-- A text in slash form, between blanks, is read as the moment with just its fields, which are each
of one digit or two, and as nothing if there is no such moment. -/
theorem Timestamp.ofText?_slash (x : SlashText) {before after : List Char}
    (hbefore : ∀ c ∈ before, isBlank c = true) (hafter : ∀ c ∈ after, isBlank c = true) :
    (∀ t, Timestamp.ofText? (String.ofList (before ++ (x.chars ++ after))) = some t ↔ x.Names t) ∧
      ((Timestamp.ofText? (String.ofList (before ++ (x.chars ++ after)))).isSome ↔
        IsDate x.year.value x.month.value x.day.value ∧
          x.clock.hour ≤ 23 ∧ x.clock.minute ≤ 59 ∧ x.clock.second ≤ 59) := by
  have hiso : Timestamp.ofIso? x.chars = none := ofIso?_of_slash x.year _
  have hread : Timestamp.ofText? (String.ofList (before ++ (x.chars ++ after))) =
      Timestamp.ofSlash? x.chars := by
    rw [ofText?_between hbefore hafter x.chars_ne_nil x.isBlank_head? x.isBlank_getLast?,
      spellOutUtc_of_not_mem (x.not_mem_chars rfl (by decide)),
      normalizeFractions_of_not_mem (x.not_mem_chars rfl (by decide)), hiso, Option.none_or]
  rw [hread, ← x.exists_names_iff, Option.isSome_iff_exists]
  exact ⟨fun t => x.ofSlash?_eq_some_iff, exists_congr fun t => x.ofSlash?_eq_some_iff⟩

/-- Fields with a zero in front and without on a leap day, and a second that no minute has. -/
theorem Timestamp.ofText?_slash_on_leap_day :
    let year : Digits 4 4 := ⟨['2', '0', '2', '4'], List.all_eq_true.1 rfl, by decide, by decide⟩
    let month : Digits 1 2 := ⟨['0', '2'], List.all_eq_true.1 rfl, by decide, by decide⟩
    let day : Digits 1 2 := ⟨['2', '9'], List.all_eq_true.1 rfl, by decide, by decide⟩
    let hour : Digits 1 2 := ⟨['7'], List.all_eq_true.1 rfl, by decide, by decide⟩
    let second : Digits 1 2 := ⟨['6', '0'], List.all_eq_true.1 rfl, by decide, by decide⟩
    let x : SlashText := ⟨year, month, day, .minutes hour hour⟩
    let y : SlashText := ⟨year, month, day, .seconds hour hour second⟩
    [' '].all isBlank ∧ ['\n'].all isBlank ∧
      [' '] ++ (x.chars ++ ['\n']) = " 2024/02/29 7:7\n".toList ∧
      ofText? (String.ofList ([' '] ++ (x.chars ++ ['\n']))) =
        some { date := ⟨2024, 2, 29, by decide⟩, time := { hour := 7, minute := 7 } } ∧
      ofText? (String.ofList ([' '] ++ (y.chars ++ ['\n']))) = none := by
  intro year month day hour second x y
  have hbefore : ∀ c ∈ [' '], isBlank c = true := List.all_eq_true.1 rfl
  have hafter : ∀ c ∈ ['\n'], isBlank c = true := List.all_eq_true.1 rfl
  have hminute := (ofText?_slash x hbefore hafter).1
  have hsecond := (ofText?_slash y hbefore hafter).2
  refine ⟨rfl, rfl, by decide, (hminute _).2 ⟨rfl, rfl, rfl, rfl, rfl, rfl, rfl, rfl⟩, ?_⟩
  rw [← Option.not_isSome_iff_eq_none, hsecond]
  exact fun hmoment => absurd hmoment.2.2.2 (by decide)

end IssueGateway.Calendar
