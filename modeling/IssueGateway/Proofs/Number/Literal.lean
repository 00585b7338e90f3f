import IssueGateway.Number.Literal
import IssueGateway.Proofs.Number.Numeral
import IssueGateway.Proofs.Text.Trim

/-!
# Texts of numbers

Which texts are read as a number, and as which. Around a number there may be blanks, and between two
of its digits an underscore. An integer is a sign, if any, and digits (`readInteger_eq_ok_iff`). A
real is a sign, if any, before digits with at most one point and an exponent, if any, or before one
of three words in any case (`readReal?_eq_some_iff`). No other text is read.
-/

namespace IssueGateway.Number

open Text

/-- A text in which single underscores stand between some of the digits of another. -/
inductive Spelled : List Char → List Char → Prop
  | nil : Spelled [] []
  | char {c : Char} {cs plain : List Char} (hc : c ≠ '_') (h : Spelled cs plain) :
      Spelled (c :: cs) (c :: plain)
  | underscore {c d : Char} {cs plain : List Char} (hc : c.isDigit = true) (hd : d.isDigit = true)
      (h : Spelled (d :: cs) plain) : Spelled (c :: '_' :: d :: cs) (c :: plain)

/-- A text with a sign in front, which tells whether the number is negative, or without. -/
inductive Signed : Bool → List Char → List Char → Prop
  | unsigned (cs : List Char) : Signed false cs cs
  | plus (cs : List Char) : Signed false cs ('+' :: cs)
  | minus (cs : List Char) : Signed true cs ('-' :: cs)

/-- A whole number with the sign of its text. -/
def signedValue (negative : Bool) (digits : List Char) : Int :=
  if negative then -(digitsValue digits : Int) else digitsValue digits

/-- Whether a text denotes an integer: digits of any script, not too many, with a sign or without. -/
def IntegerText (s : String) (n : Int) : Prop :=
  ∃ core body digits negative, TrimsTo isNumeralBlank (asciiDigits s.toList) core ∧
    Signed negative body core ∧ Spelled body digits ∧ digits ≠ [] ∧ AllDigits digits ∧
    digits.length ≤ maxIntegerDigits ∧ n = signedValue negative digits

/-- Digits with at most one point, by what stands before the point and behind it. -/
inductive Pointed : List Char → List Char → List Char → Prop
  | whole {digits : List Char} (h : AllDigits digits) : Pointed digits [] digits
  | point {whole fraction : List Char} (hwhole : AllDigits whole) (hfraction : AllDigits fraction) :
      Pointed whole fraction (whole ++ '.' :: fraction)

/-- An exponent, if there is one: an `e` before digits with a sign or without. -/
inductive Exponent : Int → List Char → Prop
  | none : Exponent 0 []
  | some {e : Char} {negative : Bool} {digits cs : List Char} (he : e = 'e' ∨ e = 'E')
      (hsign : Signed negative digits cs) (hne : digits ≠ []) (hdigits : AllDigits digits) :
      Exponent (signedValue negative digits) (e :: cs)

/-- Whether a text is a word of small letters, in any case. -/
def IsWord (word : String) (cs : List Char) : Prop :=
  cs.map Char.toLower = word.toList

/-- Whether a text without a sign denotes a real. -/
inductive Magnitude (negative : Bool) : List Char → Float → Prop
  | infinite {cs : List Char} (h : IsWord "inf" cs ∨ IsWord "infinity" cs) :
      Magnitude negative cs (withSign negative infinityBits)
  | notANumber {cs : List Char} (h : IsWord "nan" cs) : Magnitude negative cs notANumber
  | decimal {whole fraction mantissa exponent : List Char} {e : Int}
      (hmantissa : Pointed whole fraction mantissa) (hne : whole ++ fraction ≠ [])
      (hexponent : Exponent e exponent) : Magnitude negative (mantissa ++ exponent)
        (ofDecimal negative (digitsValue (whole ++ fraction)) (e - fraction.length))

/-- Whether a text denotes a real, in digits of any script. -/
def RealText (s : String) (x : Float) : Prop :=
  ∃ core plain body negative, TrimsTo isNumeralBlank (asciiDigits s.toList) core ∧
    Spelled core plain ∧ Signed negative body plain ∧ Magnitude negative body x

section Digits

variable {c : Char} {cs plain : List Char} {n : Nat}

theorem asciiDigit?_eq (c : Char) :
    asciiDigit? c = if c.isDigit then some (c.toNat - '0'.toNat) else none := by
  rw [asciiDigit?]
  congr 1

theorem isSome_asciiDigit? (c : Char) : (asciiDigit? c).isSome = c.isDigit := by
  rw [asciiDigit?_eq]
  split <;> simp_all

theorem mapM_asciiDigit? (hdigits : AllDigits cs) :
    cs.mapM asciiDigit? = some (cs.map fun c => c.toNat - '0'.toNat) := by
  induction cs with
  | nil => rfl
  | cons c rest ih =>
    rw [List.mapM_cons, asciiDigit?_eq, if_pos (hdigits c List.mem_cons_self),
      ih fun d hd => hdigits d (List.mem_cons_of_mem _ hd)]
    rfl

theorem allDigits_of_mapM {digits : List Nat} (h : cs.mapM asciiDigit? = some digits) :
    AllDigits cs := by
  induction cs generalizing digits with
  | nil => exact fun c hc => absurd hc List.not_mem_nil
  | cons c rest ih =>
    rw [List.mapM_cons, Option.bind_eq_bind, Option.bind_eq_some_iff] at h
    obtain ⟨d, hd, h⟩ := h
    rw [Option.bind_eq_bind, Option.bind_eq_some_iff] at h
    obtain ⟨ds, hds, -⟩ := h
    refine List.forall_mem_cons.2 ⟨?_, ih hds⟩
    rw [← isSome_asciiDigit?, hd]
    rfl

/-- Digits are read as the number that they stand for, and nothing else is. -/
theorem readNatural?_eq_some_iff :
    readNatural? cs = some n ↔ cs ≠ [] ∧ AllDigits cs ∧ n = digitsValue cs := by
  rw [readNatural?]
  constructor
  · intro h
    split at h
    · cases h
    · rename_i hne
      obtain ⟨digits, hdigits, rfl⟩ := Option.map_eq_some_iff.1 h
      have hall := allDigits_of_mapM hdigits
      rw [mapM_asciiDigit? hall] at hdigits
      obtain rfl := Option.some.inj hdigits
      refine ⟨fun hnil => hne (List.isEmpty_iff.2 hnil), hall, ?_⟩
      rw [ofDigits, List.foldl_map]
      rfl
  · rintro ⟨hne, hall, rfl⟩
    rw [if_neg fun hnil => hne (List.isEmpty_iff.1 hnil), mapM_asciiDigit? hall, Option.map_some,
      ofDigits, List.foldl_map]
    rfl

end Digits

section Underscores

variable {cs plain : List Char}

theorem ne_underscore_of_isDigit {c : Char} (h : c.isDigit = true) : c ≠ '_' := by
  rintro rfl
  cases h

theorem Spelled.head_ne (h : Spelled cs plain) : ∀ c ∈ cs.head?, c ≠ '_' := by
  rintro c hc
  cases h with
  | nil => cases hc
  | char hne => exact Option.some.inj hc ▸ hne
  | underscore hdigit => exact Option.some.inj hc ▸ ne_underscore_of_isDigit hdigit

theorem Spelled.head?_eq (h : Spelled cs plain) : cs.head? = plain.head? := by
  cases h <;> rfl

theorem spelled_of_dropUnderscores (h : dropUnderscores cs = some plain) : Spelled cs plain := by
  fun_induction dropUnderscores cs generalizing plain with
  | case1 =>
    obtain rfl := Option.some.inj h
    exact .nil
  | case2 => cases h
  | case3 c hc =>
    obtain rfl := Option.some.inj h
    exact .char hc .nil
  | case4 => cases h
  | case5 c d rest hc hdigits ih =>
    obtain ⟨tail, htail, rfl⟩ := Option.map_eq_some_iff.1 h
    rw [isSome_asciiDigit?, isSome_asciiDigit?, Bool.and_eq_true] at hdigits
    exact .underscore hdigits.1 hdigits.2 (ih htail)
  | case6 => cases h
  | case7 c rest _ _ hc _ ih =>
    obtain ⟨tail, htail, rfl⟩ := Option.map_eq_some_iff.1 h
    exact .char hc (ih htail)

theorem dropUnderscores_eq_some_iff : dropUnderscores cs = some plain ↔ Spelled cs plain := by
  refine ⟨spelled_of_dropUnderscores, fun h => ?_⟩
  induction h with
  | nil => rfl
  | @char c cs plain hc h ih =>
    cases cs with
    | nil =>
      obtain rfl := Option.some.inj ih
      exact dropUnderscores.eq_3 c hc
    | cons d rest =>
      have hnext : ∀ e more, d :: rest = '_' :: e :: more → False :=
        fun _ _ heq => h.head_ne d rfl (List.cons.inj heq).1
      rw [dropUnderscores.eq_6 c (d :: rest) (fun heq _ => hc heq) (by simp) hc hnext, ih]
      rfl
  | @underscore c d cs plain hc hd h ih =>
    rw [dropUnderscores.eq_5 c d cs (ne_underscore_of_isDigit hc), isSome_asciiDigit?,
      isSome_asciiDigit?, hc, hd, Bool.and_self, if_pos rfl, ih]
    rfl

end Underscores

section Sign

variable {negative : Bool} {cs body : List Char}

theorem signed_takeSign (cs : List Char) : Signed (takeSign cs).1 (takeSign cs).2 cs := by
  rw [takeSign.eq_def]
  split
  · exact .minus _
  · exact .plus _
  · exact .unsigned _

theorem Signed.takeSign_eq (h : Signed negative body cs)
    (hbody : ∀ c ∈ body.head?, c ≠ '-' ∧ c ≠ '+') : takeSign cs = (negative, body) := by
  cases h with
  | unsigned =>
    rw [takeSign.eq_def]
    split
    · exact absurd rfl (hbody '-' rfl).1
    · exact absurd rfl (hbody '+' rfl).2
    · rfl
  | plus => rfl
  | minus => rfl

theorem not_sign_of_isDigit {c : Char} (h : c.isDigit = true) : c ≠ '-' ∧ c ≠ '+' := by
  constructor
  · rintro rfl
    cases h
  · rintro rfl
    cases h

end Sign

section Integer

variable {s : String} {n : Int}

theorem integerText_of_readInteger (h : readInteger s = .ok n) : IntegerText s n := by
  have hcore := trimsTo_trimBy isNumeralBlank (asciiDigits s.toList)
  have hsign := signed_takeSign (trimBy isNumeralBlank (asciiDigits s.toList))
  rw [readInteger] at h
  dsimp only at h
  split at h
  · cases h
  rename_i digits hdigits
  split at h
  · cases h
  rename_i magnitude hmagnitude
  split at h
  · cases h
  rename_i hlength
  obtain ⟨hne, hall, rfl⟩ := readNatural?_eq_some_iff.1 hmagnitude
  exact ⟨_, _, digits, _, hcore, hsign, spelled_of_dropUnderscores hdigits, hne, hall,
    Nat.le_of_not_lt hlength, (Except.ok.inj h).symm⟩

/-- The integers that are read, and from which texts. -/
theorem readInteger_eq_ok_iff : readInteger s = .ok n ↔ IntegerText s n := by
  refine ⟨integerText_of_readInteger, ?_⟩
  rintro ⟨core, body, digits, negative, hcore, hsign, hspelled, hne, hall, hlength, rfl⟩
  have hbody : ∀ c ∈ body.head?, c ≠ '-' ∧ c ≠ '+' := by
    intro c hc
    rw [hspelled.head?_eq] at hc
    exact not_sign_of_isDigit (hall c (List.mem_of_mem_head? hc))
  rw [readInteger, hcore.trimBy_eq, hsign.takeSign_eq hbody]
  dsimp only
  rw [dropUnderscores_eq_some_iff.2 hspelled]
  dsimp only
  rw [readNatural?_eq_some_iff.2 ⟨hne, hall, rfl⟩]
  dsimp only
  rw [if_neg (Nat.not_lt.2 hlength)]
  rfl

end Integer

section Real

variable {negative : Bool} {whole fraction mantissa rest cs : List Char} {e : Int} {x : Float}

/-- The exponent that follows a mantissa. -/
def exponent? : List Char → Option Int
  | [] => some 0
  | c :: cs => if c = 'e' ∨ c = 'E' then readExponent? cs else none

theorem readExponent?_eq_some_iff : readExponent? cs = some e ↔
    ∃ negative digits, Signed negative digits cs ∧ digits ≠ [] ∧ AllDigits digits ∧
      e = signedValue negative digits := by
  rw [readExponent?]
  constructor
  · intro h
    obtain ⟨n, hn, he⟩ := Option.map_eq_some_iff.1 h
    obtain ⟨m, hm, hmn⟩ := Option.bind_eq_some_iff.1 hn
    obtain rfl : (m : Int) = n := Option.some.inj hmn
    obtain ⟨hne, hall, rfl⟩ := readNatural?_eq_some_iff.1 hm
    exact ⟨_, _, signed_takeSign cs, hne, hall, he.symm⟩
  · rintro ⟨negative, digits, hsign, hne, hall, rfl⟩
    rw [hsign.takeSign_eq fun c hc => not_sign_of_isDigit (hall c (List.mem_of_mem_head? hc))]
    dsimp only
    rw [readNatural?_eq_some_iff.2 ⟨hne, hall, rfl⟩]
    rfl

theorem exponent?_eq_some_iff : exponent? rest = some e ↔ Exponent e rest := by
  constructor
  · intro h
    cases rest with
    | nil =>
      obtain rfl := Option.some.inj h
      exact .none
    | cons c cs =>
      rw [exponent?] at h
      split at h
      · rename_i hc
        obtain ⟨negative, digits, hsign, hne, hall, rfl⟩ := readExponent?_eq_some_iff.1 h
        exact .some hc hsign hne hall
      · cases h
  · intro h
    cases h with
    | none => rfl
    | some he hsign hne hall =>
      rw [exponent?, if_pos he]
      exact readExponent?_eq_some_iff.2 ⟨_, _, hsign, hne, hall, rfl⟩

/-- The digits behind a point, if there is one, and what follows them. -/
def splitFraction : List Char → List Char × List Char
  | '.' :: rest => (rest.takeWhile Char.isDigit, rest.dropWhile Char.isDigit)
  | rest => ([], rest)

theorem splitFraction_of_ne (h : ∀ c ∈ rest.head?, c ≠ '.') : splitFraction rest = ([], rest) := by
  rw [splitFraction.eq_def]
  split
  · exact absurd rfl (h '.' rfl)
  · rfl

theorem readDecimal?_eq (negative : Bool) (cs : List Char) : readDecimal? negative cs =
    (readNatural? (cs.takeWhile Char.isDigit ++ (splitFraction (cs.dropWhile Char.isDigit)).1)).bind
      fun digits => (exponent? (splitFraction (cs.dropWhile Char.isDigit)).2).map fun e =>
        ofDecimal negative digits (e - (splitFraction (cs.dropWhile Char.isDigit)).1.length) := by
  rw [readDecimal?, funext isSome_asciiDigit?]
  dsimp only
  split
  · rename_i hnone
    change readNatural? (cs.takeWhile Char.isDigit ++ (splitFraction _).1) = none at hnone
    rw [hnone]
    rfl
  · rename_i digits hdigits
    change readNatural? (cs.takeWhile Char.isDigit ++ (splitFraction _).1) = some digits at hdigits
    rw [hdigits]
    rfl

theorem Pointed.allDigits (h : Pointed whole fraction mantissa) : AllDigits (whole ++ fraction) := by
  cases h with
  | whole h => rwa [List.append_nil]
  | point hwhole hfraction => exact hwhole.append hfraction

/-- The digits of a mantissa are found if what follows is neither a digit nor a point. -/
theorem Pointed.split (h : Pointed whole fraction mantissa)
    (hrest : ∀ c ∈ rest.head?, c.isDigit = false ∧ c ≠ '.') :
    (mantissa ++ rest).takeWhile Char.isDigit = whole ∧
      splitFraction ((mantissa ++ rest).dropWhile Char.isDigit) = (fraction, rest) := by
  have hdigit : ∀ c ∈ rest.head?, c.isDigit = false := fun c hc => (hrest c hc).1
  cases h with
  | whole hwhole =>
    obtain ⟨htake, hdrop⟩ := span_front hwhole hdigit
    rw [hdrop]
    exact ⟨htake, splitFraction_of_ne fun c hc => (hrest c hc).2⟩
  | point hwhole hfraction =>
    obtain ⟨htake, hdrop⟩ := span_front hfraction hdigit
    have hpoint : ∀ c ∈ ('.' :: (fraction ++ rest)).head?, c.isDigit = false := by
      rintro c ⟨⟩
      rfl
    obtain ⟨htake', hdrop'⟩ := span_front hwhole hpoint
    rw [List.append_assoc, List.cons_append, htake', hdrop', splitFraction, htake, hdrop]
    exact ⟨rfl, rfl⟩

theorem allDigits_takeWhile (cs : List Char) : AllDigits (cs.takeWhile Char.isDigit) :=
  fun _ hc => List.mem_takeWhile_imp hc

/-- Every text begins with a mantissa, perhaps an empty one. -/
theorem exists_pointed (cs : List Char) : ∃ mantissa,
    Pointed (cs.takeWhile Char.isDigit) (splitFraction (cs.dropWhile Char.isDigit)).1 mantissa ∧
      cs = mantissa ++ (splitFraction (cs.dropWhile Char.isDigit)).2 := by
  have hcs := List.takeWhile_append_dropWhile (p := Char.isDigit) (l := cs)
  generalize cs.dropWhile Char.isDigit = after at hcs
  rw [splitFraction.eq_def]
  split
  · rename_i rest
    refine ⟨_, .point (allDigits_takeWhile cs) (allDigits_takeWhile rest), ?_⟩
    rw [List.append_assoc, List.cons_append, List.takeWhile_append_dropWhile, hcs]
  · exact ⟨_, .whole (allDigits_takeWhile cs), hcs.symm⟩

theorem not_digit_of_exponent (h : Exponent e rest) :
    ∀ c ∈ rest.head?, c.isDigit = false ∧ c ≠ '.' := by
  rintro c hc
  cases h with
  | none => cases hc
  | some he =>
    obtain rfl := Option.some.inj hc
    obtain rfl | rfl := he
    · exact ⟨rfl, by decide⟩
    · exact ⟨rfl, by decide⟩

theorem readDecimal?_eq_some_iff : readDecimal? negative cs = some x ↔
    ∃ whole fraction mantissa rest e, Pointed whole fraction mantissa ∧ whole ++ fraction ≠ [] ∧
      Exponent e rest ∧ cs = mantissa ++ rest ∧
        x = ofDecimal negative (digitsValue (whole ++ fraction)) (e - fraction.length) := by
  rw [readDecimal?_eq]
  constructor
  · intro h
    obtain ⟨digits, hdigits, h⟩ := Option.bind_eq_some_iff.1 h
    obtain ⟨e, hexponent, rfl⟩ := Option.map_eq_some_iff.1 h
    obtain ⟨hne, -, rfl⟩ := readNatural?_eq_some_iff.1 hdigits
    obtain ⟨mantissa, hmantissa, hcs⟩ := exists_pointed cs
    exact ⟨_, _, mantissa, _, e, hmantissa, hne, exponent?_eq_some_iff.1 hexponent, hcs, rfl⟩
  · rintro ⟨whole, fraction, mantissa, rest, e, hmantissa, hne, hexponent, rfl, rfl⟩
    obtain ⟨hwhole, hsplit⟩ := hmantissa.split (not_digit_of_exponent hexponent)
    rw [hwhole, hsplit, readNatural?_eq_some_iff.2 ⟨hne, hmantissa.allDigits, rfl⟩]
    dsimp only [Option.bind_some]
    rw [exponent?_eq_some_iff.2 hexponent]
    rfl

theorem Pointed.exists_head (h : Pointed whole fraction mantissa) (hne : whole ++ fraction ≠ []) :
    ∃ c rest, mantissa = c :: rest ∧ (c.isDigit = true ∨ c = '.') := by
  cases h with
  | whole hwhole =>
    rw [List.append_nil] at hne
    obtain ⟨c, rest, rfl⟩ := List.exists_cons_of_ne_nil hne
    exact ⟨c, rest, rfl, .inl (hwhole c List.mem_cons_self)⟩
  | point hwhole hfraction =>
    cases whole with
    | nil => exact ⟨'.', fraction, rfl, .inr rfl⟩
    | cons c rest => exact ⟨c, _, rfl, .inl (hwhole c List.mem_cons_self)⟩

theorem isWord_iff {word : String} :
    IsWord word cs ↔ String.ofList (cs.map Char.toLower) = word := by
  rw [IsWord, ← String.toList_inj, String.toList_ofList]

theorem IsWord.exists_head {word : String} {d : Char} {letters : List Char} (h : IsWord word cs)
    (hword : word.toList = d :: letters) : ∃ c rest, cs = c :: rest ∧ c.toLower = d := by
  obtain ⟨c, rest, hcs, hc, -⟩ := List.map_eq_cons_iff.1 (h.trans hword)
  exact ⟨c, rest, hcs, hc⟩

theorem toLower_of_mantissa {c : Char} (h : c.isDigit = true ∨ c = '.') : c.toLower = c := by
  obtain h | rfl := h
  · have hdigits : ∀ n ≤ '9'.toNat, '0'.toNat ≤ n → (Char.ofNat n).toLower = Char.ofNat n := by
      decide
    exact of_isDigit (fun c => c.toLower = c) hdigits h
  · rfl

theorem not_isWord_of_mantissa {word : String} {c : Char} {d : Char} {letters : List Char}
    (hc : c.isDigit = true ∨ c = '.') (hword : word.toList = d :: letters)
    (hd : d.isDigit = false ∧ d ≠ '.') : ¬ IsWord word (c :: rest) := by
  intro h
  obtain ⟨_, _, heq, hlower⟩ := h.exists_head hword
  obtain ⟨rfl, rfl⟩ := List.cons.inj heq
  rw [toLower_of_mantissa hc] at hlower
  obtain hc | hc := hc
  · rw [hlower, hd.1] at hc
    cases hc
  · exact hd.2 (hlower.symm.trans hc)

/-- A text without a sign begins with none. -/
theorem Magnitude.head?_ne (h : Magnitude negative cs x) : ∀ c ∈ cs.head?, c ≠ '-' ∧ c ≠ '+' := by
  have hword {word : String} {d : Char} {letters : List Char} (h : IsWord word cs)
      (hword : word.toList = d :: letters) (hd : d ≠ '-' ∧ d ≠ '+') :
      ∀ c ∈ cs.head?, c ≠ '-' ∧ c ≠ '+' := by
    obtain ⟨c, rest, rfl, rfl⟩ := h.exists_head hword
    rintro _ ⟨⟩
    constructor
    · rintro rfl
      exact hd.1 rfl
    · rintro rfl
      exact hd.2 rfl
  cases h with
  | infinite h =>
    obtain h | h := h
    · exact hword h rfl (by decide)
    · exact hword h rfl (by decide)
  | notANumber h => exact hword h rfl (by decide)
  | decimal hmantissa hne hexponent =>
    obtain ⟨c, rest, rfl, hc⟩ := hmantissa.exists_head hne
    rintro _ ⟨⟩
    obtain hc | rfl := hc
    · exact not_sign_of_isDigit hc
    · decide

theorem IsWord.unique {word other : String} (h : IsWord word cs) (h' : IsWord other cs) :
    word = other :=
  String.toList_inj.1 (h.symm.trans h')

theorem readPlainReal?_eq_some_iff : readPlainReal? cs = some x ↔
    ∃ negative body, Signed negative body cs ∧ Magnitude negative body x := by
  constructor
  · intro h
    refine ⟨_, _, signed_takeSign cs, ?_⟩
    rw [readPlainReal?] at h
    dsimp only at h
    split at h
    · rename_i hword
      obtain rfl := Option.some.inj h
      exact .infinite (hword.imp isWord_iff.2 isWord_iff.2)
    · split at h
      · rename_i hword
        obtain rfl := Option.some.inj h
        exact .notANumber (isWord_iff.2 hword)
      · obtain ⟨whole, fraction, mantissa, rest, e, hmantissa, hne, hexponent, hbody, rfl⟩ :=
          readDecimal?_eq_some_iff.1 h
        rw [hbody]
        exact .decimal hmantissa hne hexponent
  · rintro ⟨negative, body, hsign, hmagnitude⟩
    rw [readPlainReal?, hsign.takeSign_eq hmagnitude.head?_ne]
    dsimp only
    cases hmagnitude with
    | infinite h => rw [if_pos (h.imp isWord_iff.1 isWord_iff.1)]
    | notANumber h =>
      rw [if_neg ?_, if_pos (isWord_iff.1 h)]
      rintro (h' | h')
      · exact absurd (h.unique (isWord_iff.2 h')) (by decide)
      · exact absurd (h.unique (isWord_iff.2 h')) (by decide)
    | decimal hmantissa hne hexponent =>
      obtain ⟨c, rest, rfl, hc⟩ := hmantissa.exists_head hne
      rw [if_neg (not_or.2 ⟨?_, ?_⟩), if_neg]
      · exact readDecimal?_eq_some_iff.2 ⟨_, _, _, _, _, hmantissa, hne, hexponent, rfl, rfl⟩
      · exact mt isWord_iff.2 (not_isWord_of_mantissa hc (d := 'n') rfl (by decide))
      · exact mt isWord_iff.2 (not_isWord_of_mantissa hc (d := 'i') rfl (by decide))
      · exact mt isWord_iff.2 (not_isWord_of_mantissa hc (d := 'i') rfl (by decide))

/-- The reals that are read, and from which texts. -/
theorem readReal?_eq_some_iff {s : String} : readReal? s = some x ↔ RealText s x := by
  rw [readReal?, Option.bind_eq_some_iff]
  simp only [dropUnderscores_eq_some_iff, readPlainReal?_eq_some_iff]
  constructor
  · rintro ⟨plain, hspelled, negative, body, hsign, hmagnitude⟩
    exact ⟨_, plain, body, negative, trimsTo_trimBy _ _, hspelled, hsign, hmagnitude⟩
  · rintro ⟨core, plain, body, negative, hcore, hspelled, hsign, hmagnitude⟩
    exact ⟨plain, hcore.trimBy_eq.symm ▸ hspelled, negative, body, hsign, hmagnitude⟩

end Real

end IssueGateway.Number
