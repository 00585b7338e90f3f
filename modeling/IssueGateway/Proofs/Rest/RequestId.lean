import IssueGateway.Proofs.Logging.Redaction
import IssueGateway.Proofs.Rest.Inquiry
import IssueGateway.Proofs.Text.Padding
import IssueGateway.Proofs.Text.Trim
import Mathlib

/-!
# What becomes the id of a request

A caller's id is reused if it is a token, or a token with a line end behind it
(`isRequestId_iff`). Any other is replaced by a random id, which is a token (`IsRandomId.isToken`) and
shows all its random bits (`randomId_eq_iff`). So the line end is the one thing that gets into an id
and does not belong there (`requestId_settled`).
-/

namespace IssueGateway.Rest

open Text

/-- A text that is fit to be an id: 8 to 64 letters and digits of ASCII, points, underscores and
dashes. -/
structure IsToken (s : String) : Prop where
  long : 8 ≤ s.length
  short : s.length ≤ 64
  plain : ∀ c ∈ s.toList, 'A' ≤ c ∧ c ≤ 'Z' ∨ 'a' ≤ c ∧ c ≤ 'z' ∨ '0' ≤ c ∧ c ≤ '9' ∨
    c = '.' ∨ c = '_' ∨ c = '-'

/-- A token and one line end behind it. -/
def IsTokenLine (s : String) : Prop :=
  ∃ token, IsToken token ∧ s = token ++ "\n"

/-- A digit of base 16, with small letters. -/
def IsHexDigit (c : Char) : Prop :=
  '0' ≤ c ∧ c ≤ '9' ∨ 'a' ≤ c ∧ c ≤ 'f'

/-- The text of a random id: groups of 8, 4, 4, 4 and 12 digits, of which the third begins with the
version, 4, and the fourth with the variant, one of four digits. -/
def IsRandomId (s : String) : Prop :=
  ∃ (first second third fourth fifth : List Char) (variant : Char),
    s.toList = first ++ '-' :: second ++ '-' :: '4' :: third ++ '-' :: variant :: fourth ++
      '-' :: fifth ∧
    (first.length = 8 ∧ second.length = 4 ∧ third.length = 3 ∧ fourth.length = 3 ∧
      fifth.length = 12) ∧
    (∀ c ∈ first ++ second ++ third ++ fourth ++ fifth, IsHexDigit c) ∧
    variant ∈ ['8', '9', 'a', 'b']

/-! ### Ids of callers -/

theorem isIdChar_iff (c : Char) : isIdChar c = true ↔
    'A' ≤ c ∧ c ≤ 'Z' ∨ 'a' ≤ c ∧ c ≤ 'z' ∨ '0' ≤ c ∧ c ≤ '9' ∨ c = '.' ∨ c = '_' ∨ c = '-' := by
  simp only [isIdChar, Char.isAlphanum, Char.isAlpha, Char.isUpper, Char.isLower, Char.isDigit,
    Bool.or_eq_true, Bool.and_eq_true, decide_eq_true_eq, beq_iff_eq, or_assoc, ge_iff_le,
    Char.le_def]

theorem isToken_ofList_iff (cs : List Char) : IsToken (String.ofList cs) ↔
    8 ≤ cs.length ∧ cs.length ≤ 64 ∧ ∀ c ∈ cs, isIdChar c = true := by
  have hlength : (String.ofList cs).length = cs.length := by
    rw [← String.length_toList, String.toList_ofList]
  constructor
  · rintro ⟨hlong, hshort, hplain⟩
    rw [hlength] at hlong hshort
    rw [String.toList_ofList] at hplain
    exact ⟨hlong, hshort, fun c hc => (isIdChar_iff c).2 (hplain c hc)⟩
  · rintro ⟨hlong, hshort, hplain⟩
    refine ⟨hlength ▸ hlong, hlength ▸ hshort, fun c hc => (isIdChar_iff c).1 (hplain c ?_)⟩
    rwa [String.toList_ofList] at hc

theorem isRequestId_of_front {front rest : List Char} (hfront : ∀ c ∈ front, isIdChar c = true)
    (hrest : ∀ c ∈ rest.head?, isIdChar c = false) :
    isRequestId (String.ofList (front ++ rest)) = true ↔
      IsToken (String.ofList front) ∧ (rest = [] ∨ rest = ['\n']) := by
  obtain ⟨htake, hdrop⟩ := span_front hfront hrest
  rw [isRequestId, String.toList_ofList, htake, hdrop, isToken_ofList_iff]
  simp only [Bool.and_eq_true, decide_eq_true_eq, Bool.or_eq_true, beq_iff_eq]
  tauto

theorem append_line (token : String) :
    token ++ "\n" = String.ofList (token.toList ++ ['\n']) := by
  rw [← String.toList_inj, String.toList_append, String.toList_ofList, String.toList_ofList]

/-- What is taken for an id. -/
theorem isRequestId_iff (s : String) : isRequestId s = true ↔ IsToken s ∨ IsTokenLine s := by
  have hplain : ∀ token, IsToken token → ∀ c ∈ token.toList, isIdChar c = true :=
    fun token htoken c hc => (isIdChar_iff c).2 (htoken.plain c hc)
  constructor
  · intro h
    have hwhole : s = String.ofList (s.toList.takeWhile isIdChar ++ s.toList.dropWhile isIdChar) := by
      rw [List.takeWhile_append_dropWhile, String.ofList_toList]
    rw [hwhole, isRequestId_of_front (fun c hc => List.mem_takeWhile_imp hc)
      (drop_head?_dropWhile isIdChar s.toList)] at h
    obtain ⟨htoken, hend | hline⟩ := h
    · left
      rwa [hwhole, hend, List.append_nil]
    · refine Or.inr ⟨_, htoken, ?_⟩
      rw [append_line, String.toList_ofList, ← hline, ← hwhole]
  · rintro (htoken | ⟨token, htoken, rfl⟩)
    · have hwhole : s = String.ofList (s.toList ++ []) := by
        rw [List.append_nil, String.ofList_toList]
      rw [hwhole, isRequestId_of_front (hplain s htoken) (by simp), String.ofList_toList]
      exact ⟨htoken, Or.inl rfl⟩
    · have hline : isIdChar '\n' = false := by decide
      rw [append_line, isRequestId_of_front (hplain token htoken) (by simpa using hline),
        String.ofList_toList]
      exact ⟨htoken, Or.inr rfl⟩

theorem IsTokenLine.not_isToken {s : String} (h : IsTokenLine s) : ¬ IsToken s := by
  obtain ⟨token, -, rfl⟩ := h
  intro htoken
  have hplain := (isIdChar_iff '\n').2 (htoken.plain '\n' (by simp))
  exact absurd hplain (by decide)

/-! ### Random ids -/

/-- The bits of a random id that are fixed: those of the variant and of the version. -/
def mark? (i : Nat) : Option Bool :=
  if i = 62 ∨ i = 63 then some (i = 63)
  else if 76 ≤ i ∧ i ≤ 79 then some (i = 78)
  else none

variable {random random' : BitVec 128}

theorem getLsbD_marked {i : Nat} (hi : i < 128) :
    (marked random).getLsbD i = (mark? i).getD (random.getLsbD i) := by
  have hvariant : ∀ i < 128, (0xC000#128 <<< 48).getLsbD i = decide (i = 62 ∨ i = 63) := by decide
  have hvaried : ∀ i < 128, (0x8000#128 <<< 48).getLsbD i = decide (i = 63) := by decide
  have hversion : ∀ i < 128, (0xF000#128 <<< 64).getLsbD i = decide (76 ≤ i ∧ i ≤ 79) := by decide
  have hversioned : ∀ i < 128, (4#128 <<< 76).getLsbD i = decide (i = 78) := by decide
  simp only [marked, BitVec.getLsbD_or, BitVec.getLsbD_and, BitVec.getLsbD_not, hvariant i hi,
    hvaried i hi, hversion i hi, hversioned i hi, hi, decide_true, Bool.true_and, mark?]
  by_cases hlow : i = 62 ∨ i = 63
  · have hother : ¬ (76 ≤ i ∧ i ≤ 79) ∧ i ≠ 78 := by omega
    simp [hlow, hother]
  · by_cases hhigh : 76 ≤ i ∧ i ≤ 79
    · simp [hlow, hhigh]
    · have hother : i ≠ 62 ∧ i ≠ 63 ∧ i ≠ 78 := by omega
      simp [hhigh, hother]

/-- A stretch of fixed bits, read as a number. -/
theorem mark_of_marked (random : BitVec 128) (start : Nat) {width : Nat} (mark : BitVec width)
    (hinside : start + width ≤ 128)
    (hmark : ∀ i < width, mark? (start + i) = some (mark.getLsbD i)) :
    (marked random).toNat / 2 ^ start % 2 ^ width = mark.toNat := by
  have hextract : (marked random).extractLsb' start width = mark := by
    apply BitVec.eq_of_getLsbD_eq
    intro i hi
    rw [BitVec.getLsbD_extractLsb', getLsbD_marked (by omega), hmark i hi]
    simp [hi]
  rw [← hextract, BitVec.extractLsb'_toNat, Nat.shiftRight_eq_div_pow]

theorem marked_eq_iff : marked random = marked random' ↔
    ∀ i < 128, mark? i = none → random.getLsbD i = random'.getLsbD i := by
  constructor
  · intro h i hi hfree
    have hbit := congrArg (BitVec.getLsbD · i) h
    simpa only [getLsbD_marked hi, hfree, Option.getD_none] using hbit
  · intro h
    apply BitVec.eq_of_getLsbD_eq
    intro i hi
    rw [getLsbD_marked hi, getLsbD_marked hi]
    cases hmark : mark? i with
    | none => exact h i hi hmark
    | some bit => rfl

/-- The digits of a random id without the dashes. -/
def randomDigits (random : BitVec 128) : List Char :=
  paddedHex 32 (marked random).toNat

theorem marked_lt (random : BitVec 128) : (marked random).toNat < 16 ^ 32 :=
  (marked random).isLt

theorem length_randomDigits (random : BitVec 128) : (randomDigits random).length = 32 :=
  length_paddedDigits (by decide) (by decide) (marked_lt random)

theorem isHexDigit_of_mem {c : Char} (hc : c ∈ randomDigits random) : IsHexDigit c := by
  have hdigits : ∀ d < 16, IsHexDigit d.digitChar := by
    unfold IsHexDigit
    decide
  obtain ⟨d, hd, rfl⟩ := exists_digit_of_mem (by decide) (by decide) (marked_lt random) hc
  exact hdigits d hd

theorem getElem?_randomDigits (random : BitVec 128) {i : Nat} (hi : i < 32) :
    (randomDigits random)[i]? =
      some ((marked random).toNat / 2 ^ (4 * (31 - i)) % 16).digitChar := by
  rw [randomDigits, paddedHex_eq, getElem?_paddedDigits (by decide) (marked_lt random) hi, pow_mul]
  rfl

theorem version_randomDigits (random : BitVec 128) : (randomDigits random)[12]? = some '4' := by
  have hversion : (marked random).toNat / 2 ^ 76 % 16 = 4 :=
    mark_of_marked random 76 4#4 (by decide) (by decide)
  rw [getElem?_randomDigits random (by decide), hversion]
  rfl

theorem variant_randomDigits (random : BitVec 128) :
    ∃ variant ∈ ['8', '9', 'a', 'b'], (randomDigits random)[16]? = some variant := by
  have hvariant : (marked random).toNat / 2 ^ 62 % 4 = 2 :=
    mark_of_marked random 62 2#2 (by decide) (by decide)
  have hdigit : (marked random).toNat / 2 ^ 60 % 16 ∈ [8, 9, 10, 11] := by
    simp only [List.mem_cons, List.not_mem_nil, or_false]
    omega
  have hdigits : ∀ d ∈ [8, 9, 10, 11], d.digitChar ∈ ['8', '9', 'a', 'b'] := by decide
  exact ⟨_, hdigits _ hdigit, getElem?_randomDigits random (by decide)⟩

theorem isRandomId_grouped {digits : List Char} (hlength : digits.length = 32)
    (hhex : ∀ c ∈ digits, IsHexDigit c) (hversion : digits[12]? = some '4') {variant : Char}
    (hplace : digits[16]? = some variant) (hvariant : variant ∈ ['8', '9', 'a', 'b']) :
    IsRandomId (String.ofList (grouped digits)) := by
  have hthird : (digits.drop 12).take 4 = '4' :: (digits.drop 13).take 3 := by
    rw [List.drop_eq_getElem?_toList_append, hversion]
    rfl
  have hfourth : (digits.drop 16).take 4 = variant :: (digits.drop 17).take 3 := by
    rw [List.drop_eq_getElem?_toList_append, hplace]
    rfl
  refine ⟨digits.take 8, (digits.drop 8).take 4, (digits.drop 13).take 3, (digits.drop 17).take 3,
    digits.drop 20, variant, ?_, by simp [hlength], fun c hc => hhex c ?_, hvariant⟩
  · rw [String.toList_ofList, grouped, hthird, hfourth]
  · simp only [List.mem_append] at hc
    rcases hc with (((hc | hc) | hc) | hc) | hc
    · exact List.mem_of_mem_take hc
    · exact List.mem_of_mem_drop (List.mem_of_mem_take hc)
    · exact List.mem_of_mem_drop (List.mem_of_mem_take hc)
    · exact List.mem_of_mem_drop (List.mem_of_mem_take hc)
    · exact List.mem_of_mem_drop hc

theorem isRandomId_randomId (random : BitVec 128) : IsRandomId (randomId random) := by
  obtain ⟨variant, hvariant, hplace⟩ := variant_randomDigits random
  exact isRandomId_grouped (length_randomDigits random) (fun c hc => isHexDigit_of_mem hc)
    (version_randomDigits random) hplace hvariant

theorem IsRandomId.length_eq {s : String} (h : IsRandomId s) : s.length = 36 := by
  obtain ⟨first, second, third, fourth, fifth, variant, hs, ⟨h₁, h₂, h₃, h₄, h₅⟩, -⟩ := h
  rw [← String.length_toList, hs]
  simp [h₁, h₂, h₃, h₄, h₅]

theorem IsRandomId.of_mem {s : String} (h : IsRandomId s) {c : Char} (hc : c ∈ s.toList) :
    IsHexDigit c ∨ c = '-' := by
  obtain ⟨first, second, third, fourth, fifth, variant, hs, -, hhex, hvariant⟩ := h
  have hmarks : ∀ c ∈ ['4', '8', '9', 'a', 'b'], IsHexDigit c := by
    simp [IsHexDigit]
  have hplace : c ∈ first ++ second ++ third ++ fourth ++ fifth ∨ c = '4' ∨ c = variant ∨
      c = '-' := by
    rw [hs] at hc
    grind
  rcases hplace with hdigit | rfl | rfl | rfl
  · exact Or.inl (hhex c hdigit)
  · exact Or.inl (hmarks _ List.mem_cons_self)
  · exact Or.inl (hmarks _ (List.mem_cons_of_mem _ hvariant))
  · exact Or.inr rfl

theorem IsRandomId.isToken {s : String} (h : IsRandomId s) : IsToken s := by
  have hlength := h.length_eq
  refine ⟨by omega, by omega, fun c hc => ?_⟩
  rcases h.of_mem hc with (hdigit | hletter) | hdash
  · exact Or.inr (Or.inr (Or.inl hdigit))
  · exact Or.inr (Or.inl ⟨hletter.1, hletter.2.trans (by decide)⟩)
  · exact Or.inr (Or.inr (Or.inr (Or.inr (Or.inr hdash))))

/-- Taking the dashes out gives back the digits. -/
theorem filter_grouped {digits : List Char} (h : '-' ∉ digits) :
    (grouped digits).filter (· != '-') = digits := by
  have hsplit : ∀ n, (digits.drop n).take 4 ++ digits.drop (n + 4) = digits.drop n := by
    intro n
    rw [← List.drop_drop, List.take_append_drop]
  have hwhole : digits.take 8 ++ (digits.drop 8).take 4 ++ (digits.drop 12).take 4 ++
      (digits.drop 16).take 4 ++ digits.drop 20 = digits := by
    rw [List.append_assoc, hsplit 16, List.append_assoc, hsplit 12, List.append_assoc, hsplit 8,
      List.take_append_drop]
  have hplain : digits.filter (· != '-') = digits := by
    rw [List.filter_eq_self]
    intro c hc
    exact bne_iff_ne.2 fun heq => h (heq ▸ hc)
  simp only [grouped, List.filter_append, List.filter_cons, bne_self_eq_false, Bool.false_eq_true,
    if_false]
  simp only [← List.filter_append]
  rw [hwhole, hplain]

theorem randomId_inj_iff : randomId random = randomId random' ↔
    randomDigits random = randomDigits random' := by
  have hplain : ∀ random, '-' ∉ randomDigits random := by
    intro random hdash
    have hhex := isHexDigit_of_mem hdash
    unfold IsHexDigit at hhex
    exact absurd hhex (by decide)
  constructor
  · intro h
    have hgrouped : grouped (randomDigits random) = grouped (randomDigits random') :=
      String.ofList_injective h
    rw [← filter_grouped (hplain random), hgrouped, filter_grouped (hplain random')]
  · exact fun h => congrArg (fun digits => String.ofList (grouped digits)) h

/-- Random ids show all bits that are free. -/
theorem randomId_eq_iff : randomId random = randomId random' ↔
    ∀ i < 128, mark? i = none → random.getLsbD i = random'.getLsbD i := by
  rw [randomId_inj_iff, randomDigits, randomDigits, paddedHex_eq, paddedHex_eq,
    paddedDigits_inj (by decide) (by decide) (by decide) (marked_lt random) (marked_lt random'),
    BitVec.toNat_inj, marked_eq_iff]

/-! ### The id of a request -/

/-- Where an id comes from. -/
theorem requestId_cases (fresh : String) (header : Option String) :
    (∃ s, header = some s ∧ (IsToken s ∨ IsTokenLine s) ∧ requestId fresh header = s) ∨
      (∀ s, header = some s → ¬ IsToken s ∧ ¬ IsTokenLine s) ∧ requestId fresh header = fresh := by
  cases header with
  | none => exact Or.inr ⟨nofun, rfl⟩
  | some s =>
    by_cases h : isRequestId s = true
    · refine Or.inl ⟨s, rfl, (isRequestId_iff s).1 h, ?_⟩
      rw [requestId, Option.filter_some, if_pos h, Option.getD_some]
    · refine Or.inr ⟨?_, by rw [requestId, Option.filter_some, if_neg h, Option.getD_none]⟩
      intro t ht
      rwa [isRequestId_iff, not_or, Option.some.inj ht] at h

theorem isToken_requestId_iff {fresh : String} (hfresh : IsToken fresh) (header : Option String) :
    IsToken (requestId fresh header) ↔ ¬ ∃ s, header = some s ∧ IsTokenLine s := by
  rcases requestId_cases fresh header with ⟨s, rfl, htoken | hline, hid⟩ | ⟨hnone, hid⟩
  · rw [hid]
    refine iff_of_true htoken ?_
    rintro ⟨t, ht, hline⟩
    exact hline.not_isToken (Option.some.inj ht ▸ htoken)
  · rw [hid]
    exact iff_of_false hline.not_isToken (not_not_intro ⟨s, rfl, hline⟩)
  · rw [hid]
    exact iff_of_true hfresh fun ⟨s, hs, hline⟩ => (hnone s hs).2 hline

/-- A request that is reacted to has its id in the response. -/
theorem requestId_respond (app : App) (fresh : String) (today : Calendar.Date) (request : Request)
    {σ : Type} (server : Remote.Server σ) (s : σ) :
    ((app.respond fresh today request).run server s).result.map Response.requestId =
      ((app.react today request).run server s).result.map fun reaction =>
        reaction.map fun _ => requestId fresh (request.header? "x-request-id") := by
  have hid : ∀ reaction, (app.response fresh request reaction).requestId =
      reaction.map fun _ => requestId fresh (request.header? "x-request-id") := by
    intro reaction
    cases reaction <;> rfl
  rw [respond_eq, Remote.Call.run_bind_return, Remote.Run.mapResult_result]
  cases ((app.react today request).run server s).result with
  | ok reaction => exact congrArg Except.ok (hid reaction)
  | error failure => rfl

/-- An id in the context is told with each event. -/
theorem get?_entry_requestId {event : Logging.Event} {id : String}
    (hid : Assoc.get? event.context "request_id" = some (.str id))
    (hown : "request_id" ∉ Assoc.keys event.fields) :
    Assoc.get? event.entry "request_id" = some (.str id) := by
  rw [Logging.get?_entry_of_context event (by decide) (by decide) hown, hid]
  rfl

/-- The id of a request is the caller's exactly where that is a token or a token with a line end, and
else the text of random bits, all of which it shows but the six that are fixed. So it is a token unless
the caller's has that line end, which is then in the log and in the response. -/
theorem requestId_settled (random : BitVec 128) (header : Option String) :
    let id := requestId (randomId random) header
    ((∃ s, header = some s ∧ (IsToken s ∨ IsTokenLine s) ∧ id = s) ∨
      (∀ s, header = some s → ¬ IsToken s ∧ ¬ IsTokenLine s) ∧ id = randomId random) ∧
    (IsRandomId (randomId random) ∧ IsToken (randomId random) ∧
      ∀ other, randomId other = randomId random ↔
        ∀ i < 128, mark? i = none → other.getLsbD i = random.getLsbD i) ∧
    (IsToken id ↔ ¬ ∃ s, header = some s ∧ IsTokenLine s) ∧
    (∀ event : Logging.Event, Assoc.get? event.context "request_id" = some (.str id) →
      "request_id" ∉ Assoc.keys event.fields →
      Assoc.get? event.entry "request_id" = some (.str id)) ∧
    ∀ (app : App) (today : Calendar.Date) (request : Request),
      request.header? "x-request-id" = header →
      ∀ (σ : Type) (server : Remote.Server σ) (s : σ),
        ((app.respond (randomId random) today request).run server s).result.map
            Response.requestId =
          ((app.react today request).run server s).result.map fun reaction =>
            reaction.map fun _ => id := by
  have hrandom := isRandomId_randomId random
  refine ⟨requestId_cases _ header, ⟨hrandom, hrandom.isToken, fun other => randomId_eq_iff⟩,
    isToken_requestId_iff hrandom.isToken header, fun event => get?_entry_requestId, ?_⟩
  rintro app today request rfl σ server s
  exact requestId_respond app _ today request server s

example (random : BitVec 128) :
    requestId (randomId random) (some "abcdefgh\n") = "abcdefgh\n" := by
  rfl

end IssueGateway.Rest
