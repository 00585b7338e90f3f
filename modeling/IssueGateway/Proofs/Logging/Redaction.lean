import IssueGateway.Logging.Setup
import IssueGateway.Proofs.Assoc
import IssueGateway.Proofs.Json.Place
import IssueGateway.Proofs.Text.Lowercase

/-!
# What redaction hides

A key names a secret if it is one of two names in lower case, whatever the script of its letters
(`namesSecret_some`). At every place of an event redaction leaves what stood there, puts asterisks
under the outermost key of a secret, and leaves nothing further down (`at?_redact`). So an entry of
the log tells everything outside secrets and nothing of them: it is the same for two events exactly
if they are the same outside secrets (`redactFields_masks`). What the context holds under a key that
the event does not use itself is told with each event (`get?_entry_of_context`).
-/

namespace IssueGateway.Logging

open Json Text

section Folding

variable {endsWord : List Char → List Char → Bool} {c : Char}

theorem foldChar_of_ascii (hascii : c.toNat < 128) : foldChar c = c.toLower := by
  rw [foldChar, if_neg (by omega)]

/-- The letters beside ASCII that are not folded into it. -/
theorem le_foldChar (hascii : 128 ≤ c.toNat) (hkelvin : c.toNat ≠ 0x212A) :
    128 ≤ (foldChar c).toNat := by
  have hlast : 'Z'.toNat = 90 := rfl
  rw [foldChar, if_neg hkelvin, toLower_eq_self (by omega)]
  exact hascii

theorem kelvin_of_toNat (hkelvin : c.toNat = 0x212A) : c = '\u212A' := by
  rw [← Char.ofNat_toNat c, hkelvin]

/-- Folding a text and lowering it agree on what they turn into ASCII. -/
theorem map_foldChar_eq_iff {cs target : List Char} (htarget : ∀ a ∈ target, a.toNat < 128)
    (before : List Char) :
    cs.map foldChar = target ↔ lowerFrom endsWord before cs = target := by
  induction cs generalizing before target with
  | nil => rfl
  | cons c rest ih =>
    have hplain : lowerAt endsWord before c rest = [foldChar c] →
        ((c :: rest).map foldChar = target ↔ lowerFrom endsWord before (c :: rest) = target) := by
      intro hlower
      rw [lowerFrom, hlower, List.map_cons, List.singleton_append]
      cases target with
      | nil => simp
      | cons a target =>
        rw [List.cons.injEq, List.cons.injEq, ih fun a ha => htarget a (List.mem_cons_of_mem _ ha)]
    by_cases hascii : c.toNat < 128
    · exact hplain (by rw [lowerAt_of_ascii hascii, foldChar_of_ascii hascii])
    by_cases hkelvin : c.toNat = 0x212A
    · obtain rfl := kelvin_of_toNat hkelvin
      exact hplain lowerAt_kelvin
    · -- the character leaves something outside ASCII either way
      have hfar := Nat.le_of_not_lt hascii
      have hlower : ∃ a ∈ lowerAt endsWord before c rest, 128 ≤ a.toNat :=
        exists_mem_lowerAt hfar hkelvin
      obtain ⟨a, ha, hlarge⟩ := hlower
      refine iff_of_false (fun hfolded => ?_) (fun hlower => ?_)
      · have hmem : foldChar c ∈ target := hfolded ▸ List.mem_cons_self
        exact absurd (htarget _ hmem) (Nat.not_lt.2 (le_foldChar hfar hkelvin))
      · have hmem : a ∈ target := hlower ▸ List.mem_append_left _ ha
        exact absurd (htarget a hmem) (Nat.not_lt.2 hlarge)

theorem folded_eq_iff {key target : String} (htarget : ∀ a ∈ target.toList, a.toNat < 128) :
    String.ofList (key.toList.map foldChar) = target ↔ lowercase endsWord key = target := by
  rw [lowercase, ← String.toList_inj, ← String.toList_inj, String.toList_ofList,
    String.toList_ofList]
  exact map_foldChar_eq_iff htarget []

end Folding

theorem redactItems_eq_map (items : List Value) : redactItems items = items.map redact := by
  induction items with
  | nil => rfl
  | cons v rest ih => rw [redactItems, ih, List.map_cons]

theorem redactFields_eq_map (fields : List (String × Value)) : redactFields fields =
    fields.map fun (key, v) => (key, if isSecretKey key then redacted else redact v) := by
  induction fields with
  | nil => rfl
  | cons field rest ih => rw [redactFields, ih, List.map_cons]

section Redaction

-- whether a capital sigma between two texts, the first of them backwards, ends a word
variable (endsWord : List Char → List Char → Bool)

/-- Whether a key, if there is one, is the name of a secret: one of two names, in lower case. -/
def namesSecret : Option String → Bool
  | some key => ["apikey", "api_key"].contains (lowercase endsWord key)
  | none => false

/-- What is left at a place: nothing below the key of a secret, asterisks under the outermost such
key, and elsewhere what stood there. -/
def masked : List (Option String) × Outline → Option (List (Option String) × Outline)
  | (keys, outline) =>
    if keys.dropLast.any (namesSecret endsWord) then none
    else if keys.getLast?.any (namesSecret endsWord) then some (keys, .str "***")
    else some (keys, outline)

/-- Whether two values differ only below the keys of secrets. -/
def SameOutsideSecrets (v w : Value) : Prop :=
  ∀ place keys outline, keys.any (namesSecret endsWord) = false →
    (v.at? place = some (keys, outline) ↔ w.at? place = some (keys, outline))

theorem namesSecret_some (key : String) : namesSecret endsWord (some key) = isSecretKey key := by
  have hfirst : String.ofList (key.toList.map foldChar) = "apikey" ↔
      lowercase endsWord key = "apikey" := folded_eq_iff (by simp)
  have hsecond : String.ofList (key.toList.map foldChar) = "api_key" ↔
      lowercase endsWord key = "api_key" := folded_eq_iff (by simp)
  rw [namesSecret, isSecretKey, Bool.eq_iff_iff]
  simp [hfirst, hsecond]

theorem outline_redact (v : Value) : (redact v).outline = v.outline := by
  cases v with
  | arr items => rw [redact, redactItems_eq_map, Value.outline, List.length_map, Value.outline]
  | obj fields =>
    rw [redact, redactFields_eq_map, Value.outline, List.map_map, Value.outline]
    rfl
  | _ => rfl

theorem part?_redact (v : Value) (i : Nat) : (redact v).part? i =
    (v.part? i).map fun (key, part) =>
      (key, if namesSecret endsWord key then redacted else redact part) := by
  cases v with
  | arr items =>
    rw [redact, redactItems_eq_map, Value.part?, List.getElem?_map, Option.map_map, Value.part?,
      Option.map_map]
    rfl
  | obj fields =>
    rw [redact, redactFields_eq_map, Value.part?, List.getElem?_map, Option.map_map, Value.part?,
      Option.map_map]
    simp only [← namesSecret_some endsWord]
    rfl
  | _ => rfl

variable {endsWord} {key : Option String} {keys : List (Option String)} {outline : Outline}
  {v w : Value}

theorem masked_of_no_secret (h : keys.any (namesSecret endsWord) = false) :
    masked endsWord (keys, outline) = some (keys, outline) := by
  rw [List.any_eq_false] at h
  have hdrop : keys.dropLast.any (namesSecret endsWord) = false :=
    List.any_eq_false.2 fun key hkey => h key (List.dropLast_subset _ hkey)
  have hlast : keys.getLast?.any (namesSecret endsWord) = false := by
    cases hkey : keys.getLast? with
    | none => rfl
    | some key => exact Bool.eq_false_iff.2 (h key (List.mem_of_getLast? hkey))
  rw [masked, hdrop, hlast, if_neg Bool.false_ne_true, if_neg Bool.false_ne_true]

theorem masked_cons (hkey : namesSecret endsWord key = false) :
    masked endsWord (key :: keys, outline) =
      (masked endsWord (keys, outline)).map fun (keys, outline) => (key :: keys, outline) := by
  cases keys with
  | nil => exact masked_of_no_secret (by simp [hkey])
  | cons next keys =>
    rw [masked, masked, List.dropLast_cons_cons, List.any_cons, hkey, Bool.false_or,
      List.getLast?_cons_cons]
    split
    · rfl
    split <;> rfl

/-- The place of a secret. -/
theorem masked_secret (hkey : namesSecret endsWord key = true) :
    masked endsWord ([key], outline) = some ([key], .str "***") := by
  simp [masked, hkey]

/-- The places below a secret. -/
theorem masked_below_secret (hkey : namesSecret endsWord key = true) (hkeys : keys ≠ []) :
    masked endsWord (key :: keys, outline) = none := by
  obtain ⟨next, keys, rfl⟩ := List.exists_cons_of_ne_nil hkeys
  rw [masked, List.dropLast_cons_cons, List.any_cons, hkey, Bool.true_or, if_pos rfl]

theorem keys_of_masked {entry : List (Option String) × Outline}
    (h : masked endsWord entry = some (keys, outline)) : entry.1 = keys := by
  rw [masked] at h
  split at h
  · cases h
  split at h
  · exact congrArg Prod.fst (Option.some.inj h)
  · exact congrArg Prod.fst (Option.some.inj h)

/-- At every place redaction leaves what is not masked there. -/
theorem at?_redact (endsWord : List Char → List Char → Bool) (v : Value) (place : List Nat) :
    (redact v).at? place = (v.at? place).bind (masked endsWord) := by
  induction place generalizing v with
  | nil =>
    have hroot : masked endsWord ([], v.outline) = some ([], v.outline) :=
      masked_of_no_secret rfl
    rw [Value.at?_nil, Value.at?_nil, outline_redact]
    exact hroot.symm
  | cons i place ih =>
    cases hpart : v.part? i with
    | none => rw [Value.at?_cons, Value.at?_cons, part?_redact endsWord, hpart]; rfl
    | some entry =>
      obtain ⟨key, part⟩ := entry
      have hredacted := part?_redact endsWord v i
      rw [hpart, Option.map_some] at hredacted
      rw [Value.at?_cons_of_part hredacted, Value.at?_cons_of_part hpart]
      cases hkey : namesSecret endsWord key with
      | false =>
        rw [if_neg (by simp), ih, Option.map_bind, Option.bind_map]
        congr 1
        funext entry
        exact (masked_cons hkey).symm
      | true =>
        rw [if_pos rfl, Option.bind_map]
        cases place with
        | nil => exact (masked_secret hkey).symm
        | cons j place =>
          refine (Option.bind_eq_none_iff.2 fun (keys, outline) hplace => ?_).symm
          exact masked_below_secret hkey (List.ne_nil_of_length_eq_add_one
            (Value.length_of_at? hplace))

theorem at?_redact_eq_some_iff (hkeys : keys.any (namesSecret endsWord) = false)
    {place : List Nat} :
    (redact v).at? place = some (keys, outline) ↔ v.at? place = some (keys, outline) := by
  rw [at?_redact endsWord, Option.bind_eq_some_iff]
  constructor
  · rintro ⟨⟨way, found⟩, hfound, hmasked⟩
    obtain rfl : way = keys := keys_of_masked hmasked
    rw [masked_of_no_secret hkeys] at hmasked
    rw [hfound, hmasked]
  · exact fun hfound => ⟨_, hfound, masked_of_no_secret hkeys⟩

theorem sameOutsideSecrets_redact (v : Value) : SameOutsideSecrets endsWord (redact v) v :=
  fun _ _ _ hkeys => at?_redact_eq_some_iff hkeys

theorem SameOutsideSecrets.outline_eq (h : SameOutsideSecrets endsWord v w) :
    v.outline = w.outline := by
  have hroot := (h [] [] v.outline rfl).1 rfl
  exact (congrArg Prod.snd (Option.some.inj hroot)).symm

theorem SameOutsideSecrets.part {part other : Value} {i : Nat} (h : SameOutsideSecrets endsWord v w)
    (hpart : v.part? i = some (key, part)) (hother : w.part? i = some (key, other))
    (hkey : namesSecret endsWord key = false) : SameOutsideSecrets endsWord part other := by
  intro place keys outline hkeys
  rw [← Value.at?_cons_eq_some_iff hpart, ← Value.at?_cons_eq_some_iff hother]
  exact h _ _ _ (by rw [List.any_cons, hkey, hkeys, Bool.false_or])

/-- What differs only below the keys of secrets is the same when it is redacted. -/
theorem redact_eq_of_same (h : SameOutsideSecrets endsWord v w) : redact v = redact w := by
  induction v using Value.induction_on_parts generalizing w with
  | h v ih =>
    have houtline := h.outline_eq
    refine Value.eq_of_part? (by rw [outline_redact, outline_redact, houtline]) fun i => ?_
    rw [part?_redact endsWord, part?_redact endsWord]
    cases hpart : v.part? i with
    | none => rw [Value.part?_eq_none_of_outline houtline hpart]
    | some entry =>
      obtain ⟨key, part⟩ := entry
      obtain ⟨other, hother⟩ := Value.exists_part?_of_outline houtline hpart
      rw [hother, Option.map_some, Option.map_some]
      dsimp only
      cases hkey : namesSecret endsWord key with
      | false => rw [ih i key part hpart (h.part hpart hother hkey)]
      | true => rw [if_pos rfl, if_pos rfl]

theorem redact_eq_redact_iff : redact v = redact w ↔ SameOutsideSecrets endsWord v w := by
  refine ⟨fun h place keys outline hkeys => ?_, redact_eq_of_same⟩
  rw [← at?_redact_eq_some_iff hkeys, h, at?_redact_eq_some_iff hkeys]

/-- Redaction gives the one value that has asterisks under the outermost keys of secrets, at any depth
and in any script, and all else in its place. Two events are redacted to the same exactly if they
differ only below such keys, so nothing of a secret is told; and what is redacted has nothing left to
redact. -/
theorem redactFields_masks (endsWord : List Char → List Char → Bool) (event : Fields) :
    (∀ v : Value, v = .obj (redactFields event) ↔
      ∀ place, v.at? place = ((Value.obj event).at? place).bind (masked endsWord)) ∧
    (∀ other : Fields, redactFields event = redactFields other ↔
      SameOutsideSecrets endsWord (.obj event) (.obj other)) ∧
    redactFields (redactFields event) = redactFields event := by
  have hobj : ∀ fields : Fields, redact (.obj fields) = .obj (redactFields fields) :=
    fun fields => by rw [redact]
  refine ⟨fun v => ⟨?_, fun h => ?_⟩, fun other => ?_, ?_⟩
  · rintro rfl place
    rw [← hobj, at?_redact]
  · refine Value.eq_of_at? fun place => ?_
    rw [h, ← hobj, at?_redact]
  · rw [← redact_eq_redact_iff, hobj, hobj, Value.obj.injEq]
  · have hsame : SameOutsideSecrets endsWord (redact (.obj event)) (.obj event) :=
      sameOutsideSecrets_redact _
    have hagain := redact_eq_of_same hsame
    rw [hobj, hobj] at hagain
    exact Value.obj.inj hagain

example : redactFields [("sites", .arr [.obj [("ApiKey", .str "k-1"), ("name", .str "A")]])] =
    [("sites", .arr [.obj [("ApiKey", .str "***"), ("name", .str "A")]])] := by
  rfl

end Redaction

section Entries

variable {fields updates : Fields} {key : String}

theorem get?_overlay_of_not_mem (h : key ∉ Assoc.keys updates) :
    Assoc.get? (Fields.overlay fields updates) key = Assoc.get? fields key := by
  rw [Fields.overlay]
  induction updates generalizing fields with
  | nil => rfl
  | cons update rest ih =>
    obtain ⟨hother, hrest⟩ := List.ne_and_not_mem_of_not_mem_cons h
    rw [List.foldl_cons, ih hrest, Assoc.get?_set, if_neg (by simpa using hother)]

theorem get?_filter_of_ne {dropped : String} (h : key ≠ dropped) :
    Assoc.get? (fields.filter fun (k, _) => k != dropped) key = Assoc.get? fields key := by
  induction fields with
  | nil => rfl
  | cons field rest ih =>
    obtain ⟨k, v⟩ := field
    rw [List.filter_cons, Assoc.get?, Assoc.get?, List.lookup_cons]
    by_cases hk : k = dropped
    · subst hk
      rw [if_neg (by simp), beq_eq_false_iff_ne.2 h]
      exact ih
    · rw [if_pos (by simpa using hk), List.lookup_cons]
      cases key == k with
      | true => rfl
      | false => exact ih

theorem get?_redactFields (hkey : isSecretKey key = false) :
    Assoc.get? (redactFields fields) key = (Assoc.get? fields key).map redact := by
  induction fields with
  | nil => rfl
  | cons field rest ih =>
    obtain ⟨k, v⟩ := field
    rw [redactFields, Assoc.get?, Assoc.get?, List.lookup_cons, List.lookup_cons]
    cases hk : key == k with
    | true =>
      obtain rfl := eq_of_beq hk
      rw [hkey]
      rfl
    | false => exact ih

/-- An entry tells what is in the context unless the event has something of its own to tell. -/
theorem get?_entry_of_context (e : Event)
    (hkey : key ∉ ["timestamp", "event", "level", "logger"]) (hplain : isSecretKey key = false)
    (hown : key ∉ Assoc.keys e.fields) :
    Assoc.get? e.entry key = (Assoc.get? e.context key).map redact := by
  obtain ⟨htime, hparts⟩ := List.ne_and_not_mem_of_not_mem_cons hkey
  have hfields : key ∉ Assoc.keys (if e.foreign then [] else e.fields) := by
    split
    · exact List.not_mem_nil
    · exact hown
  rw [Event.entry, get?_redactFields hplain, get?_overlay_of_not_mem hparts, get?_filter_of_ne htime,
    get?_overlay_of_not_mem hfields]

end Entries

end IssueGateway.Logging
