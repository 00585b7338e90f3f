import IssueGateway.Proofs.Json.Text
import IssueGateway.Proofs.Stats.Existence

/-!
# Keys that are texts

The status, the assignee and the manager of a record give the text of their column as its key. A
class gives its column as it is, so that a number, a flag, a list or an object in it is a key that
is no text, or none at all (`GroupBy.groups_by_text`).
-/

namespace IssueGateway.Stats

open Json

namespace GroupBy

/-- The column that a selector looks at. -/
def column : GroupBy → String
  | .status => "Status"
  | .assignee => "Owner"
  | .manager => "Manager"
  | .classA => "ClassA"
  | .classB => "ClassB"

/-- Whether a selector takes its column as it is. -/
def isClass : GroupBy → Bool
  | .classA | .classB => true
  | _ => false

/-- The key of a record without anything in its column. -/
def fallback : GroupBy → String
  | .status => "unknown"
  | .assignee | .manager => "unassigned"
  | .classA | .classB => "uncategorized"

/-- A record has a class that is present and no text. -/
def HasRawKey (g : GroupBy) (r : Record) : Prop :=
  g.isClass = true ∧ (r.get g.column).isPresent = true ∧ ∀ s, r.get g.column ≠ .str s

/-- A record has a list or an object with something in it for a class. -/
def HasNoKey (g : GroupBy) (r : Record) : Prop :=
  g.HasRawKey r ∧ ((r.get g.column).kind = .list ∨ (r.get g.column).kind = .object)

variable {g : GroupBy} {r : Record}

theorem selector_name (g : GroupBy) : selector g.name = g.select := by
  cases g <;> rfl

theorem select_of_class (h : g.isClass = true) :
    g.select r = (r.get g.column).orElse (.str g.fallback) := by
  cases g <;> first | rfl | cases h

theorem select_of_not_class (h : g.isClass = false) :
    g.select r = textOr g.fallback (r.get g.column) := by
  cases g <;> first | rfl | cases h

theorem fallback_ne_empty (g : GroupBy) : g.fallback ≠ "" := by
  cases g <;> decide

theorem exists_textOr (s : String) (v : Value) : ∃ t, textOr s v = .str t := by
  cases v <;> exact ⟨_, rfl⟩

theorem textOr_eq_empty_iff {s : String} (hs : s ≠ "") {v : Value} :
    textOr s v = .str "" ↔ v = .str "" := by
  cases v with
  | null => simp [textOr, hs]
  | _ => simp [textOr, Value.text_eq_empty_iff]

/-- The key of a record is a text unless its class is present and none. -/
theorem select_eq_text_iff : (∃ s, g.select r = .str s) ↔ ¬ g.HasRawKey r := by
  cases hclass : g.isClass with
  | false =>
    rw [select_of_not_class hclass]
    simp [HasRawKey, hclass, exists_textOr]
  | true =>
    rw [select_of_class hclass, Value.orElse]
    split
    · rename_i hpresent
      simp [HasRawKey, hclass, hpresent]
    · rename_i habsent
      simp [HasRawKey, habsent]

theorem select_eq_empty_iff :
    g.select r = .str "" ↔ g.isClass = false ∧ r.get g.column = .str "" := by
  cases hclass : g.isClass with
  | false =>
    rw [select_of_not_class hclass, textOr_eq_empty_iff g.fallback_ne_empty]
    simp
  | true =>
    rw [select_of_class hclass, Value.orElse]
    split
    · rename_i hpresent
      refine iff_of_false (fun hempty => ?_) (by simp)
      rw [hempty] at hpresent
      simp [Value.isPresent] at hpresent
    · simp [g.fallback_ne_empty]

theorem select_of_raw (h : g.HasRawKey r) : g.select r = r.get g.column := by
  rw [select_of_class h.1, Value.orElse, if_pos h.2.1]

/-! ### Groups -/

variable {records : List Record}

theorem exists_keyOf_select_iff : (∃ key, keyOf g.select r = .ok key) ↔ ¬ g.HasNoKey r := by
  rw [exists_keyOf_iff]
  by_cases hraw : g.HasRawKey r
  · simp [HasNoKey, hraw, select_of_raw hraw]
  · obtain ⟨s, hs⟩ := select_eq_text_iff.2 hraw
    simp [HasNoKey, hraw, hs, Value.kind]

theorem keyOf_eq_text_iff {select : Selector} {s : String} :
    keyOf select r = .ok (.text s) ↔ select r = .str s := by
  rw [keyOf]
  cases select r <;> simp [GroupKey.ofValue]

theorem same_text_iff {key : GroupKey} {s : String} : (key == .text s) = true ↔ key = .text s := by
  rw [GroupKey.same_iff]
  cases key <;> simp [GroupKey.sameness]

/-- The groups are named by texts exactly if every record has a text for its key. -/
theorem keys_eq_text_iff {groups : Assoc GroupKey GroupStats}
    (h : aggregate records g.select = .ok groups) :
    (∀ key ∈ groups.keys, ∃ s, key = .text s) ↔ ∀ r ∈ records, ¬ g.HasRawKey r := by
  simp only [← select_eq_text_iff, ← keyOf_eq_text_iff]
  constructor
  · intro htexts r hr
    -- the key of the group may be another record's, but what is the same as a text is that text
    obtain ⟨key, hkey, hhas⟩ := exists_key_of_aggregate h hr
    obtain ⟨own, hown, hsame⟩ := hasKey_iff.1 hhas
    obtain ⟨s, rfl⟩ := htexts key hkey
    exact ⟨s, same_text_iff.1 hsame ▸ hown⟩
  · intro htexts key hkey
    obtain ⟨keys, hkeys, hgroups⟩ := keys_of_aggregate h
    rw [hgroups] at hkey
    obtain ⟨r, hr, hown⟩ := (mem_of_mapM_eq_ok hkeys).1 (mem_of_mem_eraseDups hkey)
    obtain ⟨s, hs⟩ := htexts r hr
    exact ⟨s, Except.ok.inj (hown.symm.trans hs)⟩

/-- Grouping fails for a record without a key or a calculation out of range. -/
theorem aggregate_failsOnly : FailsOnly (fun failure =>
    (∃ cause, failure = .range cause) ∨ ∃ r ∈ records, g.HasNoKey r)
    (aggregate records g.select) := by
  refine FailsOnly.bind (.foldlM_of_mem (fun r hr groups => .bind ?_ fun key => ?_) _)
    fun tallies => .mapM (fun entry => ?_) tallies
  · intro failure hfailure
    refine .inr ⟨r, hr, not_not.1 fun hkey => ?_⟩
    obtain ⟨key, hown⟩ := exists_keyOf_select_iff.2 hkey
    rw [keyOf, hfailure] at hown
    cases hown
  · exact ((range_add _ r).mono fun _ => .inl).bind fun _ => .ok _
  · exact ((range_stats entry.2).mono fun _ => .inl).bind fun _ => .ok _

/-- A selector gives a text for a record unless its class is something present that is no text, and
an empty one only where the column that it writes out is the empty text. The groups are named by
texts alone unless there is such a record, and grouping fails for a record whose class is a list or
an object with something in it, besides calculations that are out of range. -/
theorem groups_by_text (g : GroupBy) :
    (∀ r, ((∃ s, selector g.name r = .str s) ↔ ¬ g.HasRawKey r) ∧
      (selector g.name r = .str "" ↔ g.isClass = false ∧ r.get g.column = .str "")) ∧
    ∀ records, match aggregate records (selector g.name) with
      | .ok groups => (∀ r ∈ records, ¬ g.HasNoKey r) ∧
        ((∀ key ∈ groups.keys, ∃ s, key = .text s) ↔ ∀ r ∈ records, ¬ g.HasRawKey r)
      | .error failure =>
        (∃ cause, failure = .range cause) ∨ ∃ r ∈ records, g.HasNoKey r := by
  rw [selector_name]
  refine ⟨fun r => ⟨select_eq_text_iff, select_eq_empty_iff⟩, fun records => ?_⟩
  cases h : aggregate records g.select with
  | ok groups =>
    refine ⟨fun r hr => ?_, keys_eq_text_iff h⟩
    obtain ⟨key, -, hhas⟩ := exists_key_of_aggregate h hr
    obtain ⟨own, hown, -⟩ := hasKey_iff.1 hhas
    exact exists_keyOf_select_iff.1 ⟨own, hown⟩
  | error failure => exact aggregate_failsOnly failure h

example : selector "classA" ⟨[("ClassA", .int 5)]⟩ = .int 5 := by
  rfl

example : aggregate [⟨[("ClassB", .arr [.int 1])]⟩] (selector "classB") =
    .error (.noGroupKey .list) := by
  rfl

end GroupBy

end IssueGateway.Stats
