import IssueGateway.Json.Parser
import IssueGateway.Json.Text
import IssueGateway.Proofs.Number.Literal
import IssueGateway.Proofs.Results

/-!
# What is read can be written

An integer that is read has no more digits than one that is written may have, and no numeral is
longer than the digits that it comes from. So a value that was read has a text
(`Value.isWritable_of_decode`), and so have the values in it.
-/

namespace IssueGateway.Json

open Text Number

section Parts

variable {v : Value} {items : List Value} {fields : Fields}

theorem isWritable_of_mem (h : areWritable items = true) (hv : v ∈ items) :
    v.isWritable = true := by
  induction items with
  | nil => cases hv
  | cons item items ih =>
    rw [areWritable, Bool.and_eq_true] at h
    cases hv with
    | head => exact h.1
    | tail _ hv => exact ih h.2 hv

theorem isWritable_get (h : areFieldsWritable fields = true) (key : String) :
    (Fields.get fields key).isWritable = true := by
  rw [Fields.get, Assoc.get?]
  induction fields with
  | nil => rfl
  | cons field fields ih =>
    rw [areFieldsWritable, Bool.and_eq_true] at h
    rw [List.lookup_cons]
    cases key == field.1 with
    | true => exact h.1
    | false => exact ih h.2

theorem Value.isWritable_field (h : v.isWritable = true) (key : String) :
    (v.field key).isWritable = true := by
  cases v with
  | obj fields => exact isWritable_get h key
  | _ => rfl

theorem areFieldsWritable_set (h : areFieldsWritable fields = true) (hv : v.isWritable = true)
    (key : String) : areFieldsWritable (Assoc.set fields key v) = true := by
  rw [Assoc.set]
  induction fields with
  | nil => simpa [Assoc.update, areFieldsWritable] using hv
  | cons field fields ih =>
    rw [areFieldsWritable, Bool.and_eq_true] at h
    rw [Assoc.update]
    split <;> simp [areFieldsWritable, hv, h.1, h.2, ih h.2]

end Parts

section Scalars

variable {c after : Cursor} {v : Value}

theorem isWritable_of_readNumber (h : readNumber c = .ok (v, after)) : v.isWritable = true := by
  rw [readNumber] at h
  cases hn : readNatural? (takeWhole (takeMinus c.rest).2) with
  | none =>
    simp only [hn] at h
    cases h
  | some n =>
    simp only [hn] at h
    split at h
    · split at h
      · cases h
      · next hshort =>
        cases h
        obtain ⟨hne, hall, rfl⟩ := readNatural?_eq_some_iff.1 hn
        have hlength := (hall.length_natural_le hne).trans (Nat.le_of_not_lt hshort)
        rw [Value.int, Value.isWritable, Number.isWritable]
        split <;> simpa using hlength
    · cases h
      rfl

theorem isWritable_of_readScalar (h : readScalar c = .ok (v, after)) : v.isWritable = true := by
  rw [readScalar] at h
  split at h
  · next word value hword =>
    cases h
    have hwords : ∀ entry ∈ words, entry.2.isWritable = true := by
      simp [words, Value.isWritable, Value.float, Number.isWritable]
    exact hwords _ (List.mem_of_find?_eq_some hword)
  · exact isWritable_of_readNumber h

end Scalars

/-- Within a bound on the steps only what can be written is read. The fields read behind others are
put to them, so those before count as well. -/
structure ReadsWritable (fuel : Nat) : Prop where
  value : ∀ {c v after}, readValue fuel c = .ok (v, after) → v.isWritable = true
  items : ∀ {c items after}, readItems fuel c = .ok (items, after) → areWritable items = true
  fields : ∀ {c fields read after}, areFieldsWritable fields = true →
    readFields fuel c fields = .ok (read, after) → areFieldsWritable read = true

namespace ReadsWritable

variable {fuel : Nat} {c after : Cursor} (hreads : ReadsWritable fuel)

include hreads

theorem value_succ {v : Value} (h : readValue (fuel + 1) c = .ok (v, after)) :
    v.isWritable = true := by
  rw [readValue] at h
  split at h
  · obtain ⟨⟨s, next⟩, -, h⟩ := bind_eq_ok_iff.1 h
    cases h
    rfl
  · dsimp only at h
    split at h
    · cases h
      rfl
    · obtain ⟨⟨items, next⟩, hitems, h⟩ := bind_eq_ok_iff.1 h
      cases h
      exact hreads.items hitems
  · dsimp only at h
    split at h
    · cases h
      rfl
    · obtain ⟨⟨fields, next⟩, hfields, h⟩ := bind_eq_ok_iff.1 h
      cases h
      exact hreads.fields rfl hfields
  · exact isWritable_of_readScalar h

theorem items_succ {items : List Value} (h : readItems (fuel + 1) c = .ok (items, after)) :
    areWritable items = true := by
  rw [readItems] at h
  obtain ⟨⟨item, next⟩, hitem, h⟩ := bind_eq_ok_iff.1 h
  dsimp only at h
  split at h
  · cases h
    rw [areWritable, hreads.value hitem]
    rfl
  · obtain ⟨⟨rest, last⟩, hrest, h⟩ := bind_eq_ok_iff.1 h
    cases h
    rw [areWritable, hreads.value hitem, hreads.items hrest]
    rfl
  · cases h

theorem fields_succ {fields read : Fields} (hfields : areFieldsWritable fields = true)
    (h : readFields (fuel + 1) c fields = .ok (read, after)) : areFieldsWritable read = true := by
  rw [readFields] at h
  split at h
  · obtain ⟨⟨key, colon⟩, -, h⟩ := bind_eq_ok_iff.1 h
    dsimp only at h
    split at h
    · obtain ⟨⟨value, next⟩, hvalue, h⟩ := bind_eq_ok_iff.1 h
      have hset := areFieldsWritable_set hfields (hreads.value hvalue) key
      dsimp only at h
      split at h
      · cases h
        exact hset
      · exact hreads.fields hset h
      · cases h
    · cases h
  · cases h

end ReadsWritable

theorem readsWritable (fuel : Nat) : ReadsWritable fuel := by
  induction fuel with
  | zero => exact ⟨nofun, nofun, fun _ => nofun⟩
  | succ fuel ih => exact ⟨ih.value_succ, ih.items_succ, ih.fields_succ⟩

theorem isWritable_of_parse {text : List Char} {v : Value} (h : parse text = .ok v) :
    v.isWritable = true := by
  rw [parse, mapError_eq_ok_iff] at h
  obtain ⟨⟨value, after⟩, hvalue, h⟩ := bind_eq_ok_iff.1 h
  dsimp only at h
  split at h
  · cases h
    exact (readsWritable _).value hvalue
  · cases h

theorem Value.isWritable_of_decode {bytes : List UInt8} {v : Value} (h : decode bytes = .ok v) :
    v.isWritable = true := by
  rw [decode] at h
  split at h
  · cases h
  · split at h
    · next hparse =>
      cases h
      exact isWritable_of_parse hparse
    · cases h

end IssueGateway.Json
