import IssueGateway.Json.Text
import IssueGateway.Number.Basic
import IssueGateway.Proofs.Text.Decimal

/-!
# What is written like an integer

The text of a value is the numeral of an integer only if the value is this integer or that text
itself (`Value.text_eq_integer_iff`): all else is written with some character that no such numeral
has. Only the empty text is written as nothing (`Value.text_eq_empty_iff`).
-/

namespace IssueGateway

namespace Number

open Text

theorem exists_mem_write (digits : List Char) (point : Int) :
    ∃ c ∈ layout.write digits point, isNumeralChar c = false := by
  rw [Layout.write]
  split
  · exact ⟨'e', by simp, rfl⟩
  · split
    · exact ⟨'.', by simp, rfl⟩
    · simp only
      split
      · exact ⟨'.', by simp [layout], rfl⟩
      · exact ⟨'.', by simp, rfl⟩

/-- The numeral of a double has a point, an exponent or the letters of a word. -/
theorem exists_mem_numeral (x : Float) :
    ∃ c ∈ (numeral x).toList, isNumeralChar c = false := by
  rw [numeral]
  cases finite? x with
  | none =>
    have hletter : 'n' ∈ (if x.isNaN then "nan" else if x < 0 then "-inf" else "inf").toList := by
      split
      · decide
      · split <;> decide
    exact ⟨'n', hletter, rfl⟩
  | some b =>
    simp only [String.toList_ofList]
    rw [Binary.numeral]
    split
    · exact ⟨'.', by simp [layout], rfl⟩
    · obtain ⟨c, hc, hother⟩ := exists_mem_write
        (dropTrailingZeros (natural (shortest b.significand b.exponent).1))
        ((natural (shortest b.significand b.exponent).1).length +
          (shortest b.significand b.exponent).2)
      exact ⟨c, List.mem_append_right _ hc, hother⟩

end Number

namespace Json

open Text

theorem ne_integer_of_mem {s : String} {c : Char} (hc : c ∈ s.toList)
    (hother : isNumeralChar c = false) (n : Int) : s ≠ String.ofList (integer n) := by
  rintro rfl
  rw [String.toList_ofList] at hc
  rw [isNumeralChar_of_mem_integer hc] at hother
  cases hother

/-- Only a text and an integer can be written without some other character than a numeral's. -/
theorem Value.exists_mem_text {v : Value} (hint : ∀ n, v ≠ .int n) (hstr : ∀ s, v ≠ .str s) :
    ∃ c ∈ v.text.toList, isNumeralChar c = false := by
  cases v with
  | null => exact ⟨'N', by decide, rfl⟩
  | bool b =>
    cases b with
    | true => exact ⟨'T', by decide, rfl⟩
    | false => exact ⟨'F', by decide, rfl⟩
  | num m =>
    cases m with
    | int m => exact absurd rfl (hint m)
    | float x => exact Number.exists_mem_numeral x
  | str s => exact absurd rfl (hstr s)
  | arr items =>
    have hbracket : '[' ∈ ("[" ++ commaSeparated (literals items) ++ "]").toList := by
      rw [String.toList_append, String.toList_append]
      exact List.mem_append_left _ (List.mem_append_left _ (by decide))
    exact ⟨'[', hbracket, rfl⟩
  | obj fields =>
    have hbrace : '\x7b' ∈ ("\x7b" ++ commaSeparated (fieldLiterals fields) ++ "\x7d").toList := by
      rw [String.toList_append, String.toList_append]
      exact List.mem_append_left _ (List.mem_append_left _ (by decide))
    exact ⟨'\x7b', hbrace, rfl⟩

/-- How a value is written, if it is a text, an integer or anything else. -/
theorem Value.text_cases (v : Value) : (∃ s, v = .str s ∧ v.text = s) ∨
    (∃ n, v = .int n ∧ v.text = String.ofList (integer n)) ∨
    ((∀ n, v ≠ .int n) ∧ (∀ s, v ≠ .str s) ∧ ∃ c ∈ v.text.toList, isNumeralChar c = false) := by
  by_cases hstr : ∃ s, v = .str s
  · obtain ⟨s, rfl⟩ := hstr
    exact .inl ⟨s, rfl, rfl⟩
  · by_cases hint : ∃ n, v = .int n
    · obtain ⟨n, rfl⟩ := hint
      exact .inr (.inl ⟨n, rfl, rfl⟩)
    · rw [not_exists] at hstr hint
      exact .inr (.inr ⟨hint, hstr, exists_mem_text hint hstr⟩)

theorem Value.text_eq_integer_iff (v : Value) (n : Int) :
    v.text = String.ofList (integer n) ↔
      v = .int n ∨ v = .str (String.ofList (integer n)) := by
  obtain ⟨s, rfl, htext⟩ | ⟨m, rfl, htext⟩ | ⟨hint, hstr, c, hc, hother⟩ := v.text_cases
  · simp [htext, Value.int]
  · rw [htext, String.ofList_inj, integer_injective.eq_iff]
    simp [Value.int]
  · exact iff_of_false (ne_integer_of_mem hc hother n) fun h => h.elim (hint n) (hstr _)

/-- Nothing but the empty text is written as it. -/
theorem Value.text_eq_empty_iff {v : Value} : v.text = "" ↔ v = .str "" := by
  obtain ⟨s, rfl, htext⟩ | ⟨n, rfl, htext⟩ | ⟨-, hstr, c, hc, -⟩ := v.text_cases
  · simp [htext]
  · rw [htext, ← String.toList_inj, String.toList_ofList]
    exact iff_of_false (integer_ne_nil n) nofun
  · refine iff_of_false (fun hempty => ?_) (hstr "")
    rw [hempty] at hc
    cases hc

end Json

end IssueGateway
