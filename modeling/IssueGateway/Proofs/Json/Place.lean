import IssueGateway.Json.Value
import Mathlib.Data.List.Basic

/-!
# Places in a value

A place is the way to a part of a value, given by positions. What stands there is told by the keys on
the way and by the outline of the part: all of it if it is no array or object, the length of an array
and the keys of an object in order. Values in which the same stands at every place are the same
(`Value.eq_of_at?`).
-/

namespace IssueGateway.Json

/-- What a value is apart from its parts. -/
inductive Outline where
  | null
  | bool (b : Bool)
  | num (n : Number)
  | str (s : String)
  | arr (length : Nat)
  | obj (keys : List String)
  deriving DecidableEq

/-- The key of a part, if there is such a part; items have no key. -/
def Outline.key? : Outline → Nat → Option (Option String)
  | .arr length, i => if i < length then some none else none
  | .obj keys, i => keys[i]?.map some
  | _, _ => none

namespace Value

def outline : Value → Outline
  | .null => .null
  | .bool b => .bool b
  | .num n => .num n
  | .str s => .str s
  | .arr items => .arr items.length
  | .obj fields => .obj (fields.map Prod.fst)

/-- A part of a value, with its key if the value is an object. -/
def part? : Value → Nat → Option (Option String × Value)
  | .arr items, i => items[i]?.map fun v => (none, v)
  | .obj fields, i => fields[i]?.map fun (key, v) => (some key, v)
  | _, _ => none

/-- The keys on the way to a place, as far as the way has keys, and what stands there. -/
def at? (v : Value) : List Nat → Option (List (Option String) × Outline)
  | [] => some ([], v.outline)
  | i :: place => (v.part? i).bind fun (key, part) =>
      (part.at? place).map fun (keys, outline) => (key :: keys, outline)

theorem at?_nil (v : Value) : v.at? [] = some ([], v.outline) := rfl

theorem at?_cons (v : Value) (i : Nat) (place : List Nat) :
    v.at? (i :: place) = (v.part? i).bind fun (key, part) =>
      (part.at? place).map fun (keys, outline) => (key :: keys, outline) := rfl

theorem at?_cons_of_part {v part : Value} {i : Nat} {key : Option String}
    (h : v.part? i = some (key, part)) (place : List Nat) :
    v.at? (i :: place) =
      (part.at? place).map fun (keys, outline) => (key :: keys, outline) := by
  rw [at?_cons, h]
  rfl

theorem at?_cons_eq_some_iff {v part : Value} {i : Nat} {key : Option String}
    (h : v.part? i = some (key, part)) {place : List Nat} {keys : List (Option String)}
    {outline : Outline} :
    v.at? (i :: place) = some (key :: keys, outline) ↔ part.at? place = some (keys, outline) := by
  rw [at?_cons_of_part h, Option.map_eq_some_iff]
  constructor
  · rintro ⟨⟨rest, found⟩, hfound, heq⟩
    obtain ⟨hkeys, rfl⟩ := Prod.mk.inj heq
    rwa [(List.cons.inj hkeys).2] at hfound
  · exact fun hfound => ⟨_, hfound, rfl⟩

/-- Every step of the way has a key or none. -/
theorem length_of_at? {v : Value} {place : List Nat} {keys : List (Option String)}
    {outline : Outline} (h : v.at? place = some (keys, outline)) : keys.length = place.length := by
  induction place generalizing v keys with
  | nil =>
    obtain ⟨rfl, -⟩ := Prod.mk.inj (Option.some.inj h)
    rfl
  | cons i place ih =>
    obtain ⟨⟨key, part⟩, -, h⟩ := Option.bind_eq_some_iff.1 h
    obtain ⟨⟨rest, _⟩, hrest, heq⟩ := Option.map_eq_some_iff.1 h
    obtain ⟨rfl, rfl⟩ := Prod.mk.inj heq
    exact congrArg Nat.succ (ih hrest)

/-- Whether a value has a part, and under which key, is seen from its outline. -/
theorem map_fst_part? (v : Value) (i : Nat) :
    (v.part? i).map Prod.fst = v.outline.key? i := by
  cases v with
  | arr items =>
    by_cases hi : i < items.length <;> simp [part?, outline, Outline.key?, hi]
  | obj fields =>
    simp only [part?, outline, Outline.key?, List.getElem?_map, Option.map_map]
    rfl
  | _ => rfl

/-- Parts in the same position of values with the same outline have the same key. -/
theorem exists_part?_of_outline {v w part : Value} {i : Nat} {key : Option String}
    (houtline : v.outline = w.outline) (hpart : v.part? i = some (key, part)) :
    ∃ other, w.part? i = some (key, other) := by
  have hkey := map_fst_part? w i
  rw [← houtline, ← map_fst_part?, hpart] at hkey
  obtain ⟨⟨_, other⟩, hother, rfl⟩ := Option.map_eq_some_iff.1 hkey
  exact ⟨other, hother⟩

theorem part?_eq_none_of_outline {v w : Value} {i : Nat} (houtline : v.outline = w.outline)
    (hpart : v.part? i = none) : w.part? i = none := by
  have hkey := map_fst_part? w i
  rw [← houtline, ← map_fst_part?, hpart] at hkey
  exact Option.map_eq_none_iff.1 hkey

theorem at?_part_eq {v w part other : Value} {i : Nat} {key : Option String}
    (h : ∀ place, v.at? place = w.at? place) (hpart : v.part? i = some (key, part))
    (hother : w.part? i = some (key, other)) (place : List Nat) :
    part.at? place = other.at? place := by
  have hplace := h (i :: place)
  rw [at?_cons_of_part hpart, at?_cons_of_part hother] at hplace
  refine Option.map_injective (fun a b hab => ?_) hplace
  obtain ⟨keys, outline⟩ := a
  obtain ⟨keys', outline'⟩ := b
  simpa using hab

theorem sizeOf_part_lt {v part : Value} {i : Nat} {key : Option String}
    (hpart : v.part? i = some (key, part)) : sizeOf part < sizeOf v := by
  cases v with
  | arr items =>
    obtain ⟨item, hitem, heq⟩ := Option.map_eq_some_iff.1 hpart
    obtain ⟨-, rfl⟩ := Prod.mk.inj heq
    have hlt := List.sizeOf_lt_of_mem (List.mem_of_getElem? hitem)
    simp only [arr.sizeOf_spec]
    omega
  | obj fields =>
    obtain ⟨⟨name, value⟩, hfield, heq⟩ := Option.map_eq_some_iff.1 hpart
    obtain ⟨-, rfl⟩ := Prod.mk.inj heq
    have hlt := List.sizeOf_lt_of_mem (List.mem_of_getElem? hfield)
    simp only [obj.sizeOf_spec, Prod.mk.sizeOf_spec] at hlt ⊢
    omega
  | _ => cases hpart

/-- What holds of a value whenever it holds of its parts holds of every value. -/
theorem induction_on_parts {P : Value → Prop}
    (h : ∀ v, (∀ i key part, v.part? i = some (key, part) → P part) → P v) (v : Value) : P v :=
  h v fun _ _ part _ => induction_on_parts h part
termination_by sizeOf v
decreasing_by exact sizeOf_part_lt ‹_›

theorem eq_of_part? {v w : Value} (houtline : v.outline = w.outline)
    (h : ∀ i, v.part? i = w.part? i) : v = w := by
  cases v with
  | arr items =>
    cases w with
    | arr others =>
      refine congrArg Value.arr (List.ext_getElem? fun i => ?_)
      exact Option.map_injective (fun _ _ heq => congrArg Prod.snd heq) (h i)
    | _ => cases houtline
  | obj fields =>
    cases w with
    | obj others =>
      refine congrArg Value.obj (List.ext_getElem? fun i => ?_)
      refine Option.map_injective (fun field other heq => ?_) (h i)
      obtain ⟨hkey, hvalue⟩ := Prod.mk.inj heq
      exact Prod.ext (Option.some.inj hkey) hvalue
    | _ => cases houtline
  | _ =>
    cases w <;> cases houtline
    rfl

/-- Values in which the same stands at every place are the same. -/
theorem eq_of_at? {v w : Value} (h : ∀ place, v.at? place = w.at? place) : v = w := by
  induction v using induction_on_parts generalizing w with
  | h v ih =>
    have houtline : v.outline = w.outline := congrArg Prod.snd (Option.some.inj (h []))
    refine eq_of_part? houtline fun i => ?_
    cases hpart : v.part? i with
    | none => exact (part?_eq_none_of_outline houtline hpart).symm
    | some entry =>
      obtain ⟨key, part⟩ := entry
      obtain ⟨other, hother⟩ := exists_part?_of_outline houtline hpart
      rw [hother, ih i key part hpart (at?_part_eq h hpart hother)]

end Value

end IssueGateway.Json
