import IssueGateway.Assoc
import Mathlib.Data.List.Basic
import Mathlib.Data.List.Induction
import Mathlib.Data.List.Pairwise

/-!
# Entries of maps in order

What changing one key does to the entries of a map. Keys need not be compared lawfully, as numbers
of different kinds can be the same key; it is enough that sameness is an equivalence. The keys of a
map built by setting one key after another are these keys without the repeated ones (`keys_set`
beside `eraseDups_concat`), and a map that collects elements under their keys is these keys with
what is made of the elements under each (`foldl_update_eq_map`).
-/

namespace IssueGateway

/-- A last element stays if no kept one is like it. -/
theorem eraseDups_concat {α : Type} [BEq α] (as : List α) (a : α) :
    (as ++ [a]).eraseDups =
      if as.eraseDups.any (a == ·) then as.eraseDups else as.eraseDups ++ [a] := by
  have hloop : ∀ kept : List α, List.eraseDupsBy.loop (· == ·) (as ++ [a]) kept =
      if (List.eraseDupsBy.loop (· == ·) as kept).any (a == ·)
      then List.eraseDupsBy.loop (· == ·) as kept
      else List.eraseDupsBy.loop (· == ·) as kept ++ [a] := by
    induction as with
    | nil =>
      intro kept
      simp only [List.nil_append, List.eraseDupsBy.loop, List.any_reverse]
      split <;> simp_all
    | cons b bs ih =>
      intro kept
      rw [List.cons_append, List.eraseDupsBy.loop, List.eraseDupsBy.loop]
      cases kept.any (b == ·) with
      | true => exact ih kept
      | false => exact ih (b :: kept)
  exact hloop []

/-- No kept element is like an earlier one. -/
theorem pairwise_eraseDups {α : Type} [BEq α] (as : List α) :
    as.eraseDups.Pairwise fun a b => (b == a) = false := by
  induction as using List.reverseRecOn with
  | nil => exact List.Pairwise.nil
  | append_singleton as a ih =>
    rw [eraseDups_concat]
    split
    · exact ih
    · rename_i hnone
      refine List.pairwise_append.2 ⟨ih, List.pairwise_singleton _ _, ?_⟩
      intro b hb c hc
      obtain rfl := List.mem_singleton.1 hc
      simpa using fun h => hnone (List.any_eq_true.2 ⟨b, hb, h⟩)

theorem eq_false_of_pairwise {α : Type} [BEq α] [EquivBEq α] {as : List α} {a b : α}
    (hdistinct : as.Pairwise fun a b => (b == a) = false) (ha : a ∈ as) (hb : b ∈ as)
    (hne : a ≠ b) : (a == b) = false := by
  have : Std.Symm fun a b : α => (b == a) = false := ⟨fun a b h => BEq.comm.trans h⟩
  exact BEq.comm.trans (hdistinct.forall ha hb hne)

theorem mem_of_mem_eraseDups {α : Type} [BEq α] {as : List α} {a : α} (h : a ∈ as.eraseDups) :
    a ∈ as := by
  induction as using List.reverseRecOn with
  | nil => exact h
  | append_singleton as b ih =>
    rw [eraseDups_concat] at h
    split at h
    · exact List.mem_append_left _ (ih h)
    · rcases List.mem_append.1 h with h | h
      · exact List.mem_append_left _ (ih h)
      · exact List.mem_append_right _ h

theorem exists_mem_eraseDups {α : Type} [BEq α] [ReflBEq α] {as : List α} {a : α} (h : a ∈ as) :
    ∃ b ∈ as.eraseDups, (a == b) = true := by
  induction as using List.reverseRecOn with
  | nil => cases h
  | append_singleton as c ih =>
    rw [eraseDups_concat]
    rcases List.mem_append.1 h with hbefore | hlast
    · obtain ⟨b, hb, hsame⟩ := ih hbefore
      split
      · exact ⟨b, hb, hsame⟩
      · exact ⟨b, List.mem_append_left _ hb, hsame⟩
    · obtain rfl := List.mem_singleton.1 hlast
      split
      · rename_i hany
        exact List.any_eq_true.1 hany
      · exact ⟨a, List.mem_append_right _ (List.mem_singleton_self a), BEq.rfl⟩

theorem eraseDups_of_nodup {α : Type} [BEq α] [LawfulBEq α] {as : List α} (h : as.Nodup) :
    as.eraseDups = as := by
  induction as with
  | nil => rfl
  | cons a as ih =>
    obtain ⟨hfresh, hrest⟩ := List.nodup_cons.1 h
    have hkept : as.filter (fun b => !b == a) = as := by
      rw [List.filter_eq_self]
      intro b hb
      have hne : b ≠ a := fun heq => hfresh (heq ▸ hb)
      simpa using hne
    rw [List.eraseDups_cons, hkept, ih hrest]

namespace Assoc

variable {α β : Type} [BEq α]

/-- Every value of a changed map was there before or is the new one. -/
theorem mem_values_set {m : Assoc α β} {key : α} {value v : β}
    (hv : v ∈ (m.set key value).values) : v = value ∨ v ∈ m.values := by
  induction m with
  | nil =>
    left
    simpa [set, update, values] using hv
  | cons entry rest ih =>
    obtain ⟨k, old⟩ := entry
    rw [set, update] at hv
    split at hv
    · rcases List.mem_cons.1 hv with rfl | hrest
      · exact Or.inl rfl
      · exact Or.inr (List.mem_cons_of_mem _ hrest)
    · rcases List.mem_cons.1 hv with rfl | hrest
      · exact Or.inr (List.mem_cons_self ..)
      · rcases ih hrest with hnew | hold
        · exact Or.inl hnew
        · exact Or.inr (List.mem_cons_of_mem _ hold)

theorem keys_update (m : Assoc α β) (key : α) (f : Option β → β) :
    (m.update key f).keys = if m.keys.any (key == ·) then m.keys else m.keys ++ [key] := by
  induction m with
  | nil => rfl
  | cons entry rest ih =>
    obtain ⟨k, old⟩ := entry
    rw [update]
    cases hkey : key == k with
    | true => simp [keys, hkey]
    | false =>
      change k :: keys (update rest key f) = if (key == k || (keys rest).any (key == ·)) then
        k :: keys rest else k :: (keys rest ++ [key])
      rw [ih, hkey, Bool.false_or]
      split <;> rfl

theorem get?_update [EquivBEq α] (m : Assoc α β) (key other : α) (f : Option β → β) :
    (m.update key f).get? other = if other == key then some (f (m.get? key)) else m.get? other := by
  induction m with
  | nil =>
    change List.lookup other [(key, f none)] = _
    rw [List.lookup_cons]
    cases other == key <;> rfl
  | cons entry rest ih =>
    obtain ⟨k, old⟩ := entry
    rw [update]
    cases hkey : key == k with
    | true =>
      rw [if_pos rfl, get?, get?, get?, List.lookup_cons, List.lookup_cons, List.lookup_cons, hkey,
        BEq.congr_right hkey]
      cases other == k <;> rfl
    | false =>
      change List.lookup other ((k, old) :: update rest key f) = _
      rw [get?, get?, List.lookup_cons, List.lookup_cons, List.lookup_cons, hkey]
      cases hother : other == k with
      | true =>
        have hne : (other == key) = false := by
          rw [BEq.congr_left hother, BEq.comm, hkey]
        rw [hne]
        rfl
      | false => exact ih

theorem keys_set (m : Assoc α β) (key : α) (value : β) :
    (m.set key value).keys = if m.keys.any (key == ·) then m.keys else m.keys ++ [key] :=
  keys_update m key _

theorem get?_set [EquivBEq α] (m : Assoc α β) (key other : α) (value : β) :
    (m.set key value).get? other = if other == key then some value else m.get? other :=
  get?_update m key other _

theorem get?_of_mem [EquivBEq α] {m : Assoc α β} {key : α} {value : β}
    (hdistinct : m.keys.Pairwise fun a b => (b == a) = false) (hmem : (key, value) ∈ m) :
    m.get? key = some value := by
  induction m with
  | nil => cases hmem
  | cons entry rest ih =>
    obtain ⟨k, v⟩ := entry
    obtain ⟨hfirst, hrest⟩ := List.pairwise_cons.1 hdistinct
    rcases List.mem_cons.1 hmem with heq | hmem
    · obtain ⟨rfl, rfl⟩ := Prod.mk.inj heq
      simp [get?]
    · have hne : (key == k) = false := hfirst key (List.mem_map_of_mem hmem)
      rw [get?, List.lookup_cons, hne]
      exact ih hrest hmem

/-- A map is told by its keys and what they hold. -/
theorem eq_map_keys [EquivBEq α] {m : Assoc α β} {value : α → β}
    (hdistinct : m.keys.Pairwise fun a b => (b == a) = false)
    (hvalue : ∀ key ∈ m.keys, m.get? key = some (value key)) :
    m = m.keys.map fun key => (key, value key) := by
  rw [keys, List.map_map]
  conv_lhs => rw [← List.map_id m]
  refine List.map_congr_left fun entry hmem => ?_
  obtain ⟨key, held⟩ := entry
  have hget := hvalue key (List.mem_map_of_mem hmem)
  rw [get?_of_mem hdistinct hmem] at hget
  rw [id, Function.comp_apply, ← Option.some.inj hget]

/-- Of a map with distinct keys, a key has its entry and no other. -/
theorem filter_key [LawfulBEq α] {m : Assoc α β} (hdistinct : m.keys.Nodup) (key : α) :
    m.filter (·.1 == key) = ((m.get? key).map fun value => (key, value)).toList := by
  induction m with
  | nil => rfl
  | cons entry rest ih =>
    obtain ⟨k, value⟩ := entry
    obtain ⟨hfresh, hrest⟩ := List.nodup_cons.1 hdistinct
    rw [List.filter_cons, get?, List.lookup_cons]
    cases hkey : k == key with
    | true =>
      obtain rfl := eq_of_beq hkey
      have hnone : rest.filter (·.1 == k) = [] := by
        rw [List.filter_eq_nil_iff]
        intro other hother hsame
        have hmem : other.1 ∈ keys rest := List.mem_map_of_mem hother
        exact hfresh (eq_of_beq hsame ▸ hmem)
      rw [hnone, BEq.rfl]
      rfl
    | false =>
      rw [BEq.comm, hkey]
      exact ih hrest

theorem mem_keys_iff [LawfulBEq α] {m : Assoc α β} {key : α} :
    key ∈ m.keys ↔ (m.get? key).isSome := by
  rw [keys, List.mem_map, get?, List.lookup_isSome_iff]
  exact exists_congr fun entry => and_congr_right fun _ => eq_comm.trans beq_iff_eq.symm

section Collected

variable {ρ : Type} (key : ρ → α) (add : Option β → ρ → β)

/-- The keys of a map that collects some elements, each under its key. -/
theorem keys_foldl_update (rs : List ρ) :
    keys (rs.foldl (fun m r => update m (key r) (add · r)) []) = (rs.map key).eraseDups := by
  induction rs using List.reverseRecOn with
  | nil => rfl
  | append_singleton rs r ih =>
    rw [List.foldl_append, List.foldl_cons, List.foldl_nil, keys_update, ih, List.map_append,
      List.map_singleton, eraseDups_concat]

/-- A key holds what its own elements leave behind, whatever else was collected. -/
theorem get?_foldl_update [EquivBEq α] (rs : List ρ) (k : α) :
    get? (rs.foldl (fun m r => update m (key r) (add · r)) []) k =
      (rs.filter (key · == k)).foldl (fun held r => some (add held r)) none := by
  induction rs using List.reverseRecOn generalizing k with
  | nil => rfl
  | append_singleton rs r ih =>
    rw [List.foldl_append, List.foldl_cons, List.foldl_nil, get?_update, List.filter_append,
      List.filter_singleton, BEq.comm]
    cases hsame : key r == k with
    | true =>
      have hown : rs.filter (key · == key r) = rs.filter (key · == k) :=
        List.filter_congr fun _ _ => BEq.congr_right hsame
      rw [if_pos rfl, ih, hown, cond_true, List.foldl_append, List.foldl_cons, List.foldl_nil]
    | false => rw [if_neg Bool.false_ne_true, ih, cond_false, List.append_nil]

/-- A map that collects elements has each key once, with the value of the elements under it. The
value of no elements is never asked for. -/
theorem foldl_update_eq_map [EquivBEq α] {value : List ρ → β} (hfirst : ∀ r, add none r = value [r])
    (hnext : ∀ rs r, add (some (value rs)) r = value (rs ++ [r])) (rs : List ρ) :
    rs.foldl (fun m r => update m (key r) (add · r)) [] =
      (rs.map key).eraseDups.map fun k => (k, value (rs.filter (key · == k))) := by
  have hheld : ∀ own : List ρ, own ≠ [] →
      own.foldl (fun held r => some (add held r)) none = some (value own) := by
    intro own
    induction own using List.reverseRecOn with
    | nil => exact fun h => absurd rfl h
    | append_singleton own r ih =>
      intro _
      rw [List.foldl_append, List.foldl_cons, List.foldl_nil]
      cases own with
      | nil => exact congrArg some (hfirst r)
      | cons first rest => rw [ih (List.cons_ne_nil first rest), hnext]
  rw [← keys_foldl_update key add]
  refine eq_map_keys ?_ fun k hk => ?_
  · rw [keys_foldl_update]
    exact pairwise_eraseDups _
  · rw [keys_foldl_update] at hk
    obtain ⟨r, hr, rfl⟩ := List.mem_map.1 (mem_of_mem_eraseDups hk)
    rw [get?_foldl_update]
    exact hheld _ (List.ne_nil_of_mem (List.mem_filter.2 ⟨hr, BEq.rfl⟩))

end Collected

end Assoc

end IssueGateway
