import Mathlib.Data.List.Forall2

/-!
# Calculations that succeed

A calculation that can fail gives a value exactly when each of its steps does. These are the steps
that the statistics are made of; with them a success is taken apart without opening the steps.
-/

namespace IssueGateway

variable {ε α β : Type}

theorem bind_eq_ok_iff {x : Except ε α} {f : α → Except ε β} {b : β} :
    x >>= f = .ok b ↔ ∃ a, x = .ok a ∧ f a = .ok b := by
  cases x <;> simp [bind, Except.bind]

theorem bind_eq_error_iff {x : Except ε α} {f : α → Except ε β} {e : ε} :
    x >>= f = .error e ↔ x = .error e ∨ ∃ a, x = .ok a ∧ f a = .error e := by
  cases x <;> simp [bind, Except.bind]

theorem pure_eq_ok_iff {a b : α} : (pure a : Except ε α) = .ok b ↔ a = b := by
  simp [pure, Except.pure]

theorem mapError_eq_ok_iff {ε' : Type} {x : Except ε α} {f : ε → ε'} {a : α} :
    x.mapError f = .ok a ↔ x = .ok a := by
  cases x <;> simp [Except.mapError]

theorem mapM_eq_ok_iff {f : α → Except ε β} {as : List α} {bs : List β} :
    as.mapM f = .ok bs ↔ List.Forall₂ (fun a b => f a = .ok b) as bs := by
  induction as generalizing bs with
  | nil =>
    rw [List.mapM_nil, List.forall₂_nil_left_iff, pure_eq_ok_iff]
    exact eq_comm
  | cons a as ih =>
    rw [List.mapM_cons, bind_eq_ok_iff, List.forall₂_cons_left_iff]
    simp only [bind_eq_ok_iff, pure_eq_ok_iff, ih]
    constructor
    · rintro ⟨b, hhead, rest, htail, rfl⟩
      exact ⟨b, rest, hhead, htail, rfl⟩
    · rintro ⟨b, rest, hhead, htail, rfl⟩
      exact ⟨b, hhead, rest, htail, rfl⟩

theorem mem_of_mapM_eq_ok {f : α → Except ε β} {as : List α} {bs : List β}
    (h : as.mapM f = .ok bs) {b : β} : b ∈ bs ↔ ∃ a ∈ as, f a = .ok b := by
  induction mapM_eq_ok_iff.1 h with
  | nil => simp
  | cons hhead htail ih =>
    rw [List.mem_cons, ih (mapM_eq_ok_iff.2 htail), List.exists_mem_cons_iff, hhead,
      Except.ok.injEq, eq_comm]

theorem exists_of_mapM_eq_ok {f : α → Except ε β} {as : List α} {bs : List β}
    (h : as.mapM f = .ok bs) {a : α} (ha : a ∈ as) : ∃ b, f a = .ok b := by
  induction mapM_eq_ok_iff.1 h with
  | nil => cases ha
  | cons hhead htail ih =>
    rcases List.mem_cons.1 ha with rfl | ha
    · exact ⟨_, hhead⟩
    · exact ih (mapM_eq_ok_iff.2 htail) ha

/-- A run over a list gives a list whenever it gives something at every element. -/
theorem exists_mapM_eq_ok {f : α → Except ε β} {as : List α} (h : ∀ a ∈ as, ∃ b, f a = .ok b) :
    ∃ bs, as.mapM f = .ok bs := by
  induction as with
  | nil => exact ⟨[], rfl⟩
  | cons a as ih =>
    obtain ⟨hhead, htail⟩ := List.forall_mem_cons.1 h
    obtain ⟨b, hb⟩ := hhead
    obtain ⟨bs, hbs⟩ := ih htail
    exact ⟨b :: bs, mapM_eq_ok_iff.2 (.cons hb (mapM_eq_ok_iff.1 hbs))⟩

theorem mapM_concat_eq_ok_iff {f : α → Except ε β} {as : List α} {a : α} {bs : List β} :
    (as ++ [a]).mapM f = .ok bs ↔
      ∃ init, as.mapM f = .ok init ∧ ∃ b, f a = .ok b ∧ init ++ [b] = bs := by
  rw [List.mapM_append]
  simp only [bind_eq_ok_iff, List.mapM_cons, List.mapM_nil, pure_eq_ok_iff]
  constructor
  · rintro ⟨init, hinit, _, ⟨b, hb, _, rfl, rfl⟩, rfl⟩
    exact ⟨init, hinit, b, hb, rfl⟩
  · rintro ⟨init, hinit, b, hb, rfl⟩
    exact ⟨init, hinit, [b], ⟨b, hb, [], rfl, rfl⟩, rfl⟩

theorem foldlM_concat_eq_ok_iff {f : β → α → Except ε β} {b c : β} {as : List α} {a : α} :
    (as ++ [a]).foldlM f b = .ok c ↔ ∃ m, as.foldlM f b = .ok m ∧ f m a = .ok c := by
  rw [List.foldlM_append, bind_eq_ok_iff]
  simp only [List.foldlM_cons, List.foldlM_nil, bind_pure]

/-- A pass whose steps all go on under a condition, or else stop in one way. -/
theorem foldlM_of_guarded {f : β → α → Except ε β} {g : β → α → β} {p : α → Prop} [DecidablePred p]
    {e : ε} (hf : ∀ b a, f b a = if p a then .ok (g b a) else .error e) (as : List α) (b : β) :
    as.foldlM f b = if ∀ a ∈ as, p a then .ok (as.foldl g b) else .error e := by
  induction as generalizing b with
  | nil => simp [pure, Except.pure]
  | cons a as ih =>
    rw [List.foldlM_cons, hf]
    by_cases ha : p a
    · rw [if_pos ha]
      simp only [List.forall_mem_cons, ha, true_and]
      exact ih (g b a)
    · rw [if_neg ha, if_neg fun hall => ha (hall a List.mem_cons_self)]
      rfl

theorem exists_error_iff {x : Except ε α} : (∃ e, x = .error e) ↔ ¬ ∃ a, x = .ok a := by
  cases x <;> simp

/-- A success that is seen through a view. -/
theorem exists_ok_of_toOption_map {x : Except ε α} {f : α → β} {b : β}
    (h : (x.map f).toOption = some b) : ∃ a, x = .ok a ∧ f a = b := by
  cases x with
  | error e => cases h
  | ok a => exact ⟨a, rfl, Option.some.inj h⟩

theorem exists_ok_of_isSome {x : Except ε α} (h : x.toOption.isSome = true) : ∃ a, x = .ok a := by
  cases x with
  | error e => cases h
  | ok a => exact ⟨a, rfl⟩

/-- A calculation that fails in some ways only. -/
def FailsOnly (p : ε → Prop) (x : Except ε α) : Prop :=
  ∀ e, x = .error e → p e

namespace FailsOnly

variable {p : ε → Prop}

theorem ok (a : α) : FailsOnly p (.ok a : Except ε α) := by
  intro e h
  cases h

theorem error {e : ε} (he : p e) : FailsOnly p (.error e : Except ε α) := by
  rintro _ ⟨⟩
  exact he

theorem mono {q : ε → Prop} {x : Except ε α} (hx : FailsOnly p x) (hpq : ∀ e, p e → q e) :
    FailsOnly q x := by
  intro e h
  exact hpq e (hx e h)

theorem bind {x : Except ε α} {f : α → Except ε β} (hx : FailsOnly p x)
    (hf : ∀ a, FailsOnly p (f a)) : FailsOnly p (x >>= f) := by
  cases x with
  | error e =>
    change FailsOnly p (.error e : Except ε β)
    exact error (hx e rfl)
  | ok a => exact hf a

theorem mapError {ε' : Type} {x : Except ε' α} {f : ε' → ε} (hf : ∀ e, p (f e)) :
    FailsOnly p (x.mapError f) := by
  cases x with
  | error e => exact error (hf e)
  | ok a => exact ok a

theorem of_bind {x : Except ε α} {f : α → Except ε β} (h : FailsOnly p (x >>= f)) :
    FailsOnly p x := by
  cases x with
  | error e => exact error (h e rfl)
  | ok a => exact ok a

theorem mapM {f : α → Except ε β} (hf : ∀ a, FailsOnly p (f a)) (as : List α) :
    FailsOnly p (as.mapM f) := by
  induction as with
  | nil => exact ok []
  | cons a as ih =>
    rw [List.mapM_cons]
    exact (hf a).bind fun b => ih.bind fun bs => ok (b :: bs)

theorem foldlM_of_mem {f : β → α → Except ε β} {as : List α}
    (hf : ∀ a ∈ as, ∀ b, FailsOnly p (f b a)) (b : β) : FailsOnly p (as.foldlM f b) := by
  induction as generalizing b with
  | nil => exact ok b
  | cons a as ih =>
    rw [List.foldlM_cons]
    exact (hf a List.mem_cons_self b).bind (ih fun c hc => hf c (List.mem_cons_of_mem _ hc))

theorem foldlM {f : β → α → Except ε β} (hf : ∀ b a, FailsOnly p (f b a)) (as : List α) (b : β) :
    FailsOnly p (as.foldlM f b) :=
  foldlM_of_mem (fun a _ b => hf b a) b

end FailsOnly

end IssueGateway
