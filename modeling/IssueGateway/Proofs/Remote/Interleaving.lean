import IssueGateway.Proofs.Remote.Call
import IssueGateway.Remote.Interleaving
import Mathlib.Data.List.Basic

/-!
# What a call does among others

A call cannot tell whether it has company: its own moves in any history are those of a run on its
own against the replies that it was given. `PoolRun.errand_run` cuts a history down to one call, and
`Errand.Moves.resume_eq` reads such a stretch as a run. In the other direction a run alone, against
any server, is a stretch of moves (`Call.moves_of_run`), so running calls one after the other is one
of the ways in which they can go on together.
-/

namespace IssueGateway.Remote

variable {α β σ : Type}

theorem movesOf_cons_self (i : Nat) (m : Move) (history : History) :
    movesOf i ((i, m) :: history) = m :: movesOf i history := by
  simp [movesOf]

theorem movesOf_cons_of_ne {i j : Nat} (hne : j ≠ i) (m : Move) (history : History) :
    movesOf i ((j, m) :: history) = movesOf i history := by
  simp [movesOf, hne]

/-- In two lists that are related member by member, members at one place can be replaced. -/
theorem exists_related {R : α → β → Prop} {as : List α} {bs : List β} (h : List.Forall₂ R as bs)
    {i : Nat} {a : α} (here : as[i]? = some a) :
    ∃ b, bs[i]? = some b ∧ R a b ∧
      ∀ a' b', R a' b' → List.Forall₂ R (as.set i a') (bs.set i b') := by
  induction h generalizing i with
  | nil => cases here
  | @cons first second as bs hfirst hrest ih =>
    cases i with
    | zero =>
      obtain rfl : first = a := Option.some.inj here
      exact ⟨second, rfl, hfirst, fun a' b' hnew => .cons hnew hrest⟩
    | succ i =>
      obtain ⟨b, hb, hrelated, hset⟩ := ih here
      exact ⟨b, hb, hrelated, fun a' b' hnew => .cons hfirst (hset a' b' hnew)⟩

/-- The moves that bring a call from one place to another. -/
inductive Errand.Moves : Errand α → List Move → Errand α → Prop where
  | nil (errand : Errand α) : Moves errand [] errand
  | cons {first middle last : Errand α} {m : Move} {moves : List Move} (step : first.Step m middle)
    (rest : Moves middle moves last) : Moves first (m :: moves) last

/-- A history cut down to one call is a way of that call. -/
theorem PoolRun.errand_run {pool last : List (Errand α)} {history : History}
    (hrun : PoolRun pool history last) :
    pool.length = last.length ∧ ∀ (i : Nat) (errand : Errand α), pool[i]? = some errand →
      ∃ errand', last[i]? = some errand' ∧ errand.Moves (movesOf i history) errand' := by
  induction hrun with
  | nil pool => exact ⟨rfl, fun i errand herrand => ⟨errand, herrand, .nil errand⟩⟩
  | @cons pool middle last moved history step rest ih =>
    cases step with
    | @move j errand next m here step =>
      obtain ⟨hlength, hrest⟩ := ih
      refine ⟨by rw [← hlength, List.length_set], ?_⟩
      intro i other hother
      by_cases hij : j = i
      · subst hij
        obtain rfl : errand = other := Option.some.inj (here.symm.trans hother)
        have hmoved : (pool.set j next)[j]? = some next := by
          rw [List.getElem?_set_self', here]
          rfl
        obtain ⟨errand', hlast, hmoves⟩ := hrest j next hmoved
        exact ⟨errand', hlast, movesOf_cons_self j m history ▸ .cons step hmoves⟩
      · have hkept : (pool.set j next)[i]? = some other := by
          rw [List.getElem?_set_ne hij, hother]
        obtain ⟨errand', hlast, hmoves⟩ := hrest i other hkept
        exact ⟨errand', hlast, movesOf_cons_of_ne hij m history ▸ hmoves⟩

theorem queueServer_apply (replies : List Reply) (request : Request) :
    queueServer replies request = (upcoming replies, replies.tail) := rfl

/-- What is still to come of an errand that is alone with the replies of a list. -/
def Errand.resume : Errand α → List Reply → Run α (List Reply)
  | .ready call, replies => call.run queueServer replies
  | .awaiting next, replies => (next (upcoming replies)).run queueServer replies.tail
  | .asleep next, replies => next.run queueServer replies

/-- A way to a result is a run alone on the replies that came in on that way. -/
theorem Errand.Moves.resume_eq {errand last : Errand α} {moves : List Move}
    {result : Except Failure α} (hmoves : errand.Moves moves last)
    (hlast : last = .ready (.done result)) :
    errand.resume (delivered moves) = ⟨result, seen moves, []⟩ := by
  induction hmoves with
  | nil errand =>
    subst hlast
    rfl
  | @cons first middle last m moves step rest ih =>
    have hrest := ih hlast
    cases step with
    | send request next =>
      change (next (upcoming (delivered moves))).run queueServer (delivered moves).tail = _ at hrest
      change (Call.send request next).run queueServer (delivered moves) = _
      rw [Call.run_send, queueServer_apply, hrest]
      rfl
    | receive next reply => exact hrest
    | sleep delay next =>
      change next.run queueServer (delivered moves) = _ at hrest
      change (Call.sleep delay next).run queueServer (delivered moves) = _
      rw [Call.run_sleep, hrest]
      rfl
    | wake next => exact hrest

/-- A call that came to its result among others gave what it gives alone. -/
theorem PoolRun.run_alone {pool last : List (Errand α)} {history : History}
    (hrun : PoolRun pool history last) (hdone : ∀ errand ∈ last, errand.IsDone) {i : Nat}
    {call : Call α} (hcall : pool[i]? = some (.ready call)) :
    ∃ result, last[i]? = some (.ready (.done result)) ∧
      call.run queueServer (delivered (movesOf i history)) =
        ⟨result, seen (movesOf i history), []⟩ := by
  obtain ⟨errand, herrand, hmoves⟩ := hrun.errand_run.2 i _ hcall
  obtain ⟨result, hresult⟩ := hdone errand (List.mem_of_getElem? herrand)
  exact ⟨result, hresult ▸ herrand, hmoves.resume_eq hresult⟩

/-! ### Running calls one after the other -/

/-- A run against any server is a way to its result. -/
theorem Call.moves_of_run (server : Server σ) (call : Call α) (s : σ) :
    ∃ moves, (Errand.ready call).Moves moves (.ready (.done (call.run server s).result)) ∧
      seen moves = (call.run server s).events := by
  induction call generalizing s with
  | done result => exact ⟨[], .nil _, rfl⟩
  | send request next ih =>
    obtain ⟨moves, hmoves, hseen⟩ := ih (server s request).1 (server s request).2
    refine ⟨.send request :: .receive (server s request).1 :: moves, ?_, ?_⟩
    · exact .cons (.send request next) (.cons (.receive next _) hmoves)
    · rw [Call.run_send, ← hseen]
      rfl
  | sleep delay next ih =>
    obtain ⟨moves, hmoves, hseen⟩ := ih s
    refine ⟨.sleep delay :: .wake :: moves, ?_, ?_⟩
    · exact .cons (.sleep delay next) (.cons (.wake next) hmoves)
    · rw [Call.run_sleep, ← hseen]
      rfl

theorem PoolRun.trans {first middle last : List (Errand α)} {history later : History}
    (hrun : PoolRun first history middle) (hlater : PoolRun middle later last) :
    PoolRun first (history ++ later) last := by
  induction hrun with
  | nil pool => exact hlater
  | cons step rest ih => exact .cons step (ih hlater)

/-- A way of one call, with the others standing still. -/
theorem Errand.Moves.poolRun {errand last : Errand α} {moves : List Move}
    (hmoves : errand.Moves moves last) (before after : List (Errand α)) :
    PoolRun (before ++ errand :: after) (moves.map fun m => (before.length, m))
      (before ++ last :: after) := by
  induction hmoves with
  | nil errand => exact .nil _
  | @cons first middle last m moves step rest ih =>
    have here : (before ++ first :: after)[before.length]? = some first := by simp
    have hstep := PoolStep.move here step
    rw [List.set_append_right _ _ (Nat.le_refl _), Nat.sub_self, List.set_cons_zero] at hstep
    exact .cons hstep ih

end IssueGateway.Remote
