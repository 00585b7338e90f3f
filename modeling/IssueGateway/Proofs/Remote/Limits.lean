import IssueGateway.Proofs.Remote.Call
import IssueGateway.Proofs.Remote.Interleaving
import IssueGateway.Proofs.Remote.Outcome
import IssueGateway.Proofs.Results
import Mathlib.Algebra.GroupWithZero.Nat

/-!
# The limits of a call

What a call sends, how often and how it fails can be told from the call alone, for all replies at
once (`Call.Within`). Limits are kept by every way of putting calls together, and they hold for a
run against any server (`Call.Within.run`) and for calls side by side, in whatever order they move
and whatever they are replied (`PoolRun.within`).
-/

namespace IssueGateway.Remote

variable {α β σ : Type} {sends : Request → Prop} {fails : Failure → Prop}

/-- If the reply is that the exchange itself broke, it did so in a certain way. -/
def Reply.BreaksOnly (fails : Failure → Prop) (reply : Reply) : Prop :=
  ∀ cause, reply = .fault cause → fails cause

/-- A call that sends at most so many requests, all of one kind, and fails in certain ways only as
long as the exchanges do not break in others. -/
inductive Call.Within (sends : Request → Prop) (fails : Failure → Prop) : Nat → Call α → Prop where
  | done {n : Nat} {result : Except Failure α} (hresult : FailsOnly fails result) :
    Within sends fails n (.done result)
  | send {n : Nat} {request : Request} {next : Reply → Call α} (hrequest : sends request)
    (hnext : ∀ reply, reply.BreaksOnly fails → Within sends fails n (next reply)) :
    Within sends fails (n + 1) (.send request next)
  | sleep {n : Nat} {delay : Number} {next : Call α} (hnext : Within sends fails n next) :
    Within sends fails n (.sleep delay next)

namespace Call

variable {m n : Nat}

theorem within_pure (a : α) : (pure a : Call α).Within sends fails n := .done (.ok a)

theorem Within.mono {call : Call α} (h : call.Within sends fails m) (hmn : m ≤ n) :
    call.Within sends fails n := by
  induction h generalizing n with
  | done hresult => exact .done hresult
  | send hrequest _ ih =>
    obtain ⟨k, rfl⟩ := Nat.exists_eq_add_of_le' (Nat.one_le_of_lt hmn)
    exact .send hrequest fun reply hreply => ih reply hreply (Nat.le_of_succ_le_succ hmn)
  | sleep _ ih => exact .sleep (ih hmn)

theorem Within.bind {call : Call α} {f : α → Call β} (h : call.Within sends fails m)
    (hf : ∀ a, (f a).Within sends fails n) : (call >>= f).Within sends fails (m + n) := by
  change (call.bind f).Within sends fails (m + n)
  induction h with
  | @done k result hresult =>
    cases result with
    | ok a => exact (hf a).mono (Nat.le_add_left n k)
    | error failure => exact .done (.error (hresult failure rfl))
  | send hrequest _ ih =>
    rw [Call.bind, Nat.add_right_comm]
    exact .send hrequest ih
  | sleep _ ih => exact .sleep ih

/-- What sends nothing behind a call leaves the number of its requests. -/
theorem Within.bind_silent {call : Call α} {f : α → Call β} (h : call.Within sends fails n)
    (hf : ∀ a, (f a).Within sends fails 0) : (call >>= f).Within sends fails n := by
  have hbind := h.bind hf
  rwa [Nat.add_zero] at hbind

theorem Within.map {call : Call α} (h : call.Within sends fails n) (f : α → β) :
    (f <$> call).Within sends fails n := by
  rw [map_eq_pure_bind]
  exact h.bind_silent fun a => within_pure (f a)

theorem within_ofExcept {x : Except Failure α} (hx : FailsOnly fails x) :
    (MonadExcept.ofExcept x : Call α).Within sends fails n := by
  cases x with
  | ok a => exact within_pure a
  | error failure => exact .done (.error (hx failure rfl))

/-- A call behind a check has to keep its limits only for what passes. -/
theorem within_ofExcept_bind {x : Except Failure α} {f : α → Call β} (hx : FailsOnly fails x)
    (hf : ∀ a, x = .ok a → (f a).Within sends fails n) :
    ((MonadExcept.ofExcept x : Call α) >>= f).Within sends fails n := by
  cases x with
  | ok a => exact hf a rfl
  | error failure => exact .done (.error (hx failure rfl))

/-- With an answer to every failure no failure is left. -/
theorem Within.tryCatch_pure {call : Call α} (h : call.Within sends (fun _ => True) n)
    (answer : Failure → α) :
    (tryCatch call fun failure => pure (answer failure)).Within sends fails n := by
  change (call.handle fun failure => pure (answer failure)).Within sends fails n
  induction h with
  | @done k result _ =>
    cases result with
    | ok a => exact within_pure a
    | error failure => exact within_pure (answer failure)
  | send hrequest _ ih => exact .send hrequest fun reply _ => ih reply fun _ _ => trivial
  | sleep _ ih => exact .sleep ih

/-- Against any server whose exchanges break in these ways only, a call keeps its limits. -/
theorem Within.run {call : Call α} (h : call.Within sends fails n) (server : Server σ)
    (hserver : ∀ s request, (server s request).1.BreaksOnly fails) (s : σ) :
    FailsOnly fails (call.run server s).result ∧
      (∀ r ∈ requests (call.run server s).events, sends r) ∧
      (requests (call.run server s).events).length ≤ n := by
  induction h generalizing s with
  | done hresult => exact ⟨hresult, fun r hr => absurd hr List.not_mem_nil, Nat.zero_le _⟩
  | @send k request next hrequest _ ih =>
    obtain ⟨hresult, hkind, hcount⟩ := ih _ (hserver s request) (server s request).2
    refine ⟨hresult, ?_, Nat.succ_le_succ hcount⟩
    intro r hr
    rcases List.mem_cons.1 hr with rfl | hr
    · exact hrequest
    · exact hkind r hr
  | sleep _ ih => exact ih s

end Call

theorem Reply.outcome_failsOnly (hremote : ∀ cause, fails (.remote cause)) {reply : Reply}
    (hreply : reply.BreaksOnly fails) (endpoint : String) :
    FailsOnly fails (reply.outcome endpoint) := by
  cases reply with
  | response r =>
    rw [outcome_response]
    cases r.outcome endpoint with
    | ok body => exact .ok body
    | error cause => exact .error (hremote cause)
  | timeout => exact .error (hremote _)
  | unreachable detail => exact .error (hremote _)
  | fault cause => exact .error (hreply cause rfl)

/-- The retry loop sends its request at most once more than its budget. -/
theorem exchange_within (hremote : ∀ cause, fails (.remote cause)) (endpoint : String)
    {request : Request} (hrequest : sends request) (delay : Number) (budget : Nat) :
    (exchange endpoint request delay budget).Within sends fails (budget + 1) := by
  induction budget with
  | zero =>
    exact .send hrequest fun reply hreply => .done (reply.outcome_failsOnly hremote hreply endpoint)
  | succ budget ih =>
    refine .send hrequest fun reply hreply => ?_
    split
    · exact .sleep ih
    · exact .done (reply.outcome_failsOnly hremote hreply endpoint)

/-! ### Calls side by side -/

/-- The limits of what is still to come of an errand. -/
def Errand.Within (sends : Request → Prop) (n : Nat) : Errand α → Prop
  | .ready call => call.Within sends (fun _ => True) n
  | .awaiting next => ∀ reply, (next reply).Within sends (fun _ => True) n
  | .asleep next => next.Within sends (fun _ => True) n

/-- A move uses up what it sends. -/
theorem Errand.Step.within {errand next : Errand α} {move : Move} {n : Nat}
    (step : errand.Step move next) (h : errand.Within sends n) :
    (∀ r ∈ requests (seen [move]), sends r) ∧
      ∃ k, next.Within sends k ∧ (requests (seen [move])).length + k ≤ n := by
  have hsilent : ∀ r ∈ ([] : List Request), sends r := fun r hr => absurd hr List.not_mem_nil
  cases step with
  | send request next =>
    cases h with
    | @send k _ _ hrequest hnext =>
      refine ⟨?_, k, fun reply => hnext reply fun _ _ => trivial, Nat.le_of_eq (Nat.add_comm 1 k)⟩
      intro r hr
      obtain rfl := List.mem_singleton.1 hr
      exact hrequest
  | receive next reply => exact ⟨hsilent, n, h reply, Nat.le_of_eq (Nat.zero_add n)⟩
  | sleep delay next =>
    cases h with
    | sleep hnext => exact ⟨hsilent, n, hnext, Nat.le_of_eq (Nat.zero_add n)⟩
  | wake next => exact ⟨hsilent, n, h, Nat.le_of_eq (Nat.zero_add n)⟩

theorem requests_seen_cons (move : Move) (moves : List Move) :
    requests (seen (move :: moves)) = requests (seen [move]) ++ requests (seen moves) := by
  cases move <;> rfl

theorem sum_set {budgets : List Nat} {i n : Nat} (here : budgets[i]? = some n) (k : Nat) :
    (budgets.set i k).sum + n = budgets.sum + k := by
  induction budgets generalizing i with
  | nil => cases here
  | cons first rest ih =>
    cases i with
    | zero =>
      obtain rfl : first = n := Option.some.inj here
      simp only [List.set_cons_zero, List.sum_cons]
      omega
    | succ i =>
      have hrest : (rest.set i k).sum + n = rest.sum + k := ih here
      simp only [List.set_cons_succ, List.sum_cons]
      omega

/-- Calls side by side keep to their limits together, in whatever order they move. -/
theorem PoolRun.within {pool last : List (Errand α)} {history : History}
    (hrun : PoolRun pool history last) {budgets : List Nat}
    (h : List.Forall₂ (Errand.Within sends) budgets pool) :
    (∀ r ∈ requests (seen (history.map Prod.snd)), sends r) ∧
      (requests (seen (history.map Prod.snd))).length ≤ budgets.sum := by
  induction hrun generalizing budgets with
  | nil pool => exact ⟨fun r hr => absurd hr List.not_mem_nil, Nat.zero_le _⟩
  | @cons pool middle last moved history step rest ih =>
    cases step with
    | @move i errand next m here step =>
      obtain ⟨n, hn, herrand, hset⟩ := exists_related h.flip here
      obtain ⟨hmove, k, hnext, hspent⟩ := step.within herrand
      have hsum : (budgets.set i k).sum + n = budgets.sum + k := sum_set hn k
      obtain ⟨hothers, hcount⟩ := ih (hset next k hnext).flip
      rw [List.map_cons, requests_seen_cons, List.length_append]
      dsimp only
      constructor
      · intro r hr
        rcases List.mem_append.1 hr with hr | hr
        · exact hmove r hr
        · exact hothers r hr
      · omega

end IssueGateway.Remote
