import IssueGateway.Proofs.Remote.Interleaving
import IssueGateway.Remote.Client

/-!
# Calls that differ only in what they send

Two calls are alike if they go the same way whatever they are replied: the same waits, the same
result, and requests that are related one by one (`Call.Alike`). This is kept by every way of
putting calls together. A server that does not tell related requests apart cannot tell the runs of
such calls apart (`Call.Alike.run`), and whatever the one does among others the other can do as well
(`PoolRun.alike`).
-/

namespace IssueGateway.Remote

variable {α β σ : Type} {R : Request → Request → Prop}

inductive Call.Alike (R : Request → Request → Prop) : Call α → Call α → Prop where
  | done (result : Except Failure α) : Alike R (.done result) (.done result)
  | send {first second : Request} {next next' : Reply → Call α} (hrequest : R first second)
    (hnext : ∀ reply, Alike R (next reply) (next' reply)) :
    Alike R (.send first next) (.send second next')
  | sleep {next next' : Call α} (delay : Number) (hnext : Alike R next next') :
    Alike R (.sleep delay next) (.sleep delay next')

inductive Event.Alike (R : Request → Request → Prop) : Event → Event → Prop where
  | sent {first second : Request} (hrequest : R first second) :
    Alike R (.sent first) (.sent second)
  | slept (delay : Number) : Alike R (.slept delay) (.slept delay)

/-- Runs with the same result that leave the same state behind, event by event alike. -/
structure Run.Alike (R : Request → Request → Prop) (first second : Run α σ) : Prop where
  result : first.result = second.result
  events : List.Forall₂ (Event.Alike R) first.events second.events
  state : first.state = second.state

/-- A server that gives related requests the same replies. -/
def Server.IsBlind (R : Request → Request → Prop) (server : Server σ) : Prop :=
  ∀ s first second, R first second → server s first = server s second

namespace Call

theorem alike_pure (a : α) : (pure a : Call α).Alike R (pure a) := .done (.ok a)

theorem Alike.bind {call call' : Call α} {f f' : α → Call β} (h : call.Alike R call')
    (hf : ∀ a, (f a).Alike R (f' a)) : (call >>= f).Alike R (call' >>= f') := by
  change (call.bind f).Alike R (call'.bind f')
  induction h with
  | done result =>
    cases result with
    | ok a => exact hf a
    | error failure => exact .done (.error failure)
  | send hrequest _ ih => exact .send hrequest ih
  | sleep delay _ ih => exact .sleep delay ih

theorem Alike.map {call call' : Call α} (h : call.Alike R call') (f : α → β) :
    (f <$> call).Alike R (f <$> call') := by
  rw [map_eq_pure_bind, map_eq_pure_bind]
  exact h.bind fun a => alike_pure (f a)

theorem alike_ofExcept (x : Except Failure α) :
    (MonadExcept.ofExcept x : Call α).Alike R (MonadExcept.ofExcept x) := by
  cases x with
  | ok a => exact .done (.ok a)
  | error failure => exact .done (.error failure)

theorem Alike.tryCatch {call call' : Call α} (h : call.Alike R call') {f : Failure → Call α}
    (hf : ∀ failure, (f failure).Alike R (f failure)) :
    (tryCatch call f).Alike R (MonadExcept.tryCatch call' f) := by
  change (call.handle f).Alike R (call'.handle f)
  induction h with
  | done result =>
    cases result with
    | ok a => exact .done (.ok a)
    | error failure => exact hf failure
  | send hrequest _ ih => exact .send hrequest ih
  | sleep delay _ ih => exact .sleep delay ih

/-- A server that does not tell their requests apart does not tell the calls apart. -/
theorem Alike.run {call call' : Call α} (h : call.Alike R call') {server : Server σ}
    (hserver : server.IsBlind R) (s : σ) :
    Run.Alike R (call.run server s) (call'.run server s) := by
  induction h generalizing s with
  | done result => exact ⟨rfl, .nil, rfl⟩
  | @send first second next next' hrequest _ ih =>
    rw [run_send, run_send, ← hserver s first second hrequest]
    obtain ⟨hresult, hevents, hstate⟩ := ih (server s first).1 (server s first).2
    exact ⟨hresult, .cons (.sent hrequest) hevents, hstate⟩
  | sleep delay _ ih =>
    obtain ⟨hresult, hevents, hstate⟩ := ih s
    exact ⟨hresult, .cons (.slept delay) hevents, hstate⟩

end Call

theorem exchange_alike (endpoint : String) {first second : Request} (hrequest : R first second)
    (delay : Number) (budget : Nat) :
    (exchange endpoint first delay budget).Alike R (exchange endpoint second delay budget) := by
  induction budget with
  | zero => exact .send hrequest fun reply => .done (reply.outcome endpoint)
  | succ budget ih =>
    refine .send hrequest fun reply => ?_
    split
    · exact .sleep delay ih
    · exact .done (reply.outcome endpoint)

/-! ### Calls side by side -/

inductive Errand.Alike (R : Request → Request → Prop) : Errand α → Errand α → Prop where
  | ready {call call' : Call α} (hcall : call.Alike R call') : Alike R (.ready call) (.ready call')
  | awaiting {next next' : Reply → Call α} (hnext : ∀ reply, (next reply).Alike R (next' reply)) :
    Alike R (.awaiting next) (.awaiting next')
  | asleep {next next' : Call α} (hnext : next.Alike R next') :
    Alike R (.asleep next) (.asleep next')

inductive Move.Alike (R : Request → Request → Prop) : Move → Move → Prop where
  | send {first second : Request} (hrequest : R first second) : Alike R (.send first) (.send second)
  | receive (reply : Reply) : Alike R (.receive reply) (.receive reply)
  | sleep (delay : Number) : Alike R (.sleep delay) (.sleep delay)
  | wake : Alike R .wake .wake

/-- Histories in which the same calls make like moves in the same order. -/
def History.Alike (R : Request → Request → Prop) (history history' : History) : Prop :=
  List.Forall₂ (fun moved moved' => moved.1 = moved'.1 ∧ moved.2.Alike R moved'.2) history history'

theorem Errand.Step.alike {errand errand' next : Errand α} {m : Move} (step : errand.Step m next)
    (h : errand.Alike R errand') :
    ∃ m' next', errand'.Step m' next' ∧ m.Alike R m' ∧ next.Alike R next' := by
  cases step with
  | send request next =>
    cases h with
    | ready hcall =>
      cases hcall with
      | send hrequest hnext => exact ⟨_, _, .send _ _, .send hrequest, .awaiting hnext⟩
  | receive next reply =>
    cases h with
    | awaiting hnext => exact ⟨_, _, .receive _ reply, .receive reply, .ready (hnext reply)⟩
  | sleep delay next =>
    cases h with
    | ready hcall =>
      cases hcall with
      | sleep _ hnext => exact ⟨_, _, .sleep delay _, .sleep delay, .asleep hnext⟩
  | wake next =>
    cases h with
    | asleep hnext => exact ⟨_, _, .wake _, .wake, .ready hnext⟩

/-- What some calls do side by side, calls that are like them can do. -/
theorem PoolRun.alike {pool pool' last : List (Errand α)} {history : History}
    (hrun : PoolRun pool history last) (h : List.Forall₂ (Errand.Alike R) pool pool') :
    ∃ history' last', PoolRun pool' history' last' ∧ history.Alike R history' ∧
      List.Forall₂ (Errand.Alike R) last last' := by
  induction hrun generalizing pool' with
  | nil pool => exact ⟨[], pool', .nil pool', .nil, h⟩
  | @cons pool middle last moved history step rest ih =>
    cases step with
    | @move i errand next m here step =>
      obtain ⟨errand', here', herrand, hset⟩ := exists_related h here
      obtain ⟨m', next', hstep', hmove, hnext⟩ := step.alike herrand
      obtain ⟨history', last', hrest', hhistory, hlast⟩ := ih (hset next next' hnext)
      exact ⟨(i, m') :: history', last', .cons (.move here' hstep') hrest',
        .cons ⟨rfl, hmove⟩ hhistory, hlast⟩

end IssueGateway.Remote
