import IssueGateway.Proofs.Remote.Outcome
import IssueGateway.Proofs.Remote.Request
import Mathlib.Data.ENat.Lattice
import Mathlib.Data.Stream.Defs

/-!
# The retry loop

What one post does against a remote that answers with any stream of replies. The loop is counted by
`retriesUsed`, which looks at the replies only; everything else about a post (its requests, its
waits, the reply that decides it, what is left of the stream) is read off that count by one
induction on the budget. `retriesUsed_eq_min` says what the count is without a recursion, so the
main statement speaks of the budget and of the leading rate limits only.
-/

namespace IssueGateway.Remote

open Json

/-- A remote that answers with the replies of a stream, whatever it is asked. -/
def streamServer : Server (Stream' Reply) := fun replies _ => (replies.head, replies.tail)

theorem streamServer_apply (replies : Stream' Reply) (request : Request) :
    streamServer replies request = (replies.head, replies.tail) := rfl

/-- The number of rate limits with which a stream begins; endless if nothing else ever comes. -/
noncomputable def leadingRateLimits (replies : Stream' Reply) : ℕ∞ :=
  ⨅ (i : Nat) (_ : (replies.get i).isRateLimit = false), (i : ℕ∞)

/-- How many of the first replies, up to a budget, are rate limits. -/
def retriesUsed : Nat → Stream' Reply → Nat
  | 0, _ => 0
  | budget + 1, replies =>
    if replies.head.isRateLimit then retriesUsed budget replies.tail + 1 else 0

/-- A request that is sent once more than so many times, with one wait between two attempts. -/
def attempts (request : Request) (delay : Number) : Nat → List Event
  | 0 => [.sent request]
  | k + 1 => .sent request :: .slept delay :: attempts request delay k

theorem requests_attempts (request : Request) (delay : Number) (k : Nat) :
    requests (attempts request delay k) = List.replicate (k + 1) request := by
  induction k with
  | zero => rfl
  | succ k ih =>
    rw [List.replicate_succ, ← ih]
    rfl

theorem sleeps_attempts (request : Request) (delay : Number) (k : Nat) :
    sleeps (attempts request delay k) = List.replicate k delay := by
  induction k with
  | zero => rfl
  | succ k ih =>
    rw [List.replicate_succ, ← ih]
    rfl

section Count

variable (budget : Nat) (replies : Stream' Reply)

theorem retriesUsed_le : retriesUsed budget replies ≤ budget := by
  induction budget generalizing replies with
  | zero => exact Nat.le_refl 0
  | succ budget ih =>
    rw [retriesUsed]
    split
    · exact Nat.succ_le_succ (ih replies.tail)
    · exact Nat.zero_le _

/-- The replies before the deciding one are all rate limits. -/
theorem isRateLimit_of_lt_retriesUsed {i : Nat} (hi : i < retriesUsed budget replies) :
    (replies.get i).isRateLimit = true := by
  induction budget generalizing replies i with
  | zero => exact absurd hi (Nat.not_lt_zero i)
  | succ budget ih =>
    rw [retriesUsed] at hi
    split at hi
    · rename_i hhead
      cases i with
      | zero => exact hhead
      | succ i => exact ih replies.tail (Nat.lt_of_succ_lt_succ hi)
    · exact absurd hi (Nat.not_lt_zero i)

/-- Below the budget the deciding reply is no rate limit. -/
theorem isRateLimit_retriesUsed (hlt : retriesUsed budget replies < budget) :
    (replies.get (retriesUsed budget replies)).isRateLimit = false := by
  induction budget generalizing replies with
  | zero => exact absurd hlt (Nat.not_lt_zero _)
  | succ budget ih =>
    rw [retriesUsed] at hlt ⊢
    split
    · rename_i hhead
      rw [if_pos hhead] at hlt
      exact ih replies.tail (Nat.lt_of_succ_lt_succ hlt)
    · rename_i hhead
      exact Bool.eq_false_iff.2 hhead

/-- The retries used are the budget or the leading rate limits, whichever is less. -/
theorem retriesUsed_eq_min :
    (retriesUsed budget replies : ℕ∞) = min (budget : ℕ∞) (leadingRateLimits replies) := by
  apply le_antisymm
  · refine le_min (Nat.cast_le.2 (retriesUsed_le budget replies)) ?_
    refine le_iInf₂ fun i hi => Nat.cast_le.2 ?_
    by_contra hlt
    have hlimit := isRateLimit_of_lt_retriesUsed budget replies (Nat.lt_of_not_le hlt)
    rw [hi] at hlimit
    exact Bool.false_ne_true hlimit
  · rcases Nat.lt_or_ge (retriesUsed budget replies) budget with hlt | hge
    · exact min_le_of_right_le
        (iInf₂_le (retriesUsed budget replies) (isRateLimit_retriesUsed budget replies hlt))
    · exact min_le_of_left_le (Nat.cast_le.2 hge)

/-- Every reply that a full budget covers is a rate limit just when the deciding one is. -/
theorem isRateLimit_retriesUsed_iff :
    (replies.get (retriesUsed budget replies)).isRateLimit = true ↔
      ∀ i ≤ budget, (replies.get i).isRateLimit = true := by
  constructor
  · intro hlast i hi
    have hfull : retriesUsed budget replies = budget := by
      refine Nat.le_antisymm (retriesUsed_le budget replies) (Nat.le_of_not_lt fun hlt => ?_)
      rw [isRateLimit_retriesUsed budget replies hlt] at hlast
      exact Bool.false_ne_true hlast
    rcases Nat.lt_or_eq_of_le hi with hlt | heq
    · exact isRateLimit_of_lt_retriesUsed budget replies (hfull.symm ▸ hlt)
    · rwa [hfull, ← heq] at hlast
  · intro hall
    exact hall _ (retriesUsed_le budget replies)

end Count

/-- The loop as a whole: attempts as counted, then the outcome of the reply that ends them. -/
theorem exchange_run (endpoint : String) (request : Request) (delay : Number) (budget : Nat)
    (replies : Stream' Reply) :
    (exchange endpoint request delay budget).run streamServer replies =
      ⟨(replies.get (retriesUsed budget replies)).outcome endpoint,
        attempts request delay (retriesUsed budget replies),
        replies.drop (retriesUsed budget replies + 1)⟩ := by
  induction budget generalizing replies with
  | zero => rfl
  | succ budget ih =>
    rw [exchange, Call.run_send, streamServer_apply]
    by_cases hhead : replies.head.isRateLimit
    · have hused : retriesUsed (budget + 1) replies = retriesUsed budget replies.tail + 1 := by
        rw [retriesUsed, if_pos hhead]
      rw [if_pos hhead, Call.run_sleep, ih replies.tail, hused]
      rfl
    · have hused : retriesUsed (budget + 1) replies = 0 := by
        rw [retriesUsed, if_neg hhead]
      rw [if_neg hhead, Call.run_done, hused]
      rfl

/-- What the deciding reply makes of a post: a response is judged by what it says, an exchange that
broke down is a transport failure, and any other failure stays what it is. -/
def Reply.Decides (endpoint : String) (result : Except Failure Fields) : Reply → Prop
  | .response r => result = (r.outcome endpoint).mapError .remote
  | .timeout | .unreachable _ => ∃ failure, result = .error failure ∧ failure.name = .transport
  | .fault cause => result = .error cause

theorem Reply.decides_outcome (endpoint : String) (reply : Reply) :
    reply.Decides endpoint (reply.outcome endpoint) := by
  cases reply with
  | response r => rfl
  | timeout => exact ⟨_, rfl, rfl⟩
  | unreachable detail => exact ⟨_, rfl, rfl⟩
  | fault cause => rfl

/-- A run that repeats one request over `k` rate limits and ends with the reply behind them. -/
structure Retried (request : Request) (endpoint : String) (retry : RetryPolicy)
    (replies : Stream' Reply) (run : Run Fields (Stream' Reply)) (k : Nat) : Prop where
  count : (k : ℕ∞) = min (retry.retries.toNat : ℕ∞) (leadingRateLimits replies)
  /-- One wait between two attempts and none behind the last. -/
  events : run.events = attempts request retry.delay k
  requests : requests run.events = List.replicate (k + 1) request
  sleeps : sleeps run.events = List.replicate k retry.delay
  /-- Each request takes one reply and no more are looked at. -/
  state : run.state = replies.drop (k + 1)
  decided : (replies.get k).Decides endpoint run.result
  /-- Only a response with the status of rate limits is ever followed by another attempt. -/
  passed : ∀ i < k, ∃ r, replies.get i = .response r ∧ r.status = rateLimitStatus
  /-- Unless the exchange itself broke with one, a rate limit is what a spent budget ends with. -/
  exhausted : (∃ failure, run.result = .error failure ∧ failure.name = .rateLimit) ↔
    (∀ i ≤ retry.retries.toNat, ∃ r, replies.get i = .response r ∧ r.status = rateLimitStatus) ∨
      ∃ cause, replies.get k = .fault cause ∧ cause.name = .rateLimit

/-- Whatever a remote replies, a post ends: it repeats its request over the leading rate limits as
far as the budget goes, and the next reply decides it. -/
theorem postBy_retried (c : Client) (retry : RetryPolicy) (endpoint : String) (data : Fields)
    (hdata : anyFieldNonFinite data = false) (replies : Stream' Reply) :
    ∃ k, Retried (c.request endpoint data) endpoint retry replies
      ((c.postBy retry endpoint data).run streamServer replies) k := by
  rw [c.postBy_eq_exchange retry endpoint hdata, exchange_run]
  refine ⟨retriesUsed retry.retries.toNat replies, ?_⟩
  constructor
  · exact retriesUsed_eq_min retry.retries.toNat replies
  · rfl
  · exact requests_attempts ..
  · exact sleeps_attempts ..
  · rfl
  · exact (replies.get _).decides_outcome endpoint
  · intro i hi
    exact (Reply.isRateLimit_iff _).1 (isRateLimit_of_lt_retriesUsed _ replies hi)
  · rw [Reply.fails_as_rateLimit_iff, isRateLimit_retriesUsed_iff]
    simp only [Reply.isRateLimit_iff]

/-- Two rate limits, then a body that reports one: a budget of five pays for two repetitions. -/
theorem postBy_retried_over_two :
    let c : Client := { base := {}, apiKey := "key" }
    let data : Fields := [("PageSize", .int 1)]
    let limited : Reply := .response { status := 429 }
    let replies : Stream' Reply := Stream'.cons limited (Stream'.cons limited
      (Stream'.const (.response { body := "\x7b\"StatusCode\":429\x7d".toUTF8.toList })))
    anyFieldNonFinite data = false ∧ ∃ k, Retried (c.request "/a" data) "/a" { retries := 5 } replies
      ((c.postBy { retries := 5 } "/a" data).run streamServer replies) k := by
  intro c data limited replies
  refine ⟨by decide, ?_⟩
  exact postBy_retried c { retries := 5 } "/a" data (by decide) replies

end IssueGateway.Remote
