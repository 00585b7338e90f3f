import IssueGateway.Proofs.Remote.Judgement

/-!
# What replies amount to

A reply is told to be a rate limit by the status of its response only; what its body reports never
makes one.
-/

namespace IssueGateway.Remote

/-- Just the responses with the status of rate limits fail as rate limits. -/
theorem Response.fails_as_rateLimit_iff (endpoint : String) (r : Response) :
    (∃ cause, r.outcome endpoint = .error cause ∧ cause.name = .rateLimit) ↔
      r.status = rateLimitStatus := by
  rcases r.accepts_or_refusedAs endpoint with ⟨body, haccepts⟩ | ⟨cause, hcause, hrefused⟩
  · rw [haccepts.outcome_eq endpoint]
    exact iff_of_false nofun (status_ne_rateLimit haccepts.status_lt)
  · simp [hcause, hrefused.name_eq, rateLimitStatus]

namespace Reply

theorem outcome_response (endpoint : String) (r : Response) :
    (Reply.response r).outcome endpoint = match r.outcome endpoint with
      | .ok body => .ok body
      | .error cause => .error (.remote cause) := by
  rw [outcome]
  cases r.outcome endpoint <;> rfl

theorem isRateLimit_iff (reply : Reply) :
    reply.isRateLimit = true ↔ ∃ r, reply = .response r ∧ r.status = rateLimitStatus := by
  cases reply <;> simp [isRateLimit]

/-- A reply fails as a rate limit if it is one, or if what broke the exchange was one. -/
theorem fails_as_rateLimit_iff (endpoint : String) (reply : Reply) :
    (∃ failure, reply.outcome endpoint = .error failure ∧ failure.name = .rateLimit) ↔
      reply.isRateLimit = true ∨ ∃ cause, reply = .fault cause ∧ cause.name = .rateLimit := by
  cases reply with
  | response r =>
    simp only [isRateLimit, beq_iff_eq, reduceCtorEq, false_and, exists_false, or_false]
    rw [← r.fails_as_rateLimit_iff endpoint]
    cases houtcome : r.outcome endpoint <;> simp [outcome_response, houtcome, Failure.name]
  | timeout => simp [outcome, isRateLimit, Failure.name, RemoteFailure.name]
  | unreachable detail => simp [outcome, isRateLimit, Failure.name, RemoteFailure.name]
  | fault cause => simp [outcome, isRateLimit]

end Reply

end IssueGateway.Remote
