import IssueGateway.Proofs.Remote.Limits

/-!
# Failures that operations announce

An operation announces that an issue does not exist and that the exchange with the remote failed.
Whatever comes back from the remote, as long as it is a reply or the lack of one, an exchange can
only fail in these ways. What a calculation slips on, a value of the wrong kind, a number without a
double or an integer without a text, is nothing that an operation announces.
-/

namespace IssueGateway

open Json

/-- The failures that operations announce. -/
def Failure.IsAnnounced (failure : Failure) : Prop :=
  failure.name ∈ [.notFound, .transport, .remoteApi, .rateLimit]

instance (failure : Failure) : Decidable failure.IsAnnounced :=
  inferInstanceAs (Decidable (_ ∈ _))

/-- The failures of calculations: a value of the wrong kind, or a number out of range. -/
def Failure.IsSlip (failure : Failure) : Prop :=
  failure.name ∈ [.attribute, .type, .value, .overflow]

theorem Failure.IsSlip.not_isAnnounced {failure : Failure} (h : failure.IsSlip) :
    ¬ failure.IsAnnounced := by
  intro hannounced
  simp only [IsSlip, IsAnnounced, List.mem_cons, List.not_mem_nil, or_false] at h hannounced
  rcases h with h | h | h | h <;> simp [h] at hannounced

theorem Failure.IsSlip.name_ne_validation {failure : Failure} (h : failure.IsSlip) :
    failure.name ≠ .validation := by
  intro hname
  simp [IsSlip, hname] at h

theorem RemoteFailure.name_mem (cause : RemoteFailure) :
    cause.name ∈ [.transport, .remoteApi, .rateLimit] := by
  have hrefused (status : Nat) :
      (if status = rateLimitStatus then FailureName.rateLimit else .remoteApi) ∈
        [.transport, .remoteApi, .rateLimit] := by
    split <;> decide
  cases cause with
  | refused status message => exact hrefused status
  | refusedBare status => exact hrefused status
  | _ => simp [name]

/-- A calculation that only slips. -/
abbrev Slips {α : Type} (x : Except Failure α) : Prop :=
  FailsOnly Failure.IsSlip x

namespace Remote

/-- A reply that is a response, or tells that the request went out and there is none. -/
def Reply.IsPlain : Reply → Prop
  | .fault _ => False
  | _ => True

theorem RemoteFailure.isAnnounced (cause : RemoteFailure) : (Failure.remote cause).IsAnnounced :=
  List.mem_cons_of_mem _ cause.name_mem

theorem Reply.IsPlain.breaksOnly {reply : Reply} (hplain : reply.IsPlain) (fails : Failure → Prop) :
    reply.BreaksOnly fails := by
  rintro cause rfl
  exact hplain.elim

section Server

variable {σ : Type} {server : Server σ} (hplain : ∀ s request, (server s request).1.IsPlain)

include hplain

theorem exchange_failsOnly_announced (endpoint : String) (request : Request) (delay : Number)
    (budget : Nat) (s : σ) :
    FailsOnly Failure.IsAnnounced
      ((exchange endpoint request delay budget).run server s).result := by
  have hwithin : (exchange endpoint request delay budget).Within (fun _ => True) Failure.IsAnnounced
      (budget + 1) := exchange_within RemoteFailure.isAnnounced endpoint trivial delay budget
  exact (hwithin.run server (fun s request => (hplain s request).breaksOnly _) s).1

end Server

end Remote

end IssueGateway
