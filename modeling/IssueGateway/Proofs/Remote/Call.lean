import IssueGateway.Remote.Call

/-!
# Calls that only reshape a result

Most calls are one exchange with something pure behind it. Such a call does what the exchange does
and leaves the server as the exchange does; only the result differs. The lemmas here say so for each
way of putting a pure step behind a call, so that nothing later opens a call to see what it sends.
-/

namespace IssueGateway.Remote

variable {α β σ : Type}

/-- A run with another result. -/
def Run.mapResult (run : Run α σ) (f : Except Failure α → Except Failure β) : Run β σ :=
  ⟨f run.result, run.events, run.state⟩

@[simp] theorem Run.mapResult_result (run : Run α σ) (f : Except Failure α → Except Failure β) :
    (run.mapResult f).result = f run.result := rfl

@[simp] theorem Run.mapResult_events (run : Run α σ) (f : Except Failure α → Except Failure β) :
    (run.mapResult f).events = run.events := rfl

namespace Call

theorem bind_pure_self (call : Call α) : call >>= pure = call := by
  change call.bind pure = call
  induction call with
  | done result => cases result <;> rfl
  | send request next ih =>
    rw [Call.bind]
    congr 1
    funext reply
    exact ih reply
  | sleep delay next ih => rw [Call.bind, ih]

theorem bind_bind {γ : Type} (call : Call α) (f : α → Call β) (g : β → Call γ) :
    call >>= f >>= g = call >>= fun a => f a >>= g := by
  change (call.bind f).bind g = call.bind fun a => (f a).bind g
  induction call with
  | done result => cases result <;> rfl
  | send request next ih =>
    simp only [Call.bind]
    congr 1
    funext reply
    exact ih reply
  | sleep delay next ih => simp only [Call.bind, ih]

instance : LawfulMonad Call :=
  LawfulMonad.mk' Call (fun call => bind_pure_self call) (fun _ _ => rfl) bind_bind

variable (server : Server σ)

theorem run_ofExcept (result : Except Failure α) (s : σ) :
    (MonadExcept.ofExcept result : Call α).run server s = ⟨result, [], s⟩ := by
  cases result <;> rfl

/-- A call that starts with a check runs only if the check passes. -/
theorem run_ofExcept_bind (check : Except Failure α) (f : α → Call β) (s : σ) :
    ((MonadExcept.ofExcept check : Call α) >>= f).run server s =
      match check with
      | .ok a => (f a).run server s
      | .error failure => ⟨.error failure, [], s⟩ := by
  cases check <;> rfl

theorem run_bind_pure (call : Call α) (f : α → Except Failure β) (g : α → Call β)
    (hpure : ∀ a s, (g a).run server s = ⟨f a, [], s⟩) (s : σ) :
    (call >>= g).run server s = (call.run server s).mapResult (·.bind f) := by
  rw [show (call >>= g) = call.bind g from rfl, run_bind, Run.andThen]
  cases hresult : (call.run server s).result with
  | ok a => simp [Run.mapResult, hresult, hpure, Except.bind]
  | error failure => simp [Run.mapResult, hresult, Except.bind]

theorem run_bind_return (call : Call α) (f : α → β) (s : σ) :
    (call >>= fun a => pure (f a)).run server s = (call.run server s).mapResult (·.map f) := by
  rw [run_bind_pure server call (fun a => .ok (f a)) _ fun a s => rfl]
  cases hresult : (call.run server s).result <;>
    simp [Run.mapResult, hresult, Except.bind, Except.map]

theorem run_map (f : α → β) (call : Call α) (s : σ) :
    (f <$> call).run server s = (call.run server s).mapResult (·.map f) :=
  run_bind_return server call f s

/-- A call that goes on after a value. -/
theorem run_bind_of_ok {call : Call α} {s : σ} {a : α} (hok : (call.run server s).result = .ok a)
    (f : α → Call β) :
    (call >>= f).run server s =
      { (f a).run server (call.run server s).state with
        events := (call.run server s).events ++
          ((f a).run server (call.run server s).state).events } := by
  rw [show (call >>= f) = call.bind f from rfl, run_bind, Run.andThen, hok]

section Failures

variable {server} {call : Call α} {s t : σ} {failure : Failure} {events : List Event}

/-- Nothing goes on after a failure. -/
theorem run_bind_of_error (herror : call.run server s = ⟨.error failure, events, t⟩)
    (f : α → Call β) : (call >>= f).run server s = ⟨.error failure, events, t⟩ := by
  rw [show (call >>= f) = call.bind f from rfl, run_bind, Run.andThen, herror]

theorem run_map_of_error (herror : call.run server s = ⟨.error failure, events, t⟩) (f : α → β) :
    (f <$> call).run server s = ⟨.error failure, events, t⟩ :=
  run_bind_of_error herror _

theorem result_map_eq_error_iff (f : α → β) :
    ((f <$> call).run server s).result = .error failure ↔
      (call.run server s).result = .error failure := by
  rw [run_map, Run.mapResult_result]
  cases (call.run server s).result <;> simp [Except.map]

end Failures

/-- A handler that only answers turns every failure into a result. -/
theorem run_tryCatch_pure (call : Call α) (answer : Failure → α) (s : σ) :
    (tryCatch call fun failure => pure (answer failure) : Call α).run server s =
      (call.run server s).mapResult fun
        | .ok a => .ok a
        | .error failure => .ok (answer failure) := by
  rw [show (tryCatch call fun failure => pure (answer failure)) =
    call.handle fun failure => pure (answer failure) from rfl]
  induction call generalizing s with
  | done result => cases result <;> rfl
  | send request next ih =>
    rw [handle, run_send, ih, run_send]
    rfl
  | sleep delay next ih =>
    rw [handle, run_sleep, ih, run_sleep]
    rfl

end Call

end IssueGateway.Remote
