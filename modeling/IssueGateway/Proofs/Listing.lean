import IssueGateway.Operation.Browse
import IssueGateway.Proofs.Remote.Limits
import IssueGateway.Proofs.Remote.Request

/-!
# Asking for a page

A page is one post and a reading of what it gives. No query holds a number that JSON cannot express,
so the post of a site whose id can be written is the retry loop, whatever was asked for; of any other
site nothing is asked.
-/

namespace IssueGateway

open Json Remote

namespace Query

theorem textObject_finite (m : Assoc String String) : holdsNonFinite (textObject m) = false := by
  rw [textObject, holdsNonFinite]
  induction m with
  | nil => rfl
  | cons entry rest ih =>
    rw [List.map_cons, anyFieldNonFinite, ih]
    rfl

theorem viewPart_finite (name : String) (m : Assoc String String) :
    anyFieldNonFinite (viewPart name m) = false := by
  rw [viewPart]
  split
  · rfl
  · rw [anyFieldNonFinite, textObject_finite]
    rfl

theorem searchPart_finite (search : Option String) :
    anyFieldNonFinite (searchPart search) = false := by
  cases search with
  | none => rfl
  | some s =>
    rw [searchPart]
    split <;> rfl

end Query

namespace Query.Payload

theorem view_finite (p : Payload) : anyFieldNonFinite p.view = false := by
  simp only [view, anyFieldNonFinite_append, searchPart_finite, viewPart_finite, Bool.or_false]

/-- A query can always be sent. -/
theorem request_finite (p : Payload) : anyFieldNonFinite p.request = false := by
  rw [request, anyFieldNonFinite_append]
  split
  · rfl
  · simp only [anyFieldNonFinite, holdsNonFinite, Value.int, view_finite, Bool.or_false]

end Query.Payload

namespace Source

/-- The query for the record with an id that can be written. -/
def idQuery (id : Int) : Query.Payload :=
  { columnFilters := [("IssueId", String.ofList (Text.integer id))], limit := 1 }

theorem recordQuery_eq (id : Int) : recordQuery id =
    if (Value.int id).isWritable then .ok (idQuery id) else .error .integerTooLong := by
  rw [recordQuery, Value.write]
  split <;> rfl

end Source

namespace Remote.Client

/-- The listing of a site as the retry loop. -/
theorem items_eq_exchange (c : Client) {site : Int} (hsite : (Value.int site).isWritable = true)
    (query : Query.Payload) :
    c.items site query.request =
      exchange (itemsEndpoint site) (c.request (itemsEndpoint site) query.request) c.retry.delay
        c.retry.retries.toNat := by
  rw [items, if_pos hsite]
  exact c.postBy_eq_exchange c.retry (itemsEndpoint site) query.request_finite

theorem items_of_not_isWritable (c : Client) {site : Int} (hsite : ¬ (Value.int site).isWritable)
    (data : Fields) : c.items site data = .done (.error .integerTooLong) :=
  if_neg hsite

/-- The listing of a site sends its request within the budget, or nothing. -/
theorem items_within (c : Client) {site : Int} (query : Query.Payload) {sends : Request → Prop}
    {fails : Failure → Prop} (hremote : ∀ cause, fails (.remote cause))
    (hlong : ¬ (Value.int site).isWritable → fails .integerTooLong)
    (hrequest : sends (c.request (itemsEndpoint site) query.request)) :
    (c.items site query.request).Within sends fails (c.retry.retries.toNat + 1) := by
  by_cases hsite : (Value.int site).isWritable
  · rw [c.items_eq_exchange hsite]
    exact exchange_within hremote _ hrequest _ _
  · rw [c.items_of_not_isWritable hsite]
    exact .done (.error (hlong hsite))

end Remote.Client

namespace Operation

variable {σ : Type} (server : Server σ)

/-- A page does what its post does, and its result is the reading of what that gives. -/
theorem page_run (c : Client) (site : Int) (query : Query.Payload) (s : σ) :
    ((source c).page site query).run server s =
      ((c.items site query.request).run server s).mapResult
        (·.bind fun body => Page.ofResponse site query (.obj body)) := by
  rw [Source.page, Call.run_bind_pure server (source c site query.request) _ _
    fun response s => Call.run_ofExcept server _ s, source, Call.run_map]
  cases hresult : ((c.items site query.request).run server s).result <;>
    simp [Run.mapResult, hresult, Except.bind, Except.map]

/-- A record is the first of its page; one whose id cannot be written is not asked for. -/
theorem record?_eq (c : Client) (site id : Int) : (source c).record? site id =
    if (Value.int id).isWritable then do
      let page ← (source c).page site (Source.idQuery id)
      return page.records.head?
    else throw .integerTooLong := by
  rw [Source.record?, Source.recordQuery_eq]
  split <;> rfl

/-- Whoever else is asked, a page costs its own budget and one request. -/
theorem length_requests_page_le (c : Client) (site : Int) (query : Query.Payload) (s : σ) :
    (requests (((source c).page site query).run server s).events).length ≤
      c.retry.retries.toNat + 1 := by
  have hwithin : (c.items site query.request).Within (fun _ => True) (fun _ => True)
      (c.retry.retries.toNat + 1) :=
    c.items_within query (fun _ => trivial) (fun _ => trivial) trivial
  rw [page_run, Run.mapResult_events]
  exact (hwithin.run server (fun _ _ _ _ => trivial) s).2.2

variable {server}

theorem page_run_of_not_isWritable (c : Client) {site : Int}
    (hsite : ¬ (Value.int site).isWritable) (query : Query.Payload) (s : σ) :
    ((source c).page site query).run server s = ⟨.error .integerTooLong, [], s⟩ := by
  rw [page_run, c.items_of_not_isWritable hsite]
  rfl

/-- What an operation makes of a page behind which it sends nothing: its post, the reading of what
that gives, and the rest. -/
theorem page_bind_eq_ok_iff (c : Client) (site : Int) (query : Query.Payload) {α : Type}
    {f : Page → Except Failure α} {g : Page → Call α}
    (hpure : ∀ page s, (g page).run server s = ⟨f page, [], s⟩) (s : σ) {a : α} :
    (((source c).page site query >>= g).run server s).result = .ok a ↔
      ∃ body, ((c.items site query.request).run server s).result = .ok body ∧
        ∃ page, Page.ofResponse site query (.obj body) = .ok page ∧ f page = .ok a := by
  rw [Call.run_bind_pure server _ f g hpure, page_run]
  simp only [Run.mapResult_result]
  cases ((c.items site query.request).run server s).result with
  | error failure => simp [Except.bind]
  | ok body =>
    simp only [Except.bind, Except.ok.injEq, exists_eq_left']
    cases Page.ofResponse site query (.obj body) <;> simp

/-- A call that starts with a check goes on with what the check gives. -/
theorem run_of_check {α β : Type} {check : Except Failure α} {a : α} (hcheck : check = .ok a)
    (f : α → Call β) (s : σ) :
    ((MonadExcept.ofExcept check : Call α) >>= f).run server s = (f a).run server s := by
  rw [Call.run_ofExcept_bind, hcheck]

/-- A calculation put before a call that sends nothing. -/
theorem run_calculation {α β : Type} (x : Except Failure α) {f : α → Except Failure β}
    {g : α → Call β} (hpure : ∀ a s, (g a).run server s = ⟨f a, [], s⟩) (s : σ) :
    ((MonadExcept.ofExcept x : Call α) >>= g).run server s = ⟨x >>= f, [], s⟩ := by
  rw [Call.run_ofExcept_bind]
  cases x with
  | error failure => rfl
  | ok a => exact hpure a s

end Operation

end IssueGateway
