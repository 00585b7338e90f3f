import IssueGateway.Proofs.Json.Reading
import IssueGateway.Proofs.Listing
import IssueGateway.Proofs.Remote.Announced

/-!
# Replies that are no listing

What is read from an accepted reply is the records that it lists (`Page.listed`), unless it is no
listing (`Page.isMalformed`); then the failure is one that no operation announces. What an operation
does behind a page therefore decides the rest.
-/

namespace IssueGateway

open Json Remote

namespace Page

theorem slips_asObject (v : Value) : Slips (asObject v) := by
  cases v with
  | obj fields => exact .ok fields
  | _ => exact .error (by simp [Failure.IsSlip, Failure.name])

theorem slips_recordsOf (v : Value) : Slips (recordsOf v) := by
  cases v with
  | arr rows => exact .ok _
  | str s => exact .ok []
  | obj fields => exact .ok []
  | _ => exact .error (by simp [Failure.IsSlip, Failure.name])

theorem slips_ofResponse (site : Int) (query : Query.Payload) (response : Value) :
    Slips (ofResponse site query response) :=
  (slips_asObject response).bind fun _ => (slips_asObject _).bind fun _ =>
    (slips_recordsOf _).bind fun _ => .ok _

/-- The values that rows cannot be taken from: truth and the numbers but zero. -/
def hasNoRows : Value → Bool
  | .bool b => b
  | .num n => !n.isZero
  | _ => false

/-- The records in what should be a list of rows. -/
def rowsOf : Value → List Record
  | .arr rows => rows.filterMap record?
  | _ => []

/-- Whether a reply is no listing: its `Response` is present but no object, or rows cannot be taken
from the `Data` in it. -/
def isMalformed (body : Fields) : Bool :=
  match Fields.get body "Response" with
  | .obj fields => hasNoRows (Fields.get fields "Data")
  | response => response.isPresent

/-- The records that a reply lists. -/
def listed (body : Fields) : List Record :=
  rowsOf ((Fields.get body "Response").field "Data")

/-- What is listed can be written if the reply can. -/
theorem isWritable_of_mem_listed {body : Fields} (h : areFieldsWritable body = true)
    {record : Record} (hmem : record ∈ listed body) : areFieldsWritable record.columns = true := by
  have hdata := Value.isWritable_field (isWritable_get h "Response") "Data"
  rw [listed] at hmem
  cases hrows : (Fields.get body "Response").field "Data" with
  | arr rows =>
    rw [hrows] at hmem hdata
    obtain ⟨row, hrow, hrecord⟩ := List.mem_filterMap.1 hmem
    have hwritable := isWritable_of_mem hdata hrow
    cases row with
    | obj fields =>
      obtain rfl := Option.some.inj hrecord
      exact hwritable
    | _ => cases hrecord
  | _ =>
    rw [hrows] at hmem
    cases hmem

theorem recordsOf_orElse {data : Value} (h : hasNoRows data = false) :
    recordsOf (data.orElse (.arr [])) = .ok (rowsOf data) := by
  cases data with
  | null => rfl
  | bool b =>
    obtain rfl : b = false := h
    rfl
  | num n =>
    rw [Value.orElse, Value.isPresent, show (!n.isZero) = false from h]
    rfl
  | str s =>
    rw [Value.orElse]
    split <;> rfl
  | arr rows => cases rows <;> rfl
  | obj fields =>
    rw [Value.orElse]
    split <;> rfl

theorem recordsOf_orElse_eq_error {data : Value} (h : hasNoRows data = true) :
    recordsOf (data.orElse (.arr [])) = .error (.notAList data.kind) := by
  cases data with
  | bool b =>
    obtain rfl : b = true := h
    rfl
  | num n =>
    rw [Value.orElse, Value.isPresent, show (!n.isZero) = true from h]
    rfl
  | _ => cases h

theorem asObject_orElse_obj (fields : Fields) :
    asObject ((Value.obj fields).orElse (.obj [])) = .ok fields := by
  cases fields <;> rfl

theorem asObject_orElse {response : Value} (hother : ∀ fields, response ≠ .obj fields) :
    asObject (response.orElse (.obj [])) =
      if response.isPresent then .error (.notAnObject response.kind) else .ok [] := by
  rw [Value.orElse]
  split
  · cases response with
    | obj fields => exact absurd rfl (hother fields)
    | _ => rfl
  · rfl

theorem isMalformed_of_no_object {body : Fields}
    (hother : ∀ fields, Fields.get body "Response" ≠ .obj fields) :
    isMalformed body = (Fields.get body "Response").isPresent := by
  rw [isMalformed]
  cases hresponse : Fields.get body "Response" with
  | obj fields => exact absurd hresponse (hother fields)
  | _ => rfl

theorem listed_of_no_object {body : Fields}
    (hother : ∀ fields, Fields.get body "Response" ≠ .obj fields) : listed body = [] := by
  rw [listed]
  cases hresponse : Fields.get body "Response" with
  | obj fields => exact absurd hresponse (hother fields)
  | _ => rfl

/-- What is read from an accepted reply: the records that it lists, unless it is no listing; then
the failure is not an announced one. -/
theorem ofResponse_result (site : Int) (query : Query.Payload) (body : Fields) :
    if isMalformed body then
      ∃ failure, ofResponse site query (.obj body) = .error failure ∧ ¬ failure.IsAnnounced
    else ∃ page, ofResponse site query (.obj body) = .ok page ∧ page.records = listed body := by
  have hread : ofResponse site query (.obj body) =
      (asObject ((Fields.get body "Response").orElse (.obj []))).bind fun fields =>
        (recordsOf ((Fields.get fields "Data").orElse (.arr []))).bind fun records =>
          .ok ⟨site, records, Fields.get fields "TotalCount", Fields.get body "LimitRemaining",
            Fields.get body "LimitPerDate", query.offset, query.limit⟩ := rfl
  by_cases hobject : ∃ fields, Fields.get body "Response" = .obj fields
  · obtain ⟨fields, hresponse⟩ := hobject
    rw [hread, isMalformed, listed, hresponse, asObject_orElse_obj, Value.field]
    cases hrows : hasNoRows (Fields.get fields "Data") with
    | true =>
      simp only [hrows, if_true, Except.bind, recordsOf_orElse_eq_error hrows]
      exact ⟨_, rfl, by simp [Failure.IsAnnounced, Failure.name]⟩
    | false =>
      simp only [hrows, Bool.false_eq_true, if_false, Except.bind, recordsOf_orElse hrows]
      exact ⟨_, rfl, rfl⟩
  · have hother : ∀ fields, Fields.get body "Response" ≠ .obj fields :=
      fun fields h => hobject ⟨fields, h⟩
    rw [hread, asObject_orElse hother, isMalformed_of_no_object hother]
    cases hpresent : (Fields.get body "Response").isPresent with
    | true => exact ⟨_, rfl, by simp [Failure.IsAnnounced, Failure.name]⟩
    | false => exact ⟨_, rfl, (listed_of_no_object hother).symm⟩

theorem records_of_ofResponse {site : Int} {query : Query.Payload} {body : Fields} {page : Page}
    (h : ofResponse site query (.obj body) = .ok page) : page.records = listed body := by
  have hread := ofResponse_result site query body
  rw [h] at hread
  split at hread
  · obtain ⟨failure, herror, -⟩ := hread
    cases herror
  · obtain ⟨page', heq, hrecords⟩ := hread
    obtain rfl := Except.ok.inj heq
    exact hrecords

end Page

namespace Operation

section Page

variable {σ : Type} {server : Server σ} (hplain : ∀ s request, (server s request).1.IsPlain)
  (c : Client) {site : Int} (hsite : (Value.int site).isWritable = true) (query : Query.Payload)
  (s : σ)

include hplain hsite

theorem items_failsOnly_announced :
    FailsOnly Failure.IsAnnounced ((c.items site query.request).run server s).result := by
  rw [c.items_eq_exchange hsite]
  exact exchange_failsOnly_announced hplain _ _ _ _ s

/-- What can go wrong unannounced behind a page: the reply is no listing, or what is made of its
records fails. -/
theorem page_fails_unannounced_iff {α : Type} (f : Page → Except Failure α) (g : Page → Call α)
    (hpure : ∀ page s, (g page).run server s = ⟨f page, [], s⟩) (fails : List Record → Prop)
    (hfails : ∀ page, (∃ failure, f page = .error failure ∧ ¬ failure.IsAnnounced) ↔
      fails page.records) :
    (∃ failure, (((source c).page site query >>= g).run server s).result = .error failure ∧
      ¬ failure.IsAnnounced) ↔
    ∃ body, ((c.items site query.request).run server s).result = .ok body ∧
      (Page.isMalformed body = true ∨ fails (Page.listed body)) := by
  rw [Call.run_bind_pure server _ f g hpure, page_run]
  simp only [Run.mapResult_result]
  cases hpost : ((c.items site query.request).run server s).result with
  | error failure =>
    have hannounced := items_failsOnly_announced hplain c hsite query s failure hpost
    refine iff_of_false ?_ fun ⟨body, hbody, _⟩ => by cases hbody
    rintro ⟨failure', heq, hnot⟩
    cases heq
    exact hnot hannounced
  | ok body =>
    have hread := Page.ofResponse_result site query body
    simp only [Except.bind, Except.ok.injEq, exists_eq_left']
    cases hmalformed : Page.isMalformed body with
    | true =>
      rw [if_pos hmalformed] at hread
      obtain ⟨failure, hfailure, hnot⟩ := hread
      rw [hfailure]
      exact iff_of_true ⟨failure, rfl, hnot⟩ (Or.inl rfl)
    | false =>
      rw [if_neg (by rw [hmalformed]; exact Bool.false_ne_true)] at hread
      obtain ⟨page, hpage, hrecords⟩ := hread
      rw [hpage, ← hrecords, ← hfails]
      exact ⟨Or.inr, fun h => h.resolve_left Bool.false_ne_true⟩

/-- A page that is handed on as it is. -/
theorem page_fails_iff_isMalformed :
    (∃ failure, (((source c).page site query).run server s).result = .error failure ∧
      ¬ failure.IsAnnounced) ↔
    ∃ body, ((c.items site query.request).run server s).result = .ok body ∧
      Page.isMalformed body = true := by
  have hpage := page_fails_unannounced_iff hplain c hsite query s Except.ok pure (fun _ _ => rfl)
    (fun _ => False) fun page => by simp
  simp only [or_false] at hpage
  rwa [bind_pure] at hpage

end Page

end Operation

end IssueGateway
