import IssueGateway.Proofs.Text.Trim
import IssueGateway.Remote.Client

/-!
# How a response is judged

A response is taken for its object just if neither its status nor the object reports an error
(`Response.Accepts`). Any other response is refused, and the name, the status and the text of the
refusal can be read off the response (`Response.RefusedAs`). There is no third way, whatever the
bytes are (`Response.judged`).
-/

namespace IssueGateway.Remote

open Json

/-! ### The text of a bare status -/

/-- Whether a text is what is left of another when the blanks behind it are cut off. -/
def IsCutOf (cut whole : String) : Prop :=
  ∃ blanks, whole.toList = cut.toList ++ blanks ∧ (∀ c ∈ blanks, Text.isBlank c = true) ∧
    ∀ c ∈ cut.toList.getLast?, Text.isBlank c = false

/-- A status alone is told by its number and its phrase, with no blank behind them. -/
theorem bareStatusMessage_isCutOf (status : Nat) (reason : String) :
    IsCutOf (bareStatusMessage status reason)
      ("HTTP " ++ String.ofList (Text.natural status) ++ " " ++ reason) := by
  have hfirst : ∀ c ∈ ("HTTP " ++ String.ofList (Text.natural status) ++ " " ++
      reason).toList.head?, Text.isBlank c = false := by
    simp only [String.toList_append]
    rintro c ⟨⟩
    decide
  obtain ⟨blanks, hwhole, hblanks, hlast⟩ := Text.exists_trimBy_append hfirst
  rw [IsCutOf, bareStatusMessage, Text.trimBlanks, String.toList_ofList]
  exact ⟨blanks, hwhole, hblanks, hlast⟩

/-! ### What a response holds -/

namespace Response

variable {r : Response} {body : Fields}

theorem object?_eq_some_iff : r.object? = some body ↔ decode r.body = .ok (.obj body) := by
  rw [object?]
  cases hbody : decode r.body with
  | error e => simp
  | ok v => cases v <;> simp

theorem object?_eq_none (h : ∀ body, decode r.body ≠ .ok (.obj body)) : r.object? = none :=
  Option.eq_none_iff_forall_ne_some.2 fun body hbody => h body (object?_eq_some_iff.1 hbody)

theorem reportedStatus?_eq_some_iff {n : Int} :
    reportedStatus? body = some n ↔ Fields.get body "StatusCode" = .int n := by
  rw [reportedStatus?]
  cases hstatus : Fields.get body "StatusCode" with
  | num m => cases m <;> simp [Value.int]
  | _ => simp [Value.int]

/-- A body that is taken as it is: the object in a response without an error status that does not
report one either. -/
structure Accepts (r : Response) (body : Fields) : Prop where
  status_lt : r.status < 400
  decoded : decode r.body = .ok (.obj body)
  unreported : ¬ ∃ n : Int, Fields.get body "StatusCode" = .int n ∧ 400 ≤ n

/-- A refusal as the response has it. A message that is present, of whatever kind, is what an error
status is told by; without one it is told by its number and phrase. -/
structure RefusedAs (r : Response) (endpoint : String) (cause : RemoteFailure) : Prop where
  not_accepted : ∀ body, ¬ r.Accepts body
  name_eq : cause.name = if r.status = 429 then .rateLimit else .remoteApi
  status_of_error : 400 ≤ r.status → cause.status? = some (r.status : Int)
  message_of_told : 400 ≤ r.status → ∀ body, decode r.body = .ok (.obj body) →
    (Fields.get body "Message").isPresent = true →
      cause.message = "Pleasanter API Error: " ++ (Fields.get body "Message").text
  message_of_untold : 400 ≤ r.status →
    (∀ body, decode r.body = .ok (.obj body) → (Fields.get body "Message").isPresent = false) →
      IsCutOf cause.message
        ("HTTP " ++ String.ofList (Text.natural r.status) ++ " " ++ r.reason)
  of_object : r.status < 400 → ∀ body, decode r.body = .ok (.obj body) →
    ∃ n : Int, Fields.get body "StatusCode" = .int n ∧ 400 ≤ n ∧ cause.status? = some n ∧
      cause.message = "API Error " ++ String.ofList (Text.integer n) ++ ": " ++
        (Fields.get body "Message").text
  of_no_object : r.status < 400 → (∀ body, decode r.body ≠ .ok (.obj body)) →
    cause.status? = none ∧ cause.message = "unexpected non-JSON response from " ++ endpoint

/-! ### The judgement -/

theorem message_of_object (h : decode r.body = .ok (.obj body)) :
    r.message = Fields.get body "Message" := by
  rw [message, object?_eq_some_iff.2 h]

theorem exists_of_isPresent_message (h : r.message.isPresent = true) :
    ∃ body, decode r.body = .ok (.obj body) ∧ (Fields.get body "Message").isPresent = true := by
  rw [message] at h
  cases hobject : r.object? with
  | none =>
    rw [hobject] at h
    cases h
  | some body =>
    rw [hobject] at h
    exact ⟨body, object?_eq_some_iff.1 hobject, h⟩

theorem not_accepts_of_error_status (h : 400 ≤ r.status) (body : Fields) : ¬ r.Accepts body :=
  fun haccepts => absurd haccepts.status_lt (Nat.not_lt.2 h)

variable (endpoint : String)

theorem refusedAs_of_error_status (h : 400 ≤ r.status) :
    ∃ cause, r.outcome endpoint = .error cause ∧ r.RefusedAs endpoint cause := by
  have hlow : ¬ r.status < 400 := Nat.not_lt.2 h
  rw [outcome, if_pos (show firstErrorStatus ≤ r.status from h)]
  by_cases hpresent : r.message.isPresent = true
  · rw [if_pos hpresent]
    refine ⟨_, rfl, ?_⟩
    exact {
      not_accepted := not_accepts_of_error_status h
      name_eq := rfl
      status_of_error := fun _ => rfl
      message_of_told := fun _ body hbody _ =>
        congrArg (fun v : Value => "Pleasanter API Error: " ++ v.text) (message_of_object hbody)
      message_of_untold := by
        intro _ huntold
        obtain ⟨body, hbody, htold⟩ := exists_of_isPresent_message hpresent
        rw [huntold body hbody] at htold
        cases htold
      of_object := fun hstatus => absurd hstatus hlow
      of_no_object := fun hstatus => absurd hstatus hlow }
  · rw [if_neg hpresent]
    refine ⟨_, rfl, ?_⟩
    exact {
      not_accepted := not_accepts_of_error_status h
      name_eq := rfl
      status_of_error := fun _ => rfl
      message_of_told := by
        intro _ body hbody htold
        rw [message_of_object hbody] at hpresent
        exact absurd htold hpresent
      message_of_untold := fun _ _ => bareStatusMessage_isCutOf r.status r.reason
      of_object := fun hstatus => absurd hstatus hlow
      of_no_object := fun hstatus => absurd hstatus hlow }

section Status

variable (hstatus : r.status < 400)

include hstatus

theorem status_ne_rateLimit : r.status ≠ 429 := by
  omega

theorem refusedAs_of_no_object (h : ∀ body, decode r.body ≠ .ok (.obj body)) :
    ∃ cause, r.outcome endpoint = .error cause ∧ r.RefusedAs endpoint cause := by
  have hhigh : ¬ 400 ≤ r.status := Nat.not_le.2 hstatus
  rw [outcome, if_neg (show ¬ firstErrorStatus ≤ r.status from hhigh), object?_eq_none h]
  refine ⟨_, rfl, ?_⟩
  exact {
    not_accepted := fun body haccepts => h body haccepts.decoded
    name_eq := (if_neg (status_ne_rateLimit hstatus)).symm
    status_of_error := fun herror => absurd herror hhigh
    message_of_told := fun herror => absurd herror hhigh
    message_of_untold := fun herror => absurd herror hhigh
    of_object := fun _ body hbody => absurd hbody (h body)
    of_no_object := fun _ _ => ⟨rfl, rfl⟩ }

theorem refusedAs_of_reported (hbody : decode r.body = .ok (.obj body)) {n : Int}
    (hn : Fields.get body "StatusCode" = .int n) (herror : 400 ≤ n) :
    ∃ cause, r.outcome endpoint = .error cause ∧ r.RefusedAs endpoint cause := by
  have hhigh : ¬ 400 ≤ r.status := Nat.not_le.2 hstatus
  have hbody' {other : Fields} (h : decode r.body = .ok (.obj other)) : body = other := by
    rw [hbody] at h
    cases h
    rfl
  rw [outcome, if_neg (show ¬ firstErrorStatus ≤ r.status from hhigh), object?_eq_some_iff.2 hbody]
  simp only [reportedStatus?_eq_some_iff.2 hn]
  rw [if_pos (show (firstErrorStatus : Int) ≤ n from herror)]
  refine ⟨_, rfl, ?_⟩
  exact {
    not_accepted := by
      intro other haccepts
      obtain rfl := hbody' haccepts.decoded
      exact haccepts.unreported ⟨n, hn, herror⟩
    name_eq := (if_neg (status_ne_rateLimit hstatus)).symm
    status_of_error := fun herror => absurd herror hhigh
    message_of_told := fun herror => absurd herror hhigh
    message_of_untold := fun herror => absurd herror hhigh
    of_object := by
      intro _ other hother
      obtain rfl := hbody' hother
      exact ⟨n, hn, herror, rfl, rfl⟩
    of_no_object := fun _ hnone => absurd hbody (hnone body) }

end Status

theorem Accepts.outcome_eq (h : r.Accepts body) : r.outcome endpoint = .ok body := by
  rw [outcome, if_neg (show ¬ firstErrorStatus ≤ r.status from Nat.not_le.2 h.status_lt),
    object?_eq_some_iff.2 h.decoded]
  simp only
  cases hreported : reportedStatus? body with
  | none => rfl
  | some n =>
    have hn : Fields.get body "StatusCode" = .int n := reportedStatus?_eq_some_iff.1 hreported
    exact if_neg fun herror => h.unreported ⟨n, hn, herror⟩

theorem accepts_or_refusedAs (r : Response) : (∃ body, r.Accepts body) ∨
    ∃ cause, r.outcome endpoint = .error cause ∧ r.RefusedAs endpoint cause := by
  by_cases hstatus : r.status < 400
  · by_cases hobject : ∃ body, decode r.body = .ok (.obj body)
    · obtain ⟨body, hbody⟩ := hobject
      by_cases hreported : ∃ n : Int, Fields.get body "StatusCode" = .int n ∧ 400 ≤ n
      · obtain ⟨n, hn, herror⟩ := hreported
        exact Or.inr (refusedAs_of_reported endpoint hstatus hbody hn herror)
      · exact Or.inl ⟨body, hstatus, hbody, hreported⟩
    · exact Or.inr (refusedAs_of_no_object endpoint hstatus fun body h => hobject ⟨body, h⟩)
  · exact Or.inr (refusedAs_of_error_status endpoint (Nat.not_lt.1 hstatus))

/-- What is accepted is all that ever comes of a response without a failure. -/
theorem outcome_eq_ok_iff : r.outcome endpoint = .ok body ↔ r.Accepts body := by
  constructor
  · intro hok
    rcases accepts_or_refusedAs endpoint r with ⟨other, haccepts⟩ | ⟨cause, herror, -⟩
    · rw [haccepts.outcome_eq endpoint] at hok
      cases hok
      exact haccepts
    · rw [herror] at hok
      cases hok
  · exact fun h => h.outcome_eq endpoint

/-- Every response is either taken for its object, and then just for that, or refused in the one
way that its status and its body call for. -/
theorem judged (r : Response) :
    (∀ body, r.outcome endpoint = .ok body ↔ r.Accepts body) ∧
      ((∃ body, r.Accepts body) ∨
        ∃ cause, r.outcome endpoint = .error cause ∧ r.RefusedAs endpoint cause) :=
  ⟨fun _ => outcome_eq_ok_iff endpoint, accepts_or_refusedAs endpoint r⟩

/-- Keys that differ in a surrogate on its own are two keys. -/
example : ((outcome "" { body :=
    "\x7b\"a\\ud800\":1,\"a\\ud801\":2\x7d".toList.map Char.toUInt8 }).map fun body =>
      body.keys.map fun key => Text.points key.toList).toOption =
    some [[0x61, 0xD800], [0x61, 0xD801]] := by
  decide +kernel

end Response

end IssueGateway.Remote
