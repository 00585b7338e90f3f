import IssueGateway.Operation.Analysis
import IssueGateway.Operation.Search
import IssueGateway.Proofs.Listing

/-!
# Inquiries

The six operations as one kind of thing. An inquiry has a check of its arguments and a call, which
does nothing unless the check passes; a session makes inquiries one after the other with one client.
-/

namespace IssueGateway.Operation

open Json Remote

/-- One of the operations with its arguments; a trend also depends on the day. -/
inductive Inquiry where
  | listIssues (a : ListArguments)
  | getIssue (site issue : Value)
  | search (a : SearchArguments)
  | searchSites (a : MultiSiteArguments)
  | trend (today : Calendar.Date) (a : TrendArguments)
  | statusSummary (a : SummaryArguments)

inductive Answer where
  | page (page : Page)
  | issue (record : Record)
  | report (report : SearchReport)
  | trend (report : TrendReport)
  | summary (summary : Summary)

namespace Inquiry

def call (c : Client) : Inquiry → Call Answer
  | .listIssues a => .page <$> Operation.listIssues c a
  | .getIssue site issue => .issue <$> Operation.getIssue c site issue
  | .search a => .page <$> Operation.search c a
  | .searchSites a => .report <$> Operation.searchSites c a
  | .trend today a => .trend <$> Operation.trend c today a
  | .statusSummary a => .summary <$> Operation.statusSummary c a

def check : Inquiry → Except Failure Unit
  | .listIssues a => do let _ ← a.check
  | .getIssue site issue => do let _ ← checkLookup site issue
  | .search a => do let _ ← a.check
  | .searchSites a => do let _ ← a.check
  | .trend _ a => do let _ ← a.check
  | .statusSummary a => do let _ ← a.check

end Inquiry

/-- A step of a session: an inquiry, and what becomes of the remote before it. -/
structure Step (σ : Type) where
  inquiry : Inquiry
  before : σ → σ := id

section Session

variable {σ : Type} (server : Server σ)

def session (c : Client) : List (Step σ) → σ → List (Run Answer σ)
  | [], _ => []
  | step :: rest, s =>
    let run := (step.inquiry.call c).run server (step.before s)
    run :: session c rest run.state

/-- What holds of every inquiry in any state of the remote holds of every step of a session. -/
theorem forall₂_session {c : Client} {P : Inquiry → Run Answer σ → Prop}
    (h : ∀ inquiry s, P inquiry ((inquiry.call c).run server s)) (steps : List (Step σ)) (s : σ) :
    List.Forall₂ (fun step run => P step.inquiry run) steps (session server c steps s) := by
  induction steps generalizing s with
  | nil => exact .nil
  | cons step rest ih =>
    apply List.Forall₂.cons
    · exact h step.inquiry (step.before s)
    · exact ih _

end Session

theorem run_of_discard {α β σ : Type} {x : Except Failure α} {failure : Failure}
    (h : (do let _ ← x : Except Failure Unit) = .error failure) (f : α → Call β) (server : Server σ)
    (s : σ) :
    ((MonadExcept.ofExcept x : Call α) >>= f).run server s = ⟨.error failure, [], s⟩ := by
  cases x with
  | ok a => cases h
  | error cause =>
    cases h
    rfl

/-- An inquiry whose check fails does nothing but fail in the same way. -/
theorem run_of_check_eq_error {inquiry : Inquiry} {failure : Failure}
    (h : inquiry.check = .error failure) (c : Client) {σ : Type} (server : Server σ) (s : σ) :
    (inquiry.call c).run server s = ⟨.error failure, [], s⟩ := by
  cases inquiry with
  | listIssues a => exact Call.run_map_of_error (run_of_discard h _ server s) Answer.page
  | getIssue site issue => exact Call.run_map_of_error (run_of_discard h _ server s) Answer.issue
  | search a => exact Call.run_map_of_error (run_of_discard h _ server s) Answer.page
  | searchSites a => exact Call.run_map_of_error (run_of_discard h _ server s) Answer.report
  | trend today a => exact Call.run_map_of_error (run_of_discard h _ server s) Answer.trend
  | statusSummary a => exact Call.run_map_of_error (run_of_discard h _ server s) Answer.summary

end IssueGateway.Operation
