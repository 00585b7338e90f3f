import IssueGateway.Proofs.MultiSite
import IssueGateway.Proofs.Operation.Inquiry
import IssueGateway.Proofs.Query.View
import IssueGateway.Proofs.Remote.Alike

/-!
# The key stays with the remote

The key goes into one field of each request and nowhere else: with another key every call is alike
(`call_alike`). So unless the remote itself tells keys apart, nobody who sees results, failures and
waits can tell with which key a session was made.
-/

namespace IssueGateway

open Json Remote

/-- Requests that differ in nothing but the key that they carry. -/
structure Remote.SameButKey (key key' : String) (first second : Request) : Prop where
  address : first.address = second.address
  body : ∃ before after : Fields, "ApiKey" ∉ Assoc.keys (before ++ after) ∧
    first.body = before ++ ("ApiKey", .str key) :: after ∧
    second.body = before ++ ("ApiKey", .str key') :: after

/-- Scripts go by addresses only. -/
theorem Remote.Script.server_isBlind (key key' : String) :
    Server.IsBlind (SameButKey key key') Script.server := by
  intro script first second h
  have htarget : first.target = second.target := by
    rw [Request.target, Request.target, h.address]
  rw [Script.server, Script.server, htarget]

theorem Query.Payload.no_key (query : Query.Payload) : "ApiKey" ∉ Assoc.keys query.request := by
  obtain ⟨view, hrequest, hview⟩ := query.request_eq
  rw [hrequest]
  rcases hview with rfl | ⟨parts, rfl, -⟩ <;> simp [Assoc.keys]

namespace Operation

variable (c : Client) (key key' : String)

theorem request_sameButKey (endpoint : String) (query : Query.Payload) :
    SameButKey key key' ({ c with apiKey := key }.request endpoint query.request)
      ({ c with apiKey := key' }.request endpoint query.request) where
  address := rfl
  body := by
    refine ⟨[("ApiVersion", .float apiVersion)], query.request, ?_, ?_, ?_⟩
    · have hkeys : Assoc.keys ([("ApiVersion", .float apiVersion)] ++ query.request) =
          "ApiVersion" :: Assoc.keys query.request := rfl
      rw [hkeys, List.mem_cons, not_or]
      exact ⟨by decide, query.no_key⟩
    · exact Client.request_body { c with apiKey := key } endpoint query
    · exact Client.request_body { c with apiKey := key' } endpoint query

theorem page_alike (site : Int) (query : Query.Payload) :
    ((source { c with apiKey := key }).page site query).Alike (SameButKey key key')
      ((source { c with apiKey := key' }).page site query) := by
  have hitems : ({ c with apiKey := key }.items site query.request).Alike (SameButKey key key')
      ({ c with apiKey := key' }.items site query.request) := by
    by_cases hsite : (Value.int site).isWritable = true
    · rw [Client.items_eq_exchange _ hsite, Client.items_eq_exchange _ hsite]
      exact exchange_alike _ (request_sameButKey c key key' _ query) _ _
    · rw [Client.items_of_not_isWritable _ hsite, Client.items_of_not_isWritable _ hsite]
      exact .done _
  apply (hitems.map Value.obj).bind
  intro response
  exact Call.alike_ofExcept _

theorem searchSite_alike (query : Query.Payload) (site : Int) :
    ((source { c with apiKey := key }).searchSite query site).Alike (SameButKey key key')
      ((source { c with apiKey := key' }).searchSite query site) := by
  apply Call.Alike.tryCatch
  · exact (page_alike c key key' site query).bind fun page => Call.alike_pure _
  · exact fun failure => Call.alike_pure _

theorem searchEach_alike (query : Query.Payload) (sites : List Int) :
    ((source { c with apiKey := key }).searchSites query sites).Alike (SameButKey key key')
      ((source { c with apiKey := key' }).searchSites query sites) := by
  induction sites with
  | nil => exact Call.alike_pure []
  | cons site rest ih =>
    apply (searchSite_alike c key key' query site).bind
    intro entry
    exact ih.bind fun entries => Call.alike_pure (entry :: entries)

/-- What is checked and calculated does not depend on the key, and pages with different keys are
alike. -/
theorem call_alike (inquiry : Inquiry) :
    (inquiry.call { c with apiKey := key }).Alike (SameButKey key key')
      (inquiry.call { c with apiKey := key' }) := by
  cases inquiry with
  | listIssues a =>
    apply Call.Alike.map
    apply (Call.alike_ofExcept _).bind
    exact fun (site, query) => page_alike c key key' site query
  | getIssue givenSite givenIssue =>
    apply Call.Alike.map
    apply (Call.alike_ofExcept _).bind
    rintro ⟨site, issue⟩
    apply Call.Alike.bind
    · apply (Call.alike_ofExcept _).bind
      intro query
      exact (page_alike c key key' site query).bind fun page => Call.alike_pure page.records.head?
    · intro record?
      cases record? with
      | some record => exact Call.alike_pure record
      | none => exact .done _
  | search a =>
    apply Call.Alike.map
    apply (Call.alike_ofExcept _).bind
    exact fun (site, query) => page_alike c key key' site query
  | searchSites a =>
    apply Call.Alike.map
    apply (Call.alike_ofExcept _).bind
    rintro ⟨sites, limit⟩
    exact (searchEach_alike c key key' _ sites).bind fun entries => Call.alike_pure _
  | trend today a =>
    apply Call.Alike.map
    apply (Call.alike_ofExcept _).bind
    rintro ⟨site, analysisType, period⟩
    apply (Call.alike_ofExcept _).bind
    intro firstDay
    apply (page_alike c key key' site _).bind
    intro page
    exact (Call.alike_ofExcept _).bind fun analysis => Call.alike_pure _
  | statusSummary a =>
    apply Call.Alike.map
    apply (Call.alike_ofExcept _).bind
    rintro ⟨site, groupBy⟩
    apply (page_alike c key key' site _).bind
    intro page
    apply (Call.alike_ofExcept _).bind
    intro groups
    exact (Call.alike_ofExcept _).bind fun overview => Call.alike_pure _

/-! ### Sessions -/

section Session

variable {σ : Type} {server : Server σ} (hserver : server.IsBlind (SameButKey key key'))

include hserver

theorem session_alike (steps : List (Step σ)) (s : σ) :
    List.Forall₂ (Run.Alike (SameButKey key key')) (session server { c with apiKey := key } steps s)
      (session server { c with apiKey := key' } steps s) := by
  induction steps generalizing s with
  | nil => exact .nil
  | cons step rest ih =>
    have hrun := (call_alike c key key' step.inquiry).run hserver (step.before s)
    rw [session, session, hrun.state]
    exact .cons hrun (ih _)

end Session

theorem searchPool_alike (query : Query.Payload) (sites : List Int) :
    List.Forall₂ (Errand.Alike (SameButKey key key'))
      (searchPool { c with apiKey := key } query sites)
      (searchPool { c with apiKey := key' } query sites) := by
  induction sites with
  | nil => exact .nil
  | cons site rest ih => exact .cons (.ready (searchSite_alike c key key' query site)) ih

theorem finishedPool_of_alike {R : Request → Request → Prop} {entries : List SiteResult}
    {last : List (Errand SiteResult)}
    (h : List.Forall₂ (Errand.Alike R) (finishedPool entries) last) :
    last = finishedPool entries := by
  induction entries generalizing last with
  | nil =>
    cases h
    rfl
  | cons entry entries ih =>
    cases h with
    | cons hfirst hrest =>
      cases hfirst with
      | ready hcall =>
        cases hcall
        exact congrArg _ (ih hrest)

/-- Sessions of two clients with different keys and otherwise the same settings, against a remote
that replies to both in the same way: step by step the same result or failure, the same waits and
the same requests but for the key. The searches of many sites can do with one key, in whatever order
they move, what they do with the other, and come to the same entries. -/
theorem session_keyBlind (c : Client) (key key' : String) {σ : Type} (server : Server σ)
    (hserver : server.IsBlind (SameButKey key key')) (steps : List (Step σ)) (s : σ) :
    List.Forall₂ (Run.Alike (SameButKey key key')) (session server { c with apiKey := key } steps s)
        (session server { c with apiKey := key' } steps s) ∧
      ∀ (query : Query.Payload) (sites : List Int) (history : History) (entries : List SiteResult),
        PoolRun (searchPool { c with apiKey := key } query sites) history (finishedPool entries) →
        ∃ history', history.Alike (SameButKey key key') history' ∧
          PoolRun (searchPool { c with apiKey := key' } query sites) history'
            (finishedPool entries) := by
  constructor
  · exact session_alike c key key' hserver steps s
  · intro query sites history entries hrun
    obtain ⟨history', last, hrun', hhistory, hlast⟩ :=
      hrun.alike (searchPool_alike c key key' query sites)
    rw [finishedPool_of_alike hlast] at hrun'
    exact ⟨history', hhistory, hrun'⟩

/-- A refusal after a rate limit, in a session whose search text is one of the keys; and two sites
side by side, of which one breaks down. -/
theorem session_keyBlind_over_rate_limit :
    let c : Client := { base := {}, apiKey := "", retry := { retries := 1 } }
    let limited : Reply := .response { status := 429 }
    let steps : List (Step Script) :=
      [{ inquiry := .listIssues { site := .int 7, search := some "second" }
         before := fun _ => { shared := [limited, .response { status := 500 }] } },
        { inquiry := .statusSummary { site := .int 8 } }]
    let asked := fun site => ({ c with apiKey := "first" } : Client).request
      (Client.itemsEndpoint site) (Source.searchQuery "second" 5).request
    let history : History :=
      [(1, .send (asked 8)), (0, .send (asked 7)), (0, .receive limited), (0, .sleep (.float 1.0)),
        (1, .receive (.unreachable "reset")), (0, .wake), (0, .send (asked 7)),
        (0, .receive (.response { body := [0x7b, 0x7d] }))]
    let entries : List SiteResult :=
      [⟨7, .ok []⟩, ⟨8, .error "request to /api/items/8/get failed: reset"⟩]
    let pool := fun key =>
      searchPool { c with apiKey := key } (Source.searchQuery "second" 5) [7, 8]
    Server.IsBlind (SameButKey "first" "second") Script.server ∧
      List.Forall₂ (Run.Alike (SameButKey "first" "second"))
        (session Script.server { c with apiKey := "first" } steps {})
        (session Script.server { c with apiKey := "second" } steps {}) ∧
      PoolRun (pool "first") history (finishedPool entries) ∧
      ∃ history', history.Alike (SameButKey "first" "second") history' ∧
        PoolRun (pool "second") history' (finishedPool entries) := by
  intro c limited steps asked history entries pool
  have hblind := Script.server_isBlind "first" "second"
  have hrun : PoolRun (pool "first") history (finishedPool entries) := by
    refine .cons (.move rfl (.send _ _)) (.cons (.move rfl (.send _ _)) ?_)
    refine .cons (.move rfl (.receive _ _)) (.cons (.move rfl (.sleep _ _)) ?_)
    refine .cons (.move rfl (.receive _ _)) (.cons (.move rfl (.wake _)) ?_)
    refine .cons (.move rfl (.send _ _)) (.cons (.move rfl (.receive _ _)) ?_)
    exact .nil _
  obtain ⟨hsession, hpool⟩ := session_keyBlind c "first" "second" Script.server hblind steps {}
  exact ⟨hblind, hsession, hrun, hpool _ [7, 8] history entries hrun⟩

end Operation

end IssueGateway
