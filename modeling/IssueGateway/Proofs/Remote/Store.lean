import IssueGateway.Json.Printer
import IssueGateway.Proofs.Json.Equality
import IssueGateway.Proofs.Page
import IssueGateway.Proofs.Query.View
import IssueGateway.Proofs.Remote.Judgement
import Mathlib.Data.List.Sublists

/-!
# Remotes that hold rows

A remote that holds rows answers a request for a page with that part of them (`Serves`). A page of
such a remote takes one request and shows just that part (`page_run_of_serves`). Which rows a request
chooses is left open: all of them, or those that its filters let through.
-/

namespace IssueGateway

open Json Remote

namespace Remote

variable {σ : Type} {server : Server σ}

/-- A reply that lists records: it is taken, and its rows are these records in this order. -/
def Reply.Lists (reply : Reply) (records : List Record) : Prop :=
  ∃ r body, reply = .response r ∧ r.Accepts body ∧
    (Fields.get body "Response").field "Data" = .arr (records.map fun record => .obj record.columns)

/-- So many rows from one row on. -/
def window (rows : List Record) (offset size : Nat) : List Record :=
  (rows.drop offset).take size

theorem length_window (rows : List Record) (offset size : Nat) :
    (window rows offset size).length = min size (rows.length - offset) := by
  rw [window, List.length_take, List.length_drop]

theorem window_append_drop (rows : List Record) (offset size : Nat) :
    window rows offset size ++ rows.drop (offset + size) = rows.drop offset := by
  rw [window, ← List.drop_drop, List.take_append_drop]

theorem window_sublist (rows : List Record) (offset size : Nat) :
    (window rows offset size).Sublist rows :=
  (List.take_sublist _ _).trans (List.drop_sublist _ _)

/-- A request for a page at an address gets this page of the rows that it chooses. -/
def Serves (server : Server σ) (address : Address) (chosen : Fields → List Record) : Prop :=
  ∀ (s : σ) (request : Request) (offset size : Nat), request.address = address →
    Fields.get request.body "Offset" = .int offset →
    Fields.get request.body "PageSize" = .int size →
    (server s request).1.Lists (window (chosen request.body) offset size)

/-- A response that is taken ends the retry loop at once. -/
theorem exchange_run_of_accepts {request : Request} {s : σ} {r : Response} {body : Fields}
    (hreply : (server s request).1 = .response r) (haccepts : r.Accepts body) (endpoint : String)
    (delay : Number) (budget : Nat) :
    (exchange endpoint request delay budget).run server s =
      ⟨.ok body, [.sent request], (server s request).2⟩ := by
  have houtcome : (server s request).1.outcome endpoint = .ok body := by
    rw [hreply, Reply.outcome_response, haccepts.outcome_eq endpoint]
  have hlimit : ¬ (server s request).1.isRateLimit = true := by
    rw [hreply, Reply.isRateLimit, beq_iff_eq]
    exact Response.status_ne_rateLimit haccepts.status_lt
  cases budget with
  | zero => rw [exchange, Call.run_send, houtcome, Call.run_done]
  | succ budget => rw [exchange, Call.run_send, if_neg hlimit, houtcome, Call.run_done]

end Remote

namespace Page

/-- A page that was asked for with this offset and limit and shows these records. -/
structure Shows (page : Page) (offset limit : Nat) (records : List Record) : Prop where
  records_eq : page.records = records
  offset_eq : page.offset = offset
  limit_eq : page.limit = limit

theorem filterMap_record? (records : List Record) :
    (records.map fun record => Value.obj record.columns).filterMap record? = records := by
  rw [List.filterMap_map]
  exact List.filterMap_some

theorem isMalformed_of_data {body : Fields} {items : List Value}
    (hdata : (Fields.get body "Response").field "Data" = .arr items) : isMalformed body = false := by
  cases hresponse : Fields.get body "Response" with
  | obj fields =>
    rw [hresponse] at hdata
    rw [isMalformed, hresponse]
    change hasNoRows (Fields.get fields "Data") = false
    rw [show Fields.get fields "Data" = .arr items from hdata]
    rfl
  | _ =>
    rw [hresponse] at hdata
    cases hdata

theorem query_of_ofResponse {site : Int} {query : Query.Payload} {response : Value} {page : Page}
    (h : ofResponse site query response = .ok page) :
    page.offset = query.offset ∧ page.limit = query.limit := by
  simp only [ofResponse, bind_eq_ok_iff, pure_eq_ok_iff] at h
  obtain ⟨_, -, _, -, _, -, rfl⟩ := h
  exact ⟨rfl, rfl⟩

theorem listed_of_data {body : Fields} {records : List Record}
    (hdata : (Fields.get body "Response").field "Data" =
      .arr (records.map fun record => .obj record.columns)) : listed body = records := by
  rw [listed, hdata, rowsOf, filterMap_record?]

/-- What lists records is read as a page that shows them. -/
theorem ofResponse_of_data {site : Int} {query : Query.Payload} {offset limit : Nat}
    (hoffset : query.offset = offset) (hlimit : query.limit = limit) {body : Fields}
    {records : List Record} (hdata : (Fields.get body "Response").field "Data" =
      .arr (records.map fun record => .obj record.columns)) :
    ∃ page, ofResponse site query (.obj body) = .ok page ∧ page.Shows offset limit records := by
  have hread := ofResponse_result site query body
  rw [isMalformed_of_data hdata, if_neg Bool.false_ne_true] at hread
  obtain ⟨page, hpage, hrecords⟩ := hread
  obtain ⟨hpageOffset, hpageLimit⟩ := query_of_ofResponse hpage
  refine ⟨page, hpage, ?_, hpageOffset.trans hoffset, hpageLimit.trans hlimit⟩
  rw [hrecords, listed_of_data hdata]

end Page

/-- What a reply lists can be written: it was read. -/
theorem Remote.Reply.Lists.isWritable {reply : Reply} {records : List Record}
    (h : reply.Lists records) {record : Record} (hmem : record ∈ records) :
    areFieldsWritable record.columns = true := by
  obtain ⟨r, body, -, haccepts, hdata⟩ := h
  rw [← Page.listed_of_data hdata] at hmem
  exact Page.isWritable_of_mem_listed (Value.isWritable_of_decode haccepts.decoded) hmem

namespace Operation

theorem page_of_query (c : Client) (endpoint : String) (query : Query.Payload) :
    Fields.get (c.request endpoint query.request).body "Offset" = .int query.offset ∧
      Fields.get (c.request endpoint query.request).body "PageSize" = .int query.limit := by
  rw [c.request_body]
  exact ⟨rfl, rfl⟩

/-- Asking a remote for a page of the rows that it holds takes one request and shows that page. -/
theorem page_run_of_serves (c : Client) {site : Int} (hsite : (Value.int site).isWritable = true)
    (query : Query.Payload) {offset limit : Nat} (hoffset : query.offset = offset)
    (hlimit : query.limit = limit) {σ : Type} {server : Server σ} {chosen : Fields → List Record}
    (hserves : Serves server (c.base.below (Client.itemsEndpoint site)) chosen) (s : σ) :
    let request := c.request (Client.itemsEndpoint site) query.request
    ∃ page, ((source c).page site query).run server s =
        ⟨.ok page, [.sent request], (server s request).2⟩ ∧
      page.Shows offset limit (window (chosen request.body) offset limit) ∧
      ∀ record ∈ page.records, areFieldsWritable record.columns = true := by
  intro request
  obtain ⟨hrequestOffset, hrequestLimit⟩ := page_of_query c (Client.itemsEndpoint site) query
  rw [hoffset] at hrequestOffset
  rw [hlimit] at hrequestLimit
  have hlists := hserves s request offset limit rfl hrequestOffset hrequestLimit
  have hwritable {record : Record} (hmem : record ∈ window (chosen request.body) offset limit) :
      areFieldsWritable record.columns = true := hlists.isWritable hmem
  obtain ⟨r, body, hreply, haccepts, hdata⟩ := hlists
  obtain ⟨page, hpage, hshows⟩ := Page.ofResponse_of_data hoffset hlimit hdata
  refine ⟨page, ?_, hshows, fun record hmem => hwritable (hshows.records_eq ▸ hmem)⟩
  rw [page_run, c.items_eq_exchange hsite, exchange_run_of_accepts hreply haccepts]
  rw [Run.mapResult, Except.bind, hpage]

end Operation

/-! ### A remote of this kind -/

namespace Remote

def listing (records : List Record) : Fields :=
  [("Response", .obj [("Data", .arr (records.map fun record => .obj record.columns))])]

def listingBytes (records : List Record) : List UInt8 :=
  (Value.obj (listing records)).print.toUTF8.toList

/-- The remote that holds rows and nothing else; what is no request for a page gets no reply. -/
def storeServer (chosen : Fields → List Record) : Server Unit := fun _ request =>
  match Fields.get request.body "Offset", Fields.get request.body "PageSize" with
  | .num (.int offset), .num (.int size) =>
    (.response { body := listingBytes (window (chosen request.body) offset.toNat size.toNat) }, ())
  | _, _ => (.timeout, ())

theorem lists_of_decode {records : List Record}
    (hdecode : decode (listingBytes records) = .ok (.obj (listing records))) :
    (Reply.response { body := listingBytes records }).Lists records := by
  refine ⟨_, listing records, rfl, ?_, rfl⟩
  constructor
  · exact show 200 < 400 by decide
  · exact hdecode
  · rintro ⟨n, hn, -⟩
    cases hn

/-- It serves whatever rows it can write. -/
theorem storeServer_serves {chosen : Fields → List Record} {rows : List Record}
    (hchosen : ∀ body, (chosen body).Sublist rows)
    (hdecode : ∀ records ∈ rows.sublists,
      decode (listingBytes records) = .ok (.obj (listing records))) (address : Address) :
    Serves (storeServer chosen) address chosen := by
  intro s request offset size _ hoffset hsize
  have hreply : (storeServer chosen s request).1 =
      .response { body := listingBytes (window (chosen request.body) offset size) } := by
    rw [storeServer, hoffset, hsize]
    rfl
  rw [hreply]
  apply lists_of_decode
  apply hdecode
  rw [List.mem_sublists]
  exact (window_sublist _ _ _).trans (hchosen request.body)

end Remote

end IssueGateway
