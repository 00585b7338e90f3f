import IssueGateway.Operation.Browse
import IssueGateway.Proofs.Json.Text
import IssueGateway.Proofs.Operation.Demands
import IssueGateway.Proofs.Remote.Store

/-!
# Looking up what was listed

An issue is looked up by the text of its `IssueId`, while a record that has none is known by its
`ResultId`. So of the records that a site lists, those that have their id as `IssueId` are found
under it and the others are not (`getIssue_of_listed`). That needs ids that are integers and belong
to one record each; the text of such an id is that of no other value. An id without a text, which no
reply can list, is not looked up at all.
-/

namespace IssueGateway

open Json Remote

/-! ### Rows that pass filters -/

namespace Remote

/-- The equality filters in the body of a request. -/
def columnFilters (body : Fields) : Fields :=
  match (Fields.get body "View").field "ColumnFilterHash" with
  | .obj filters => filters
  | _ => []

/-- A row passes if it has each column, and the text of the value there is what is asked for. -/
def passes (filters : Fields) (record : Record) : Bool :=
  filters.all fun (column, wanted) =>
    (Assoc.get? record.columns column).any fun v => decide (Value.str v.text = wanted)

/-- The rows that pass the filters of a request. -/
def matching (rows : List Record) (body : Fields) : List Record :=
  rows.filter (passes (columnFilters body))

theorem matching_sublist (rows : List Record) (body : Fields) : (matching rows body).Sublist rows :=
  List.filter_sublist

def lookupFilters (id : Int) : Fields :=
  [("IssueId", .str (String.ofList (Text.integer id)))]

theorem columnFilters_of_lookup (c : Client) (endpoint : String) (id : Int) :
    columnFilters (c.request endpoint (Source.idQuery id).request).body = lookupFilters id := by
  rw [c.request_body]
  rfl

end Remote

/-! ### Records by their ids -/

section Ids

variable {record : Record} {id n : Int}

theorem Record.id_of_issueId (hissue : record.get "IssueId" = .int n) (hn : n ≠ 0) :
    record.id = .int n := by
  have hpresent : (Value.int n).isPresent = true := by
    simp [Value.isPresent, Value.int, Number.isZero, hn]
  rw [Record.id, hissue, Value.orElse, if_pos hpresent]

theorem Record.isWritable_id (h : areFieldsWritable record.columns = true) :
    record.id.isWritable = true := by
  rw [Record.id, Value.orElse]
  split
  · exact isWritable_get h "IssueId"
  · exact isWritable_get h "ResultId"

/-- With an id that is an integer, a record passes just if this is its `IssueId`: a text there would
be its id. -/
theorem passes_lookup_iff (hid : record.id = .int n) :
    passes (lookupFilters id) record = true ↔ record.get "IssueId" = .int id := by
  simp only [passes, lookupFilters, List.all_cons, List.all_nil, Bool.and_true, Record.get,
    Fields.get]
  cases hvalue : Assoc.get? record.columns "IssueId" with
  | none =>
    refine iff_of_false Bool.false_ne_true fun hnull => ?_
    cases hnull
  | some v =>
    rw [Option.any_some, Option.getD_some, decide_eq_true_iff, Value.str.injEq,
      v.text_eq_integer_iff]
    refine or_iff_left ?_
    rintro rfl
    have hpresent : (Value.str (String.ofList (Text.integer id))).isPresent = true := by
      simp [Value.isPresent, Text.integer_ne_nil]
    rw [Record.id, Record.get, Fields.get, hvalue, Option.getD_some, Value.orElse,
      if_pos hpresent] at hid
    cases hid

section Rows

variable {rows : List Record} (hids : ∀ record ∈ rows, ∃ n : Int, 0 < n ∧ record.id = .int n)

include hids

theorem find?_lookup_eq_some_iff (hdistinct : (rows.map Record.id).Nodup) (hid : 0 < id) :
    rows.find? (passes (lookupFilters id)) = some record ↔
      record ∈ rows ∧ record.get "IssueId" = .int id := by
  constructor
  · intro hfound
    have hmem := List.mem_of_find?_eq_some hfound
    obtain ⟨n, -, hn⟩ := hids record hmem
    exact ⟨hmem, (passes_lookup_iff hn).1 (List.find?_some hfound)⟩
  · rintro ⟨hmem, hissue⟩
    have hown {other : Record} (hother : other.get "IssueId" = .int id) : other.id = .int id :=
      Record.id_of_issueId hother (ne_of_gt hid)
    cases hfound : rows.find? (passes (lookupFilters id)) with
    | none =>
      exact absurd ((passes_lookup_iff (hown hissue)).2 hissue)
        (List.find?_eq_none.1 hfound record hmem)
    | some other =>
      have hother := List.mem_of_find?_eq_some hfound
      obtain ⟨n, -, hn⟩ := hids other hother
      have hsame : other.id = record.id := by
        rw [hown hissue, hown ((passes_lookup_iff hn).1 (List.find?_some hfound))]
      rw [List.inj_on_of_nodup_map hdistinct hother hmem hsame]

/-- No other record has the id of one that is known by its `ResultId` as its `IssueId`. -/
theorem issueId_ne_of_resultId (hdistinct : (rows.map Record.id).Nodup) (hmem : record ∈ rows)
    (hid : record.id = .int id) (hresult : record.get "IssueId" ≠ .int id) :
    ∀ other ∈ rows, other.get "IssueId" ≠ .int id := by
  intro other hother hissue
  obtain ⟨n, hpositive, hn⟩ := hids record hmem
  rw [hid] at hn
  cases hn
  have hsame : other.id = record.id := by
    rw [Record.id_of_issueId hissue (ne_of_gt hpositive), hid]
  rw [List.inj_on_of_nodup_map hdistinct hother hmem hsame] at hissue
  exact hresult hissue

end Rows

end Ids

namespace Operation

section Lookup

variable {c : Client} {site : Int} {rows : List Record} {σ : Type} {server : Server σ}

theorem checkLookup_eq (hsite : 0 < site) {id : Int} (hid : 0 < id) :
    checkLookup (.int site) (.int id) = .ok (site, id) := by
  rw [checkLookup, checkId_eq_ok_iff.2 ⟨rfl, hsite⟩, checkId_eq_ok_iff.2 ⟨rfl, hid⟩]
  rfl

/-- Where one of the two ids cannot be written, nothing is asked. -/
theorem getIssue_of_not_isWritable (hsite : 0 < site) {id : Int} (hid : 0 < id)
    (hlong : ¬ ((Value.int site).isWritable = true ∧ (Value.int id).isWritable = true)) (s : σ) :
    ((getIssue c (.int site) (.int id)).run server s).result = .error .integerTooLong := by
  have hrecord : ((source c).record? site id).run server s = ⟨.error .integerTooLong, [], s⟩ := by
    rw [record?_eq]
    by_cases hid : (Value.int id).isWritable = true
    · have hsite : ¬ (Value.int site).isWritable := fun hsite => hlong ⟨hsite, hid⟩
      rw [if_pos hid]
      exact Call.run_bind_of_error (page_run_of_not_isWritable c hsite _ s) _
    · rw [if_neg hid]
      rfl
  rw [getIssue, run_of_check (checkLookup_eq hsite hid)]
  exact congrArg Run.result (Call.run_bind_of_error hrecord _)

variable (hwritable : (Value.int site).isWritable = true)
  (hserves : Serves server (c.base.below (Client.itemsEndpoint site)) (matching rows))

include hwritable hserves

theorem record?_result {id : Int} (hid : (Value.int id).isWritable = true) (s : σ) :
    (((source c).record? site id).run server s).result =
      .ok (rows.find? (passes (lookupFilters id))) := by
  obtain ⟨page, hrun, hshows, -⟩ := page_run_of_serves c hwritable (Source.idQuery id)
    Nat.cast_zero.symm Nat.cast_one.symm hserves s
  rw [record?_eq, if_pos hid, Call.run_bind_return, hrun, Run.mapResult_result, Except.map,
    hshows.records_eq, matching, columnFilters_of_lookup, window, List.drop_zero, List.head?_take,
    if_neg one_ne_zero, List.head?_filter]

/-- A lookup gives the first row that has the text of the id as its `IssueId`. -/
theorem getIssue_result (hsite : 0 < site) {id : Int} (hid : 0 < id)
    (hidWritable : (Value.int id).isWritable = true) (s : σ) :
    ((getIssue c (.int site) (.int id)).run server s).result =
      match rows.find? (passes (lookupFilters id)) with
      | some record => .ok record
      | none => .error (.notFound id site) := by
  rw [getIssue, run_of_check (checkLookup_eq hsite hid),
    Call.run_bind_of_ok server (record?_result hwritable hserves hidWritable s)]
  cases rows.find? (passes (lookupFilters id)) <;> rfl

theorem getIssue_of_no_issueId (hids : ∀ record ∈ rows, ∃ n : Int, 0 < n ∧ record.id = .int n)
    (hsite : 0 < site) {id : Int} (hid : 0 < id) (hidWritable : (Value.int id).isWritable = true)
    (hother : ∀ record ∈ rows, record.get "IssueId" ≠ .int id) (s : σ) :
    ((getIssue c (.int site) (.int id)).run server s).result = .error (.notFound id site) := by
  have hnone : rows.find? (passes (lookupFilters id)) = none := by
    rw [List.find?_eq_none]
    intro record hmem hpasses
    obtain ⟨n, -, hn⟩ := hids record hmem
    exact hother record hmem ((passes_lookup_iff hn).1 hpasses)
  rw [getIssue_result hwritable hserves hsite hid hidWritable s, hnone]

/-- A page lists some of the rows, and their ids can be written. -/
theorem listIssues_result {a : ListArguments} {query : Query.Payload}
    (hpassed : a.check = .ok (site, query)) (s : σ) :
    ∃ page, ((listIssues c a).run server s).result = .ok page ∧ page.records.Sublist rows ∧
      ∀ record ∈ page.records, record.id.isWritable = true := by
  have hquery : 0 ≤ query.offset ∧ 1 ≤ query.limit := by
    simp only [ListArguments.check, bind_eq_ok_iff, pure_eq_ok_iff, Prod.mk.injEq] at hpassed
    obtain ⟨_, -, _, hoffset, _, hlimit, _, -, _, -, -, rfl⟩ := hpassed
    exact ⟨(checkOffset_eq_ok_iff.1 hoffset).2, (checkLimit_eq_ok_iff.1 hlimit).2.1⟩
  obtain ⟨page, hrun, hshows, hcolumns⟩ := page_run_of_serves c hwritable query
    (Int.toNat_of_nonneg hquery.1).symm
    (Int.toNat_of_nonneg (Int.le_trans Int.one_nonneg hquery.2)).symm hserves s
  refine ⟨page, ?_, ?_, fun record hmem => Record.isWritable_id (hcolumns record hmem)⟩
  · rw [listIssues, run_of_check hpassed]
    exact congrArg Run.result hrun
  · rw [hshows.records_eq]
    exact (window_sublist _ _ _).trans (matching_sublist rows _)

end Lookup

/-- Let a site hold records whose ids are positive integers, one for each. Then a record that is
listed is what a lookup of its id gives, if this is its `IssueId`; if it is only its `ResultId`, the
lookup finds nothing. Nor does a lookup of an id that no record has. A lookup with an id that has too
many digits to be written, of the site or of the issue, fails for just that. -/
theorem getIssue_of_listed (c : Client) {site : Int} (hsite : 0 < site) {rows : List Record}
    (hids : ∀ record ∈ rows, ∃ n : Int, 0 < n ∧ record.id = .int n)
    (hdistinct : (rows.map Record.id).Nodup) {σ : Type} {server : Server σ}
    (hserves : Serves server (c.base.below (Client.itemsEndpoint site)) (matching rows)) :
    ((Value.int site).isWritable = true →
      (∀ (a : ListArguments) (query : Query.Payload), a.check = .ok (site, query) → ∀ s, ∃ page,
        ((listIssues c a).run server s).result = .ok page ∧
          ∀ record ∈ page.records, ∀ id : Int, record.id = .int id → ∀ s,
            (record.get "IssueId" = .int id →
              ((getIssue c (.int site) (.int id)).run server s).result = .ok record) ∧
            (record.get "IssueId" ≠ .int id →
              ((getIssue c (.int site) (.int id)).run server s).result =
                .error (.notFound id site))) ∧
      ∀ id : Int, 0 < id → (Value.int id).isWritable = true →
        (∀ record ∈ rows, record.id ≠ .int id) → ∀ s,
          ((getIssue c (.int site) (.int id)).run server s).result = .error (.notFound id site)) ∧
    ∀ id : Int, 0 < id →
      ¬ ((Value.int site).isWritable = true ∧ (Value.int id).isWritable = true) → ∀ s,
        ((getIssue c (.int site) (.int id)).run server s).result = .error .integerTooLong := by
  refine ⟨fun hwritable => ⟨?_, ?_⟩, fun id hid => getIssue_of_not_isWritable hsite hid⟩
  · intro a query hpassed s
    obtain ⟨page, hpage, hrecords, hlistedWritable⟩ :=
      listIssues_result hwritable hserves hpassed s
    refine ⟨page, hpage, ?_⟩
    intro record hlisted id hid s
    have hmem := hrecords.subset hlisted
    have hidWritable : (Value.int id).isWritable = true := hid ▸ hlistedWritable record hlisted
    have hpositive : 0 < id := by
      obtain ⟨n, hpositive, hn⟩ := hids record hmem
      rw [hn] at hid
      cases hid
      exact hpositive
    constructor
    · intro hissue
      have hfound := (find?_lookup_eq_some_iff hids hdistinct hpositive).2 ⟨hmem, hissue⟩
      rw [getIssue_result hwritable hserves hsite hpositive hidWritable s, hfound]
    · intro hresult
      have hother := issueId_ne_of_resultId hids hdistinct hmem hid hresult
      exact getIssue_of_no_issueId hwritable hserves hids hsite hpositive hidWritable hother s
  · intro id hpositive hidWritable hnone s
    have hother (record : Record) (hmem : record ∈ rows) : record.get "IssueId" ≠ .int id :=
      fun hissue => hnone record hmem (Record.id_of_issueId hissue (ne_of_gt hpositive))
    exact getIssue_of_no_issueId hwritable hserves hids hsite hpositive hidWritable hother s

/-- An issue and a result, of which only the issue is found. -/
theorem getIssue_of_listed_of_two :
    let rows : List Record := [⟨[("IssueId", .int 3)]⟩, ⟨[("ResultId", .int 7)]⟩]
    let c : Client := { base := {}, apiKey := "key" }
    let server := storeServer (matching rows)
    (∀ record ∈ rows, ∃ n : Int, 0 < n ∧ record.id = .int n) ∧ (rows.map Record.id).Nodup ∧
      Serves server (c.base.below (Client.itemsEndpoint 1)) (matching rows) ∧
      (∃ page, ((listIssues c { site := .int 1 }).run server ()).result = .ok page ∧
        ∀ record ∈ page.records, ∀ id : Int, record.id = .int id →
          (record.get "IssueId" = .int id →
            ((getIssue c (.int 1) (.int id)).run server ()).result = .ok record) ∧
          (record.get "IssueId" ≠ .int id →
            ((getIssue c (.int 1) (.int id)).run server ()).result = .error (.notFound id 1))) ∧
      ((getIssue c (.int 1) (.int 5)).run server ()).result = .error (.notFound 5 1) := by
  intro rows c server
  have hids : ∀ record ∈ rows, ∃ n : Int, 0 < n ∧ record.id = .int n := by
    simp only [rows, List.forall_mem_cons]
    exact ⟨⟨3, by decide, rfl⟩, ⟨7, by decide, rfl⟩, nofun⟩
  have hdistinct : (rows.map Record.id).Nodup := by decide +kernel
  have hserves : Serves server (c.base.below (Client.itemsEndpoint 1)) (matching rows) :=
    storeServer_serves (matching_sublist rows) (by decide +kernel) _
  obtain ⟨hlisted, hmissing⟩ :=
    (getIssue_of_listed c (by decide) hids hdistinct hserves).1 (by decide +kernel)
  obtain ⟨page, hpage, hrecords⟩ := hlisted { site := .int 1 } _ rfl ()
  refine ⟨hids, hdistinct, hserves, ⟨page, hpage, ?_⟩, ?_⟩
  · exact fun record hmem id hid => hrecords record hmem id hid ()
  · exact hmissing 5 (by decide) (by decide +kernel) (by decide +kernel) ()

/-- A result is listed with its id, and a lookup of this id finds nothing. -/
theorem getIssue_of_resultId :
    let rows : List Record := [⟨[("ResultId", .int 7)]⟩]
    let c : Client := { base := {}, apiKey := "key" }
    let server := storeServer (matching rows)
    (∀ record ∈ rows, ∃ n : Int, 0 < n ∧ record.id = .int n) ∧ (rows.map Record.id).Nodup ∧
      Serves server (c.base.below (Client.itemsEndpoint 1)) (matching rows) ∧
      ∃ page, ((listIssues c { site := .int 1 }).run server ()).result = .ok page ∧
        page.records = rows ∧
        ((getIssue c (.int 1) (.int 7)).run server ()).result = .error (.notFound 7 1) := by
  intro rows c server
  have hids : ∀ record ∈ rows, ∃ n : Int, 0 < n ∧ record.id = .int n := by
    simp only [rows, List.forall_mem_cons]
    exact ⟨⟨7, by decide, rfl⟩, nofun⟩
  have hserves : Serves server (c.base.below (Client.itemsEndpoint 1)) (matching rows) :=
    storeServer_serves (matching_sublist rows) (by decide +kernel) _
  have hpassed : ({ site := .int 1 } : ListArguments).check = .ok (1, { limit := 50 }) := rfl
  have hwritable : (Value.int 1).isWritable = true := by decide +kernel
  obtain ⟨page, hrun, hshows, -⟩ := page_run_of_serves c hwritable { limit := 50 }
    Nat.cast_zero.symm (Nat.cast_ofNat (n := 50)).symm hserves ()
  refine ⟨hids, by decide +kernel, hserves, page, ?_, hshows.records_eq.trans (by decide +kernel), ?_⟩
  · rw [listIssues, run_of_check hpassed, hrun]
  · exact getIssue_of_no_issueId hwritable hserves hids (by decide) (by decide)
      (by decide +kernel) (by decide +kernel) ()

end Operation

end IssueGateway
