import IssueGateway.Proofs.Query.View
import Mathlib.Data.List.Forall2
import Mathlib.Tactic.SplitIfs

/-!
# A request read back

A request leaves out its view and the parts of it that are empty, so a reader takes what is absent
for empty (`Payload.ofRequest?`) and gets the query that was rendered. What a request tells of a
description are six parts, each in full: the request is the same, in the order of its entries or as
data whatever the order, just if the six parts are (`request_lossless`).
-/

namespace IssueGateway

open Json

namespace Assoc

variable {β : Type}

/-- Maps that hold the same under every key, in whatever order. -/
def SameEntries (m n : Assoc String β) : Prop :=
  ∀ key, m.get? key = n.get? key

theorem get?_cons (first : String) (value : β) (rest : Assoc String β) (key : String) :
    get? ((first, value) :: rest) key = if key = first then some value else get? rest key := by
  rw [get?, List.lookup_cons]
  by_cases h : key = first
  · rw [beq_iff_eq.2 h, if_pos h]
  · rw [beq_eq_false_iff_ne.2 h, if_neg h]
    rfl

theorem get?_cons_self (entry : String × β) (rest : Assoc String β) :
    get? (entry :: rest) entry.1 = some entry.2 :=
  (get?_cons entry.1 entry.2 rest entry.1).trans (if_pos rfl)

end Assoc

namespace Json

/-- Values that are the same data: the order in which objects hold their fields does not count. -/
inductive SameData : Value → Value → Prop where
  | refl (v : Value) : SameData v v
  | arr {items others : List Value} (h : List.Forall₂ SameData items others) :
    SameData (.arr items) (.arr others)
  | obj {fields others : Fields}
    (h : ∀ key, Option.Rel SameData (Assoc.get? fields key) (Assoc.get? others key)) :
    SameData (.obj fields) (.obj others)

theorem sameData_int_iff {m n : Int} : SameData (.int m) (.int n) ↔ m = n := by
  constructor
  · intro h
    cases h
    rfl
  · rintro rfl
    exact .refl _

theorem sameData_str_iff {s t : String} : SameData (.str s) (.str t) ↔ s = t := by
  constructor
  · intro h
    cases h
    rfl
  · rintro rfl
    exact .refl _

theorem rel_sameData_refl (held : Option Value) : Option.Rel SameData held held := by
  cases held with
  | none => exact .none
  | some v => exact .some (.refl v)

theorem sameData_obj_iff {fields others : Fields} : SameData (.obj fields) (.obj others) ↔
    ∀ key, Option.Rel SameData (Assoc.get? fields key) (Assoc.get? others key) := by
  constructor
  · intro h
    cases h with
    | refl => exact fun key => rel_sameData_refl _
    | obj h => exact h
  · exact .obj

theorem rel_str_iff {s t : Option String} :
    Option.Rel SameData (s.map .str) (t.map .str) ↔ s = t := by
  cases s <;> cases t <;> simp [sameData_str_iff]

end Json

namespace Query

/-- An object as a part of another one: left out if there is nothing in it. -/
def part? (fields : Fields) : Option Value :=
  if fields.isEmpty then none else some (.obj fields)

/-- What is in a part: nothing if it is absent. -/
def inPart? : Option Value → Option Fields
  | none => some []
  | some (.obj fields) => some fields
  | some _ => none

theorem inPart?_part? (fields : Fields) : inPart? (part? fields) = some fields := by
  cases fields <;> rfl

theorem part?_eq_none_iff {fields : Fields} : part? fields = none ↔ fields = [] := by
  cases fields <;> simp [part?]

/-- Parts are the same data just if what is in them is; being absent is being empty. -/
theorem rel_part?_iff {fields others : Fields} :
    Option.Rel SameData (part? fields) (part? others) ↔
      ∀ key, Option.Rel SameData (Assoc.get? fields key) (Assoc.get? others key) := by
  cases fields with
  | nil =>
    cases others with
    | nil => exact ⟨fun _ _ => .none, fun _ => .none⟩
    | cons entry rest =>
      refine ⟨nofun, fun h => ?_⟩
      have hfirst := h entry.1
      rw [Assoc.get?_cons_self] at hfirst
      cases hfirst
  | cons entry rest =>
    cases others with
    | nil =>
      refine ⟨nofun, fun h => ?_⟩
      have hfirst := h entry.1
      rw [Assoc.get?_cons_self] at hfirst
      cases hfirst
    | cons other others =>
      rw [← sameData_obj_iff]
      exact Option.rel_some_some

/-- Texts as the fields of an object. -/
def texts (m : Assoc String String) : Fields :=
  m.map fun (key, s) => (key, .str s)

def textOf? : Value → Option String
  | .str s => some s
  | _ => none

/-- The texts in the fields of an object, if there is nothing else in it. -/
def readTexts? (fields : Fields) : Option (Assoc String String) :=
  fields.mapM fun (key, v) => (textOf? v).map fun s => (key, s)

theorem readTexts?_texts (m : Assoc String String) : readTexts? (texts m) = some m := by
  induction m with
  | nil => rfl
  | cons entry rest ih =>
    rw [readTexts?, texts, List.map_cons, List.mapM_cons]
    change (readTexts? (texts rest)).bind _ = _
    rw [ih]
    rfl

theorem get?_texts (m : Assoc String String) (key : String) :
    Assoc.get? (texts m) key = (m.get? key).map .str := by
  induction m with
  | nil => rfl
  | cons entry rest ih =>
    change Assoc.get? ((entry.1, Value.str entry.2) :: texts rest) key =
      (Assoc.get? ((entry.1, entry.2) :: rest) key).map Value.str
    rw [Assoc.get?_cons, Assoc.get?_cons, ih]
    split <;> rfl

theorem rel_texts_iff {m n : Assoc String String} :
    Option.Rel SameData (part? (texts m)) (part? (texts n)) ↔ m.SameEntries n := by
  rw [rel_part?_iff]
  refine forall_congr' fun key => ?_
  rw [get?_texts, get?_texts, rel_str_iff]

/-- The texts in a part. -/
def columnsIn? (held : Option Value) : Option (Assoc String String) :=
  (inPart? held).bind readTexts?

theorem columnsIn?_texts (m : Assoc String String) : columnsIn? (part? (texts m)) = some m := by
  rw [columnsIn?, inPart?_part?]
  exact readTexts?_texts m

/-- The text to search for: none if it is absent. -/
def searchIn? : Option Value → Option (Option String)
  | none => some none
  | some v => (textOf? v).map some

theorem searchIn?_str (s : Option String) : searchIn? (s.map .str) = some s := by
  cases s <;> rfl

def intOf? : Value → Option Int
  | .num (.int n) => some n
  | _ => none

theorem filled_filled (s : Option String) : filled (filled s) = filled s := by
  cases s with
  | none => rfl
  | some s =>
    rw [filled]
    split
    · rfl
    · rename_i hs
      exact if_neg hs

theorem filled_eq_some_iff {s : Option String} {t : String} :
    filled s = some t ↔ s = some t ∧ t ≠ "" := by
  cases s with
  | none => exact ⟨nofun, nofun⟩
  | some s =>
    rw [filled]
    split
    · rename_i hs
      rw [String.isEmpty_iff] at hs
      exact ⟨nofun, fun h => absurd hs (Option.some.inj h.1 ▸ h.2)⟩
    · rename_i hs
      rw [String.isEmpty_iff] at hs
      exact ⟨fun h => ⟨h, Option.some.inj h ▸ hs⟩, And.left⟩

theorem filled_eq_none_iff {s : Option String} : filled s = none ↔ s = none ∨ s = some "" := by
  cases s with
  | none => simp [filled]
  | some s => simp [filled]

theorem get?_searchPart (search : Option String) (name : String) :
    Assoc.get? (searchPart search) name =
      if name = "Search" then (filled search).map .str else none := by
  cases search with
  | none => exact (ite_self none).symm
  | some s =>
    rw [searchPart, filled]
    cases s.isEmpty with
    | true => exact (ite_self none).symm
    | false => exact Assoc.get?_cons _ _ _ _

theorem get?_viewPart (part : String) (m : Assoc String String) (name : String) :
    Assoc.get? (viewPart part m) name = if name = part then part? (texts m) else none := by
  cases m with
  | nil => exact (ite_self none).symm
  | cons entry rest => exact Assoc.get?_cons _ _ _ _

namespace Payload

variable {p q : Payload}

/-- What a view holds under each name. -/
theorem get?_view (p : Payload) (name : String) : Assoc.get? p.view name =
    if name = "Search" then (filled p.search).map .str
    else if name = "ColumnFilterHash" then part? (texts p.columnFilters)
    else if name = "ColumnFilterExpressions" then part? (texts p.columnExpressions)
    else if name = "ColumnSorterHash" then part? (texts p.sorters)
    else none := by
  have happend : ∀ fields others : Fields, Assoc.get? (fields ++ others) name =
      (Assoc.get? fields name).or (Assoc.get? others name) :=
    fun _ _ => List.lookup_append
  rw [view, happend, happend, happend, get?_searchPart, get?_viewPart, get?_viewPart, get?_viewPart]
  split_ifs <;> simp_all

theorem get?_request (p : Payload) (name : String) : Assoc.get? p.request name =
    if name = "Offset" then some (.int p.offset)
    else if name = "PageSize" then some (.int p.limit)
    else if name = "View" then part? p.view
    else none := by
  rw [request, List.cons_append, List.cons_append, List.nil_append, Assoc.get?_cons,
    Assoc.get?_cons, part?]
  cases p.view.isEmpty with
  | true => simp [Assoc.get?]
  | false =>
    rw [if_neg Bool.false_ne_true, Assoc.get?_cons]
    rfl

/-- The four parts of a view that are not empty are all there is in it. -/
theorem view_eq_nil_iff : p.view = [] ↔
    filled p.search = none ∧ p.columnFilters = [] ∧ p.columnExpressions = [] ∧ p.sorters = [] := by
  have hsearch : searchPart p.search = [] ↔ filled p.search = none := by
    cases p.search with
    | none => simp [searchPart, filled]
    | some s => cases hs : s.isEmpty <;> simp [searchPart, filled, hs]
  have hpart : ∀ name m, viewPart name m = [] ↔ m = [] := by
    intro name m
    cases m <;> simp [viewPart]
  rw [view, List.append_eq_nil_iff, List.append_eq_nil_iff, List.append_eq_nil_iff, hsearch, hpart,
    hpart, hpart, and_assoc, and_assoc]

/-- Reads a request. An absent view, and an absent part of a view, is an empty one. -/
def ofRequest? (request : Fields) : Option Payload := do
  let view ← inPart? (Assoc.get? request "View")
  let search ← searchIn? (Assoc.get? view "Search")
  let columnFilters ← columnsIn? (Assoc.get? view "ColumnFilterHash")
  let columnExpressions ← columnsIn? (Assoc.get? view "ColumnFilterExpressions")
  let sorters ← columnsIn? (Assoc.get? view "ColumnSorterHash")
  let offset ← (Assoc.get? request "Offset").bind intOf?
  let limit ← (Assoc.get? request "PageSize").bind intOf?
  return { search, columnFilters, columnExpressions, sorters, offset, limit }

/-- A request tells its query, an empty search text counting as none. -/
theorem ofRequest?_request (p : Payload) :
    ofRequest? p.request = some { p with search := filled p.search } := by
  have hview : inPart? (Assoc.get? p.request "View") = some p.view := by
    rw [get?_request]
    exact inPart?_part? p.view
  have hsearch : searchIn? (Assoc.get? p.view "Search") = some (filled p.search) := by
    rw [get?_view]
    exact searchIn?_str _
  have hfilters : columnsIn? (Assoc.get? p.view "ColumnFilterHash") = some p.columnFilters := by
    rw [get?_view]
    exact columnsIn?_texts _
  have hexpressions : columnsIn? (Assoc.get? p.view "ColumnFilterExpressions") =
      some p.columnExpressions := by
    rw [get?_view]
    exact columnsIn?_texts _
  have hsorters : columnsIn? (Assoc.get? p.view "ColumnSorterHash") = some p.sorters := by
    rw [get?_view]
    exact columnsIn?_texts _
  have hoffset : (Assoc.get? p.request "Offset").bind intOf? = some p.offset := by
    rw [get?_request]
    rfl
  have hlimit : (Assoc.get? p.request "PageSize").bind intOf? = some p.limit := by
    rw [get?_request]
    rfl
  rw [ofRequest?]
  simp only [hview, hsearch, hfilters, hexpressions, hsorters, hoffset, hlimit, Option.bind_eq_bind,
    Option.bind_some, Option.pure_def]

/-- Requests are the same data just if the parts of their queries are. -/
theorem sameData_request_iff : SameData (.obj p.request) (.obj q.request) ↔
    filled p.search = filled q.search ∧ p.columnFilters.SameEntries q.columnFilters ∧
      p.columnExpressions.SameEntries q.columnExpressions ∧ p.sorters.SameEntries q.sorters ∧
      p.offset = q.offset ∧ p.limit = q.limit := by
  have hview : Option.Rel SameData (part? p.view) (part? q.view) ↔
      filled p.search = filled q.search ∧ p.columnFilters.SameEntries q.columnFilters ∧
        p.columnExpressions.SameEntries q.columnExpressions ∧ p.sorters.SameEntries q.sorters := by
    rw [rel_part?_iff, ← rel_str_iff, ← rel_texts_iff, ← rel_texts_iff, ← rel_texts_iff]
    simp only [get?_view]
    constructor
    · intro h
      exact ⟨h "Search", h "ColumnFilterHash", h "ColumnFilterExpressions", h "ColumnSorterHash"⟩
    · rintro ⟨hsearch, hfilters, hexpressions, hsorters⟩ name
      split_ifs
      · exact hsearch
      · exact hfilters
      · exact hexpressions
      · exact hsorters
      · exact .none
  have hrequest : SameData (.obj p.request) (.obj q.request) ↔
      Option.Rel SameData (part? p.view) (part? q.view) ∧ p.offset = q.offset ∧
        p.limit = q.limit := by
    rw [sameData_obj_iff, ← sameData_int_iff, ← sameData_int_iff]
    simp only [get?_request]
    constructor
    · intro h
      exact ⟨h "View", Option.rel_some_some.1 (h "Offset"), Option.rel_some_some.1 (h "PageSize")⟩
    · rintro ⟨hview, hoffset, hlimit⟩ name
      split_ifs
      · exact .some hoffset
      · exact .some hlimit
      · exact hview
      · exact .none
  rw [hrequest, hview]
  tauto

end Payload

namespace Description

/-- A description's query: an empty text is none, and there is one sorter if a column
is named, in descending order unless another is given. -/
structure Yields (d : Description) (p : Payload) : Prop where
  search_eq_some_iff : ∀ s, p.search = some s ↔ d.search = some s ∧ s ≠ ""
  columnFilters_eq : p.columnFilters = d.filters
  columnExpressions_eq : p.columnExpressions = rangeExpressions d.dateRanges d.numberRanges
  sorters_eq_nil_iff : p.sorters = [] ↔ d.sortBy = none ∨ d.sortBy = some ""
  sorters_eq : ∀ column, d.sortBy = some column → column ≠ "" → ∃ order,
    p.sorters = [(column, order)] ∧ ((d.sortOrder = none ∨ d.sortOrder = some "") → order = "desc") ∧
      ∀ given, d.sortOrder = some given → given ≠ "" → order = given
  offset_eq : p.offset = d.offset
  limit_eq : p.limit = d.limit

theorem yields_payload (d : Description) : d.Yields d.payload where
  search_eq_some_iff _ := filled_eq_some_iff
  columnFilters_eq := rfl
  columnExpressions_eq := rfl
  sorters_eq_nil_iff := by
    rw [← filled_eq_none_iff]
    change d.sorters = [] ↔ _
    rw [sorters]
    cases filled d.sortBy <;> simp
  sorters_eq column hcolumn hne := by
    refine ⟨(filled d.sortOrder).getD defaultSortOrder, ?_, fun hnone => ?_, fun given h hgiven => ?_⟩
    · change d.sorters = _
      rw [sorters, filled_eq_some_iff.2 ⟨hcolumn, hne⟩]
    · rw [filled_eq_none_iff.2 hnone]
      rfl
    · rw [filled_eq_some_iff.2 ⟨h, hgiven⟩]
      rfl
  offset_eq := rfl
  limit_eq := rfl

/-- Descriptions whose six parts agree, maps being compared by `same`. -/
structure SameParts (same : Assoc String String → Assoc String String → Prop)
    (d e : Description) : Prop where
  search : filled d.search = filled e.search
  filters : same d.filters e.filters
  expressions : same (rangeExpressions d.dateRanges d.numberRanges)
    (rangeExpressions e.dateRanges e.numberRanges)
  sorters : same d.sorters e.sorters
  offset : d.offset = e.offset
  limit : d.limit = e.limit

theorem sameParts_iff {same : Assoc String String → Assoc String String → Prop}
    {d e : Description} : d.SameParts same e ↔
      filled d.search = filled e.search ∧ same d.filters e.filters ∧
        same (rangeExpressions d.dateRanges d.numberRanges)
          (rangeExpressions e.dateRanges e.numberRanges) ∧
        same d.sorters e.sorters ∧ d.offset = e.offset ∧ d.limit = e.limit :=
  ⟨fun h => ⟨h.1, h.2, h.3, h.4, h.5, h.6⟩, fun ⟨h1, h2, h3, h4, h5, h6⟩ => ⟨h1, h2, h3, h4, h5, h6⟩⟩

theorem ofRequest?_payload (d : Description) :
    Payload.ofRequest? d.payload.request = some d.payload := by
  rw [Payload.ofRequest?_request, payload, filled_filled]

theorem request_eq_iff {d e : Description} :
    d.payload.request = e.payload.request ↔ d.SameParts Eq e := by
  have hpayload : d.payload.request = e.payload.request ↔ d.payload = e.payload := by
    refine ⟨fun h => ?_, congrArg Payload.request⟩
    rw [← Option.some.injEq, ← ofRequest?_payload, h, ofRequest?_payload]
  rw [hpayload, payload, payload, Payload.mk.injEq, sameParts_iff]

theorem sameData_request_iff {d e : Description} :
    SameData (.obj d.payload.request) (.obj e.payload.request) ↔
      d.SameParts Assoc.SameEntries e := by
  rw [Payload.sameData_request_iff, sameParts_iff, payload, payload, filled_filled, filled_filled]

end Description

/-- The values of a view are not empty. -/
theorem IsPart.isPresent {part : String × Value} (h : IsPart part) : part.2.isPresent = true := by
  cases h with
  | search s hs => simpa [Value.isPresent] using hs
  | columns name entries hentries => simpa [Value.isPresent] using hentries

/-- A request tells all of a query, and of a description the six parts that the query is made of. It
has a view just if one of the view's four parts is not empty, and nothing empty stands in a view.
Descriptions have one request, as a text or as data, just if their six parts agree. -/
theorem request_lossless :
    (∀ d : Description, d.Yields d.payload ∧
      Payload.ofRequest? d.payload.request = some d.payload ∧
      (Assoc.get? d.payload.request "View" = none ↔ d.payload.search = none ∧
        d.payload.columnFilters = [] ∧ d.payload.columnExpressions = [] ∧
        d.payload.sorters = []) ∧
      ∀ view, Assoc.get? d.payload.request "View" = some view →
        ∃ parts, view = .obj parts ∧ ∀ part ∈ parts, part.2.isPresent = true) ∧
    ∀ d e : Description,
      (d.payload.request = e.payload.request ↔ d.SameParts Eq e) ∧
      (SameData (.obj d.payload.request) (.obj e.payload.request) ↔
        d.SameParts Assoc.SameEntries e) := by
  refine ⟨fun d => ⟨d.yields_payload, d.ofRequest?_payload, ?_, fun view hview => ?_⟩,
    fun d e => ⟨Description.request_eq_iff, Description.sameData_request_iff⟩⟩
  · have hsearch : filled d.payload.search = d.payload.search := filled_filled d.search
    rw [Payload.get?_request]
    change part? d.payload.view = none ↔ _
    rw [part?_eq_none_iff, Payload.view_eq_nil_iff, hsearch]
  · rw [Payload.get?_request] at hview
    change part? d.payload.view = some view at hview
    rw [part?] at hview
    split at hview
    · cases hview
    · exact ⟨d.payload.view, (Option.some.inj hview).symm,
        fun part hpart => (d.payload.hasParts_view.filled part hpart).isPresent⟩

/-- A search with an order but no column to sort by, and an empty text for a filter. -/
theorem request_lossless_without_column :
    let d : Description :=
      { search := some "", filters := [("ClassA", "")], sortOrder := some "asc", limit := 50 }
    let e : Description := { filters := [("ClassA", "")], sortBy := some "", limit := 50 }
    d.Yields { columnFilters := [("ClassA", "")], limit := 50 } ∧
      Payload.ofRequest? d.payload.request =
        some { columnFilters := [("ClassA", "")], limit := 50 } ∧
      d.payload.request = [("Offset", .int 0), ("PageSize", .int 50),
        ("View", .obj [("ColumnFilterHash", .obj [("ClassA", .str "")])])] ∧
      d.payload.request = e.payload.request ∧
      ∃ parts, Assoc.get? d.payload.request "View" = some (.obj parts) ∧
        ∀ part ∈ parts, part.2.isPresent = true := by
  intro d e
  obtain ⟨hdescription, hrequests⟩ := request_lossless
  obtain ⟨hyields, hread, -, hfilled⟩ := hdescription d
  obtain ⟨parts, hparts, hpresent⟩ := hfilled (.obj _) rfl
  refine ⟨hyields, hread, rfl, (hrequests d e).1.2 ?_, _, rfl, ?_⟩
  · exact ⟨rfl, rfl, rfl, rfl, rfl, rfl⟩
  · cases hparts
    exact hpresent

end Query

end IssueGateway
