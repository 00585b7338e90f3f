import IssueGateway.Operation.Search
import IssueGateway.Proofs.Operation.Demands
import IssueGateway.Proofs.Remote.Store

/-!
# Paging

Both operations that give a page can be asked for the next one as long as a page says that there is
more (`Walk`). A remote that holds rows is seen whole in this way: each page shows its part of the
rows, and a walk from any row on comes to an end with every row behind it once and in order
(`walk_lossless`). A page that ends with the last row of all cannot tell that it does; this costs
one more page, which is empty, and never a row.
-/

namespace IssueGateway

open Json Remote

namespace Page

/-- A page of rows: it shows its part of them, says that there is more whenever there is, and says
so wrongly just if its last row is the last of all. -/
structure IsPartOf (page : Page) (rows : List Record) (offset limit : Nat) : Prop
    extends page.Shows offset limit ((rows.drop offset).take limit) where
  more_of_rest : offset + limit < rows.length → page.hasMore = true
  wrongly_more_iff : page.hasMore = true ∧ rows.length ≤ offset + limit ↔
    offset + limit = rows.length

section Shows

variable {page : Page} {rows : List Record} {offset limit : Nat}
  (h : page.Shows offset limit (window rows offset limit)) (hlimit : 1 ≤ limit)

include h hlimit

/-- A page is full just if the rows reach its end. -/
theorem Shows.hasMore_iff : page.hasMore = true ↔ offset + limit ≤ rows.length := by
  have hlength := length_window rows offset limit
  rw [hasMore, h.records_eq, h.limit_eq, beq_iff_eq, Nat.cast_inj, hlength]
  omega

theorem Shows.isPartOf : page.IsPartOf rows offset limit where
  toShows := h
  more_of_rest hrest := (h.hasMore_iff hlimit).2 (Nat.le_of_lt hrest)
  wrongly_more_iff := by
    rw [h.hasMore_iff hlimit]
    omega

end Shows

end Page

namespace Operation

/-- An operation that gives a page, with its arguments. -/
inductive Paging where
  | listIssues (a : ListArguments)
  | search (a : SearchArguments)

namespace Paging

def arguments : Paging → Except Failure (Int × Query.Payload)
  | .listIssues a => a.check
  | .search a => a.check

/-- What passes is asked for: the arguments meet their rules and the id of the site can be
written. -/
def check (paging : Paging) : Except Failure (Int × Query.Payload) := do
  let (site, query) ← paging.arguments
  if (Value.int site).isWritable then return (site, query) else throw .integerTooLong

def call (c : Client) : Paging → Call Page
  | .listIssues a => Operation.listIssues c a
  | .search a => Operation.search c a

/-- The same arguments with another page. -/
def turnTo (offset limit : Nat) : Paging → Paging
  | .listIssues a => .listIssues { a with offset := .int offset, limit := .int limit }
  | .search a => .search { a with offset := .int offset, limit := .int limit }

variable {paging : Paging} {site : Int} {query : Query.Payload}

theorem check_eq_ok_iff : paging.check = .ok (site, query) ↔
    paging.arguments = .ok (site, query) ∧ (Value.int site).isWritable = true := by
  rw [check, bind_eq_ok_iff]
  constructor
  · rintro ⟨⟨site', query'⟩, harguments, hpassed⟩
    by_cases hwritable : (Value.int site').isWritable = true
    · obtain ⟨rfl, rfl⟩ := Prod.mk.inj (Except.ok.inj ((if_pos hwritable).symm.trans hpassed))
      exact ⟨harguments, hwritable⟩
    · cases (if_neg hwritable).symm.trans hpassed
  · rintro ⟨harguments, hwritable⟩
    exact ⟨_, harguments, if_pos hwritable⟩

/-- Arguments that pass with one page pass with any other, for the same query but for the page. -/
theorem arguments_turnTo (hpassed : paging.arguments = .ok (site, query)) (offset : Nat)
    {limit : Nat} (hlimit : 1 ≤ limit ∧ limit ≤ 1000) :
    (paging.turnTo offset limit).arguments = .ok (site, { query with offset, limit }) := by
  have hoffset : checkOffset (.int offset) = .ok offset :=
    checkOffset_eq_ok_iff.2 ⟨rfl, Int.natCast_nonneg offset⟩
  have hpageSize : checkLimit maxLimit (.int limit) = .ok limit :=
    checkLimit_eq_ok_iff.2 ⟨rfl, Int.ofNat_le.2 hlimit.1, Int.ofNat_le.2 hlimit.2⟩
  cases paging with
  | listIssues a =>
    simp only [arguments, ListArguments.check, bind_eq_ok_iff, pure_eq_ok_iff, Prod.mk.injEq]
      at hpassed
    obtain ⟨_, hsite, _, -, _, -, order, horder, filters, hfilters, rfl, rfl⟩ := hpassed
    simp only [turnTo, arguments, ListArguments.check, bind_eq_ok_iff]
    exact ⟨_, hsite, _, hoffset, _, hpageSize, order, horder, filters, hfilters, rfl⟩
  | search a =>
    simp only [arguments, SearchArguments.check, bind_eq_ok_iff, pure_eq_ok_iff, Prod.mk.injEq]
      at hpassed
    obtain ⟨_, hsite, _, -, _, -, order, horder, _, hbounds, _, hwork, rfl, rfl⟩ := hpassed
    simp only [turnTo, arguments, SearchArguments.check, bind_eq_ok_iff]
    exact ⟨_, hsite, _, hoffset, _, hpageSize, order, horder, _, hbounds, _, hwork, rfl⟩

theorem check_turnTo (hpassed : paging.check = .ok (site, query)) (offset : Nat) {limit : Nat}
    (hlimit : 1 ≤ limit ∧ limit ≤ 1000) :
    (paging.turnTo offset limit).check = .ok (site, { query with offset, limit }) := by
  rw [check_eq_ok_iff] at hpassed ⊢
  exact ⟨arguments_turnTo hpassed.1 offset hlimit, hpassed.2⟩

theorem call_run (hpassed : paging.arguments = .ok (site, query)) (c : Client) {σ : Type}
    (server : Server σ) (s : σ) :
    (paging.call c).run server s = ((source c).page site query).run server s := by
  cases paging with
  | listIssues a => exact run_of_check hpassed _ s
  | search a => exact run_of_check hpassed _ s

end Paging

/-- The pages that come of asking for one page after the other from a row on, as long as a page says
that there is more. -/
inductive Walk (c : Client) {σ : Type} (server : Server σ) (paging : Paging) (limit : Nat) :
    Nat → σ → List Page → Prop where
  | last {offset : Nat} {s : σ} {page : Page}
    (hpage : (((paging.turnTo offset limit).call c).run server s).result = .ok page)
    (hdone : page.hasMore = false) : Walk c server paging limit offset s [page]
  | more {offset : Nat} {s : σ} {page : Page} {pages : List Page}
    (hpage : (((paging.turnTo offset limit).call c).run server s).result = .ok page)
    (hmore : page.hasMore = true)
    (rest : Walk c server paging limit (offset + limit)
      (((paging.turnTo offset limit).call c).run server s).state pages) :
    Walk c server paging limit offset s (page :: pages)

section Walk

variable {c : Client} {σ : Type} {server : Server σ} {paging : Paging} {limit : Nat}

/-- What the pages say decides where a walk ends, so there are no two of them. -/
theorem Walk.eq {offset : Nat} {s : σ} {pages others : List Page}
    (hwalk : Walk c server paging limit offset s pages)
    (hother : Walk c server paging limit offset s others) : others = pages := by
  have hsame {offset : Nat} {s : σ} {page other : Page}
      (hpage : (((paging.turnTo offset limit).call c).run server s).result = .ok page)
      (hother : (((paging.turnTo offset limit).call c).run server s).result = .ok other) :
      other = page := Except.ok.inj (hother.symm.trans hpage)
  induction hwalk generalizing others with
  | last hpage hdone =>
    cases hother with
    | last hpage' _ => rw [hsame hpage hpage']
    | more hpage' hmore' _ =>
      rw [hsame hpage hpage', hdone] at hmore'
      cases hmore'
  | more hpage hmore _ ih =>
    cases hother with
    | last hpage' hdone' =>
      rw [hsame hpage hpage', hmore] at hdone'
      cases hdone'
    | more hpage' _ rest' => rw [hsame hpage hpage', ih rest']

variable {site : Int} {query : Query.Payload} (hpassed : paging.check = .ok (site, query))
  {rows : List Record}
  (hserves : Serves server (c.base.below (Client.itemsEndpoint site)) fun _ => rows)
  (hlimit : 1 ≤ limit ∧ limit ≤ 1000)

include hpassed hserves hlimit

theorem exists_page (offset : Nat) (s : σ) :
    ∃ page, (((paging.turnTo offset limit).call c).run server s).result = .ok page ∧
      page.Shows offset limit (window rows offset limit) := by
  obtain ⟨harguments, hsite⟩ :=
    Paging.check_eq_ok_iff.1 (Paging.check_turnTo hpassed offset hlimit)
  obtain ⟨page, hrun, hshows, -⟩ :=
    page_run_of_serves c hsite { query with offset, limit } rfl rfl hserves s
  refine ⟨page, ?_, hshows⟩
  rw [Paging.call_run harguments, hrun]

/-- A walk from one row on ends, and has the rows from there on, so many on each page. The
induction is on the number of these rows: a page that says that there is more has taken some. -/
theorem exists_walk (offset : Nat) (s : σ) :
    ∃ pages, Walk c server paging limit offset s pages ∧
      pages.length = (rows.length - offset) / limit + 1 ∧
      pages.flatMap Page.records = rows.drop offset := by
  induction hleft : rows.length - offset using Nat.strong_induction_on generalizing offset s with
  | h left ih =>
    obtain ⟨page, hpage, hshows⟩ := exists_page hpassed hserves hlimit offset s
    have hmore := hshows.hasMore_iff hlimit.1
    by_cases hfull : offset + limit ≤ rows.length
    · obtain ⟨pages, hwalk, hlength, hrecords⟩ := ih (rows.length - (offset + limit)) (by omega)
        (offset + limit) (((paging.turnTo offset limit).call c).run server s).state rfl
      refine ⟨page :: pages, .more hpage (hmore.2 hfull) hwalk, ?_, ?_⟩
      · have hrest : rows.length - (offset + limit) = left - limit := by omega
        have hfirst : left / limit = (left - limit) / limit + 1 :=
          Nat.div_eq_sub_div hlimit.1 (by omega)
        rw [List.length_cons, hlength, hrest, hfirst]
      · rw [List.flatMap_cons, hshows.records_eq, hrecords, window_append_drop]
    · have hdone : page.hasMore = false := Bool.eq_false_iff.2 fun h => hfull (hmore.1 h)
      refine ⟨[page], .last hpage hdone, ?_, ?_⟩
      · rw [Nat.div_eq_of_lt (by omega)]
        rfl
      · rw [List.flatMap_cons, List.flatMap_nil, List.append_nil, hshows.records_eq, window,
          List.take_of_length_le]
        rw [List.length_drop]
        omega

end Walk

/-- Against a remote that holds rows, each page shows its part of them and tells whether there is
more, but for a page that ends with the last row. A walk from any row on has one page for each full
part and one more, and its pages together are the rows from there on. -/
theorem walk_lossless (c : Client) {paging : Paging} {site : Int} {query : Query.Payload}
    (hpassed : paging.check = .ok (site, query)) {rows : List Record} {σ : Type} {server : Server σ}
    (hserves : Serves server (c.base.below (Client.itemsEndpoint site)) fun _ => rows)
    {limit : Nat} (hlimit : 1 ≤ limit ∧ limit ≤ 1000) :
    (∀ (offset : Nat) (s : σ), ∃ page,
      (((paging.turnTo offset limit).call c).run server s).result = .ok page ∧
        page.IsPartOf rows offset limit) ∧
    ∀ (start : Nat) (s : σ), ∃ pages,
      (∀ others, Walk c server paging limit start s others ↔ others = pages) ∧
        pages.length = (rows.length - start) / limit + 1 ∧
        pages.flatMap Page.records = rows.drop start := by
  constructor
  · intro offset s
    obtain ⟨page, hpage, hshows⟩ := exists_page hpassed hserves hlimit offset s
    exact ⟨page, hpage, hshows.isPartOf hlimit.1⟩
  · intro start s
    obtain ⟨pages, hwalk, hlength, hrecords⟩ := exists_walk hpassed hserves hlimit start s
    refine ⟨pages, fun others => ⟨fun hother => hwalk.eq hother, ?_⟩, hlength, hrecords⟩
    rintro rfl
    exact hwalk

/-- Two rows, one on each page: the third page is empty. -/
theorem walk_lossless_of_two :
    let rows : List Record := [⟨[("IssueId", .int 1)]⟩, ⟨[("IssueId", .int 2)]⟩]
    let c : Client := { base := {}, apiKey := "key" }
    let paging : Paging := .search { site := .int 7, sortOrder := .str "asc" }
    let server := storeServer fun _ => rows
    (∃ query, paging.check = .ok (7, query)) ∧
      Serves server (c.base.below (Client.itemsEndpoint 7)) (fun _ => rows) ∧
      ∃ pages, (∀ others, Walk c server paging 1 0 () others ↔ others = pages) ∧
        pages.length = 3 ∧ pages.flatMap Page.records = rows := by
  intro rows c paging server
  have hpassed : ∃ query, paging.check = .ok (7, query) := ⟨_, rfl⟩
  have hserves : Serves server (c.base.below (Client.itemsEndpoint 7)) fun _ => rows :=
    storeServer_serves (fun _ => List.Sublist.refl rows) (by decide +kernel) _
  refine ⟨hpassed, hserves, ?_⟩
  obtain ⟨query, hquery⟩ := hpassed
  obtain ⟨pages, hpages, hlength, hrecords⟩ :=
    (walk_lossless c hquery hserves ⟨Nat.le_refl 1, by decide⟩).2 0 ()
  exact ⟨pages, hpages, hlength.trans (by decide), hrecords⟩

end Operation

end IssueGateway
