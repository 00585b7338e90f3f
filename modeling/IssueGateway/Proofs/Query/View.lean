import IssueGateway.Query.Payload
import IssueGateway.Remote.Client

/-!
# The shape of a query's request

A query asks for a page and, unless nothing restricts it, for a view; the parts of a view are those
of its four parts that are not empty. No name of these is that of a credential, so the request of a
query always stands behind the credentials and never goes over them.
-/

namespace IssueGateway

open Json

namespace Query

/-- A part of a view with something in it: a text to look for, or texts for some columns. -/
inductive IsPart : String × Value → Prop where
  | search (s : String) (hs : s ≠ "") : IsPart ("Search", .str s)
  | columns (name : String) (entries : Assoc String String) (hentries : entries ≠ []) :
    IsPart (name, .obj (entries.map fun (column, s) => (column, .str s)))

/-- Parts with some of the names, in their order. -/
structure HasParts (names : List String) (parts : Fields) : Prop where
  names : (Assoc.keys parts).Sublist names
  filled : ∀ part ∈ parts, IsPart part

theorem HasParts.append {names others : List String} {parts rest : Fields}
    (hparts : HasParts names parts) (hrest : HasParts others rest) :
    HasParts (names ++ others) (parts ++ rest) where
  names := by
    rw [Assoc.keys, List.map_append]
    exact hparts.names.append hrest.names
  filled part hpart := by
    rcases List.mem_append.1 hpart with h | h
    · exact hparts.filled part h
    · exact hrest.filled part h

theorem hasParts_nil (names : List String) : HasParts names [] where
  names := List.nil_sublist names
  filled _ hpart := absurd hpart List.not_mem_nil

theorem hasParts_singleton {name : String} {v : Value} (h : IsPart (name, v)) :
    HasParts [name] [(name, v)] where
  names := List.Sublist.refl [name]
  filled part hpart := by
    obtain rfl := List.mem_singleton.1 hpart
    exact h

theorem hasParts_searchPart (search : Option String) : HasParts ["Search"] (searchPart search) := by
  cases search with
  | none => exact hasParts_nil _
  | some s =>
    rw [searchPart]
    split
    · exact hasParts_nil _
    · rename_i hs
      apply hasParts_singleton
      apply IsPart.search
      intro hempty
      exact hs (String.isEmpty_iff.2 hempty)

theorem hasParts_viewPart (name : String) (m : Assoc String String) :
    HasParts [name] (viewPart name m) := by
  rw [viewPart]
  split
  · exact hasParts_nil _
  · rename_i hm
    apply hasParts_singleton
    apply IsPart.columns
    intro hempty
    exact hm (List.isEmpty_iff.2 hempty)

def partNames : List String :=
  ["Search", "ColumnFilterHash", "ColumnFilterExpressions", "ColumnSorterHash"]

/-- A view restricts a listing by one part or more. -/
structure IsView (parts : Fields) : Prop extends HasParts partNames parts where
  nonempty : parts ≠ []

theorem Payload.hasParts_view (p : Payload) : HasParts partNames p.view :=
  (((hasParts_searchPart p.search).append (hasParts_viewPart _ p.columnFilters)).append
    (hasParts_viewPart _ p.columnExpressions)).append (hasParts_viewPart _ p.sorters)

/-- A request has its page and at most a view. -/
theorem Payload.request_eq (p : Payload) :
    ∃ view, p.request = [("Offset", .int p.offset), ("PageSize", .int p.limit)] ++ view ∧
      (view = [] ∨ ∃ parts, view = [("View", .obj parts)] ∧ IsView parts) := by
  rw [request]
  split
  · exact ⟨[], rfl, Or.inl rfl⟩
  · rename_i hview
    refine ⟨[("View", .obj p.view)], rfl, Or.inr ⟨p.view, rfl, p.hasParts_view, ?_⟩⟩
    intro hempty
    exact hview (List.isEmpty_iff.2 hempty)

end Query

namespace Remote.Client

/-- A query is asked for with the credentials before it. -/
theorem request_body (c : Client) (endpoint : String) (query : Query.Payload) :
    (c.request endpoint query.request).body = c.credentials ++ query.request := by
  obtain ⟨view, hrequest, hview⟩ := query.request_eq
  rw [request, hrequest]
  rcases hview with rfl | ⟨parts, rfl, -⟩ <;> rfl

end Remote.Client

end IssueGateway
