import IssueGateway.Proofs.Text.CodePoint
import IssueGateway.Proofs.Text.Decimal
import IssueGateway.Remote.Client
import IssueGateway.Remote.Script
import Mathlib.Data.List.Basic
import Mathlib.Data.List.TakeWhile

/-!
# The target of a listing

A path of plain segments is kept as it is by everything that addresses go through: no escapes, no
dots to drop, no query behind it. So below a base with such a path, the request for the items of a
site has that site as its target (`target_of_items`).
-/

namespace IssueGateway

open Text

/-- A character that stands for itself in a path and neither separates segments nor makes dots. -/
def isPlainChar (c : Char) : Bool :=
  isPathChar c && ['/', '%', '.'].all (c != ·)

def IsPlainSegment (segment : List Char) : Prop :=
  ∀ c ∈ segment, isPlainChar c = true

instance (segment : List Char) : Decidable (IsPlainSegment segment) :=
  List.decidableBAll (fun c => isPlainChar c = true) segment

/-- A path: each segment behind a slash. -/
def pathOf (segments : List (List Char)) : List Char :=
  segments.flatMap fun segment => '/' :: segment

/-- An address with nothing but plain segments behind its authority, and a slash at the end. -/
def Address.IsPlain (a : Address) : Prop :=
  ∃ segments, (∀ segment ∈ segments, IsPlainSegment segment) ∧
    a.location = pathOf segments ++ ['/']

theorem isPathChar_of_isPlainChar {c : Char} (h : isPlainChar c = true) :
    isPathChar c = true ∧ c ∉ ['/', '%', '#', '?', '.'] := by
  rw [isPlainChar, Bool.and_eq_true] at h
  refine ⟨h.1, ?_⟩
  intro hc
  simp only [List.mem_cons, List.not_mem_nil, or_false] at hc
  rcases hc with rfl | rfl | rfl | rfl | rfl <;> revert h <;> decide

theorem isPlainChar_of_isDigit {c : Char} (h : c.isDigit = true) : isPlainChar c = true :=
  Text.of_isDigit (isPlainChar · = true) (by decide) h

theorem pathOf_append (segments others : List (List Char)) :
    pathOf (segments ++ others) = pathOf segments ++ pathOf others :=
  List.flatMap_append

theorem percentEncode_of_all {keep : Char → Bool} {cs : List Char} (h : ∀ c ∈ cs, keep c = true) :
    percentEncode keep cs = cs := by
  induction cs with
  | nil => rfl
  | cons c cs ih =>
    obtain ⟨hc, hrest⟩ := List.forall_mem_cons.1 h
    rw [percentEncode, List.flatMap_cons, if_pos hc]
    exact congrArg (c :: ·) (ih hrest)

theorem percentDecode_of_not_mem {cs : List Char} (h : '%' ∉ cs) : percentDecode cs = cs := by
  rw [percentDecode]
  induction cs with
  | nil => rfl
  | cons c cs ih =>
    rw [List.mem_cons, not_or] at h
    rw [percentDecodeFrom, ih h.2]
    · rfl
    · rintro a b rest rfl
      exact absurd rfl h.1

theorem intercalate_cons (first : List Char) (segments : List (List Char)) :
    ['/'].intercalate (first :: segments) = first ++ pathOf segments := by
  induction segments generalizing first with
  | nil => simp [pathOf]
  | cons second rest ih => simp [pathOf, List.intercalate_cons_cons, ih]

section Path

variable {segments : List (List Char)} (hplain : ∀ segment ∈ segments, IsPlainSegment segment)

include hplain

theorem mem_pathOf {c : Char} (hc : c ∈ pathOf segments) :
    isPathChar c = true ∧ c ∉ ['%', '#', '?', '.'] := by
  obtain ⟨segment, hsegment, hmem⟩ := List.mem_flatMap.1 hc
  rcases List.mem_cons.1 hmem with rfl | hmem
  · decide
  · obtain ⟨hpath, hother⟩ := isPathChar_of_isPlainChar (hplain segment hsegment c hmem)
    exact ⟨hpath, fun h => hother (List.mem_cons_of_mem _ h)⟩

theorem pairMark_not_mem_pathOf : pairMark ∉ pathOf segments := fun hmark =>
  absurd (mem_pathOf hplain hmark).1 (by decide)

theorem splitOn_pathOf : (pathOf segments).splitOn '/' = [] :: segments := by
  have hpath : pathOf segments = ['/'].intercalate ([] :: segments) :=
    (intercalate_cons [] segments).symm
  rw [hpath]
  apply List.splitOn_intercalate
  · intro segment hsegment hslash
    rcases List.mem_cons.1 hsegment with rfl | hsegment
    · cases hslash
    · exact (isPathChar_of_isPlainChar (hplain segment hsegment _ hslash)).2 (by decide)
  · exact List.cons_ne_nil _ _

theorem dropDotSegments_pathOf : dropDotSegments (pathOf segments) = pathOf segments := by
  rw [dropDotSegments, splitOn_pathOf hplain]
  apply if_neg
  rw [List.any_eq_true]
  rintro ⟨segment, hsegment, hdots⟩
  have hdot : '.' ∈ segment := by
    rcases of_decide_eq_true hdots with rfl | rfl <;> decide
  rcases List.mem_cons.1 hsegment with rfl | hsegment
  · cases hdot
  · exact (isPathChar_of_isPlainChar (hplain segment hsegment _ hdot)).2 (by decide)

theorem splitQuery_pathOf : splitQuery (pathOf segments) = (pathOf segments, none) := by
  have hother {c other : Char} (hc : c ∈ pathOf segments) (hmem : other ∈ ['%', '#', '?', '.']) :
      (c != other) = true := by
    rw [bne_iff_ne]
    rintro rfl
    exact (mem_pathOf hplain hc).2 hmem
  have hfragment : (pathOf segments).takeWhile (· != '#') = pathOf segments :=
    List.takeWhile_eq_self_iff.2 fun c hc => hother hc (by decide)
  have hquery : (pathOf segments).dropWhile (· != '?') = [] :=
    List.dropWhile_eq_nil_iff.2 fun c hc => hother hc (by decide)
  simp only [splitQuery, hfragment, hquery]

/-- A path of plain segments makes an address as it stands. -/
theorem make_pathOf (scheme authority : List Char) :
    Address.make scheme authority (pathOf segments) =
      { scheme, authority, path := pathOf segments } := by
  have hencode : percentEncode isPathChar (pathOf segments) = pathOf segments :=
    percentEncode_of_all fun c hc => (mem_pathOf hplain hc).1
  simp only [Address.make, splitQuery_pathOf hplain, dropDotSegments_pathOf hplain, ite_self,
    hencode, Option.map_none]

theorem plainPath_pathOf {a : Address} (ha : a.path = pathOf segments) (hsegments : segments ≠ []) :
    a.plainPath = String.ofList (pathOf segments) := by
  have hpath : a.path.isEmpty = false := by
    cases segments with
    | nil => exact absurd rfl hsegments
    | cons segment rest =>
      rw [ha]
      rfl
  rw [Address.plainPath, hpath, ha, if_neg Bool.false_ne_true, percentDecode_of_not_mem,
    hold_of_not_mem (pairMark_not_mem_pathOf hplain)]
  intro hpercent
  exact (mem_pathOf hplain hpercent).2 (by decide)

end Path

namespace Remote

/-- The segments of the endpoint of a site's items. -/
def itemSegments (site : Int) : List (List Char) :=
  [['a', 'p', 'i'], ['i', 't', 'e', 'm', 's'], Text.integer site, ['g', 'e', 't']]

theorem toList_itemsEndpoint (site : Int) :
    (Client.itemsEndpoint site).toList = pathOf (itemSegments site) := by
  simp [Client.itemsEndpoint, itemSegments, pathOf]

theorem plain_itemSegments {site : Int} (hsite : 0 < site) :
    ∀ segment ∈ itemSegments site, IsPlainSegment segment := by
  have hdigits : IsPlainSegment (Text.integer site) := by
    intro c hc
    rw [Text.integer, if_neg (by omega)] at hc
    exact isPlainChar_of_isDigit (Text.isDigit_of_mem_natural hc)
  simp only [itemSegments, List.forall_mem_cons]
  refine ⟨by decide, by decide, hdigits, by decide, ?_⟩
  exact fun _ h => absurd h List.not_mem_nil

theorem ofText_itemsEndpoint {site : Int} (hsite : 0 < site) :
    Address.ofText (Client.itemsEndpoint site) = { path := pathOf (itemSegments site) } := by
  have hscheme : takeScheme (pathOf (itemSegments site)) = ([], pathOf (itemSegments site)) := rfl
  have hmark : pairMark ∉ pathOf (itemSegments site) :=
    pairMark_not_mem_pathOf (plain_itemSegments hsite)
  rw [Address.ofText, toList_itemsEndpoint, plain_of_not_mem hmark, hscheme]
  exact make_pathOf (plain_itemSegments hsite) [] []

/-- The endpoint goes behind the path of its base. -/
theorem below_itemsEndpoint {base : Address} {segments : List (List Char)}
    (hplain : ∀ segment ∈ segments, IsPlainSegment segment)
    (hbase : base.location = pathOf segments ++ ['/']) {site : Int} (hsite : 0 < site) :
    (base.below (Client.itemsEndpoint site)).path = pathOf (segments ++ itemSegments site) := by
  have hall : ∀ segment ∈ segments ++ itemSegments site, IsPlainSegment segment :=
    List.forall_mem_append.2 ⟨hplain, plain_itemSegments hsite⟩
  have hrelative : (Address.location { path := pathOf (itemSegments site) }).dropWhile (· == '/') =
      (pathOf (itemSegments site)).tail := by
    simp [Address.location, pathOf, itemSegments]
  have hjoined : base.location ++ (pathOf (itemSegments site)).tail =
      pathOf (segments ++ itemSegments site) := by
    rw [hbase, List.append_assoc, pathOf_append]
    rfl
  rw [Address.below, ofText_itemsEndpoint hsite]
  simp only [List.isEmpty_nil, Bool.not_true, Bool.false_and, Bool.false_eq_true, if_false,
    hrelative, hjoined, make_pathOf hall]

/-- Below a base with a plain path, the items of a site are asked for at the target of the site. -/
theorem target_of_items {base : Address} (hbase : base.IsPlain) {site : Int} (hsite : 0 < site)
    {r : Request} (hr : r.address = base.below (Client.itemsEndpoint site)) :
    r.target = String.ofList (Text.integer site) := by
  obtain ⟨segments, hplain, hlocation⟩ := hbase
  have hall : ∀ segment ∈ segments ++ itemSegments site, IsPlainSegment segment :=
    List.forall_mem_append.2 ⟨hplain, plain_itemSegments hsite⟩
  have hpath : r.address.plainPath = String.ofList (pathOf (segments ++ itemSegments site)) := by
    apply plainPath_pathOf hall
    · rw [hr, below_itemsEndpoint hplain hlocation hsite]
    · simp [itemSegments]
  have hreversed : ([] :: (segments ++ itemSegments site)).reverse =
      ['g', 'e', 't'] :: Text.integer site :: ['i', 't', 'e', 'm', 's'] :: ['a', 'p', 'i'] ::
        ([] :: segments).reverse := by
    simp [itemSegments]
  obtain ⟨last, rest, hrest⟩ : ∃ last rest, ([] :: segments).reverse = last :: rest :=
    List.exists_cons_of_ne_nil (by simp)
  have hdigits : (Text.integer site).isEmpty = false := by
    rw [Text.integer, if_neg (by omega), List.isEmpty_eq_false_iff]
    exact Nat.toDigits_ne_nil
  simp only [Request.target, hpath, String.toList_ofList, splitOn_pathOf hall, hreversed, hrest,
    hdigits, Bool.false_eq_true, if_false]

end Remote

end IssueGateway
