import IssueGateway.Proofs.Stats.Partition

/-!
# Two ways to the same statistics

An aggregation keeps running totals of every group; an analysis first collects the records of a
group and then sums them up. Where both group by the same name they give the same groups in the same
order, to the last bit of every rate (`groups_agree`).
-/

namespace IssueGateway.Stats

open Json

/-- What a group of an analysis tells: its key, its count, its mean progress and its rate. -/
def GroupSummary.told (g : GroupSummary) : GroupKey × Nat × Option Float × Option Float :=
  (.text g.name, g.count, g.averageProgress, g.completionRate)

/-- What of a group of an aggregation an analysis tells too. -/
def told : GroupKey × GroupStats → GroupKey × Nat × Option Float × Option Float
  | (key, s) => (key, s.count, some s.averageProgress, some s.completionRate)

/-- A group of records beside its group in an aggregation. -/
structure Aggregated (group : String × List Record) (stats : GroupKey × GroupStats) : Prop where
  key_eq : stats.1 = .text group.1
  stats_of : stats.2.Of group.2
  nonempty : group.2 ≠ []

theorem map_eq_map_of_forall₂ {α β γ δ : Type} {R : α → β → Prop} {S : α → γ → Prop} {f : β → δ}
    {g : γ → δ} (h : ∀ a b c, R a b → S a c → f b = g c) {as : List α} {bs : List β} {cs : List γ}
    (hR : List.Forall₂ R as bs) (hS : List.Forall₂ S as cs) : bs.map f = cs.map g := by
  induction hR generalizing cs with
  | nil =>
    obtain rfl := List.forall₂_nil_left_iff.1 hS
    rfl
  | cons hhead htail ih =>
    obtain ⟨c, cs, hc, hcs, rfl⟩ := List.forall₂_cons_left_iff.1 hS
    rw [List.map_cons, List.map_cons, h _ _ _ hhead hc, ih hcs]

theorem eraseDups_map_text (names : List String) :
    (names.map GroupKey.text).eraseDups = names.eraseDups.map GroupKey.text := by
  induction names using List.reverseRecOn with
  | nil => rfl
  | append_singleton names name ih =>
    rw [List.map_append, List.map_singleton, eraseDups_concat, eraseDups_concat, ih, List.any_map]
    change (if names.eraseDups.any (name == ·) then _ else _) = _
    split
    · rfl
    · rw [List.map_append, List.map_singleton]

/-- An aggregation by name, group by group. -/
theorem aggregated_of_aggregate (name : Record → String) {records : List Record}
    {groups : Assoc GroupKey GroupStats}
    (h : aggregate records (fun r => .str (name r)) = .ok groups) :
    List.Forall₂ Aggregated ((records.map name).eraseDups.map fun n =>
      (n, records.filter (name · == n))) groups := by
  have hkeys : ((records.map name).eraseDups.map GroupKey.text) = groups.map Prod.fst := by
    obtain ⟨keys, hkeys, hgroups⟩ := keys_of_aggregate h
    have htexts : records.mapM (keyOf fun r => .str (name r)) =
        .ok (records.map fun r => .text (name r)) :=
      mapM_eq_ok_iff.2 (List.forall₂_map_right_iff.2 (List.forall₂_same.2 fun _ _ => rfl))
    obtain rfl := Except.ok.inj (hkeys.symm.trans htexts)
    rw [← eraseDups_map_text, List.map_map]
    exact hgroups.symm
  have hpaired : List.Forall₂ (fun n (group : GroupKey × GroupStats) => .text n = group.1)
      (records.map name).eraseDups groups := by
    rw [← List.forall₂_eq_eq_eq, List.forall₂_map_left_iff, List.forall₂_map_right_iff] at hkeys
    exact hkeys
  have hmember : List.Forall₂ (fun group n => group ∈ groups ∧ .text n = group.1) groups
      (records.map name).eraseDups :=
    (List.forall₂_and_left _ _).2 ⟨fun _ hmem => hmem, hpaired.flip⟩
  rw [List.forall₂_map_left_iff]
  refine (hmember.imp fun group n ⟨hmem, hkey⟩ => ?_).flip
  obtain ⟨key, stats⟩ := group
  obtain rfl : GroupKey.text n = key := hkey
  have hmembers : members (fun r => .str (name r)) (.text n) records =
      records.filter (name · == n) := rfl
  refine ⟨rfl, hmembers ▸ stats_of_aggregate h hmem, ?_⟩
  obtain ⟨r, hr⟩ := exists_member_of_aggregate h (List.mem_map_of_mem hmem)
  exact List.ne_nil_of_mem (hmembers ▸ hr)

/-- Summing up the records of a group gives what was aggregated of them. -/
theorem Aggregated.summarize_eq {group : String × List Record} {stats : GroupKey × GroupStats}
    (h : Aggregated group stats) :
    summarize group.1 group.2 = .ok ⟨group.1, stats.2.count, some stats.2.averageProgress,
      some stats.2.completionRate⟩ := by
  obtain ⟨total, htotal, haverage⟩ := h.stats_of.averageProgress_eq
  have hmean : checked (mean (group.2.map progress)) = .ok stats.2.averageProgress := by
    rw [checked_eq_ok_iff, mean, List.length_map]
    exact bind_eq_ok_iff.2 ⟨total, htotal, haverage⟩
  have hempty : group.2.isEmpty = false := by simpa using h.nonempty
  rw [summarize, hempty, if_neg Bool.false_ne_true, hmean, h.stats_of.completionRate_eq,
    h.stats_of.completedCount_eq, h.stats_of.count_eq]
  rfl

/-- An analysis by name beside an aggregation by that name. -/
theorem told_eq_of_name {records : List Record} {analysisType period : String}
    {groupBy dateField : Option String} {analysis : TrendAnalysis}
    {groups : Assoc GroupKey GroupStats}
    (hgrouped : records = [] → (groupedBy groupBy).isSome)
    (hanalyze : analyze records analysisType period groupBy dateField = .ok analysis)
    (haggregate : aggregate records (fun r => .str (nameBy (groupedBy groupBy) r)) = .ok groups) :
    analysis.groups.map GroupSummary.told = groups.map told := by
  obtain ⟨-, -, -, hsummaries⟩ := analyze_eq_ok_iff.1 hanalyze
  rw [groupsOf, groupNames_eq hgrouped] at hsummaries
  refine map_eq_map_of_forall₂ (fun group summary stats hsummary haggregated => ?_) hsummaries
    (aggregated_of_aggregate _ haggregate)
  obtain rfl := Except.ok.inj (hsummary.symm.trans haggregated.summarize_eq)
  rw [GroupSummary.told, told, ← haggregated.key_eq]

/-- Grouped by a column, an analysis and an aggregation by the text of that column give the same
groups in the same order; without a column, the one group of an analysis of some records is the one
group of an aggregation under a constant name. -/
theorem groups_agree (records : List Record) (analysisType period : String)
    (dateField : Option String) :
    (∀ column analysis groups, column ≠ "" →
      analyze records analysisType period (some column) dateField = .ok analysis →
      aggregate records (fun r => .str ((r.get column).orElse (.str "unknown")).text) =
        .ok groups →
      analysis.groups.map GroupSummary.told = groups.map told) ∧
    ∀ analysis groups, records ≠ [] →
      analyze records analysisType period none dateField = .ok analysis →
      aggregate records (fun _ => .str "all") = .ok groups →
      analysis.groups.map GroupSummary.told = groups.map told ∧
        ∃ stats, groups = [(.text "all", stats)] := by
  constructor
  · intro column analysis groups hcolumn hanalyze haggregate
    refine told_eq_of_name (fun _ => ?_) hanalyze ?_
    · rw [groupedBy_some hcolumn]
      rfl
    · rw [groupedBy_some hcolumn]
      exact haggregate
  · intro analysis groups hne hanalyze haggregate
    refine ⟨told_eq_of_name (fun hnil => absurd hnil hne) hanalyze haggregate, ?_⟩
    have hpaired := aggregated_of_aggregate (fun _ => "all") haggregate
    rw [eraseDups_map_const hne] at hpaired
    obtain ⟨⟨key, stats⟩, _, hone, hnil, rfl⟩ := List.forall₂_cons_left_iff.1 hpaired
    obtain rfl := List.forall₂_nil_left_iff.1 hnil
    obtain rfl : key = .text "all" := hone.key_eq
    exact ⟨stats, rfl⟩

/-- Integers and doubles in one group, a group that comes back, and a zero that is no name. -/
theorem groups_agree_on_mixed_numbers :
    let record := fun (name progress : Value) => Record.mk
      [("ClassA", name), ("ProgressRate", progress), ("Status", .int 900)]
    let records := [record (.str "b") (.int 50), record (.str "a") .null,
      record (.str "b") (.float 0.5), record (.int 0) (.bool true)]
    let view := fun groups : Assoc GroupKey GroupStats =>
      groups.map fun (key, s) => (key.value.text, s.count, s.averageProgress)
    (∃ analysis groups, "ClassA" ≠ "" ∧
      analyze records "creation" "week" (some "ClassA") none = .ok analysis ∧
      aggregate records (fun r => .str ((r.get "ClassA").orElse (.str "unknown")).text) =
        .ok groups ∧
      analysis.groups.map GroupSummary.told = groups.map told ∧
      view groups = [("b", 2, 25.25), ("a", 1, 0), ("unknown", 1, 0)]) ∧
    ∃ analysis groups, records ≠ [] ∧
      analyze records "creation" "week" none none = .ok analysis ∧
      aggregate records (fun _ => .str "all") = .ok groups ∧
      analysis.groups.map GroupSummary.told = groups.map told ∧
      view groups = [("all", 4, 12.625)] := by
  intro record records view
  have hnamed : ((analyze records "creation" "week" (some "ClassA") none).map
      fun _ => ()).toOption = some () := by decide +kernel
  have hwhole : ((analyze records "creation" "week" none none).map fun _ => ()).toOption =
      some () := by decide +kernel
  have hgroups : ((aggregate records fun r =>
      .str ((r.get "ClassA").orElse (.str "unknown")).text).map view).toOption =
        some [("b", 2, 25.25), ("a", 1, 0), ("unknown", 1, 0)] := by decide +kernel
  have hone : ((aggregate records fun _ => .str "all").map view).toOption =
      some [("all", 4, 12.625)] := by decide +kernel
  obtain ⟨named, hnamed, -⟩ := exists_ok_of_toOption_map hnamed
  obtain ⟨whole, hwhole, -⟩ := exists_ok_of_toOption_map hwhole
  obtain ⟨groups, hgroups, hview⟩ := exists_ok_of_toOption_map hgroups
  obtain ⟨one, hone, hviewOne⟩ := exists_ok_of_toOption_map hone
  have hagree := groups_agree records "creation" "week" none
  exact ⟨⟨named, groups, by decide, hnamed, hgroups,
    hagree.1 _ _ _ (by decide) hnamed hgroups, hview⟩, whole, one, List.cons_ne_nil _ _, hwhole,
    hone, (hagree.2 _ _ (List.cons_ne_nil _ _) hwhole hone).1, hviewOne⟩

end IssueGateway.Stats
