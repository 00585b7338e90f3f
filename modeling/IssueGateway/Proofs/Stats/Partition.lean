import IssueGateway.Proofs.Assoc
import IssueGateway.Proofs.Results
import IssueGateway.Proofs.Stats.Grouping
import IssueGateway.Stats.Trend
import Mathlib.Data.List.Count

/-!
# The two partitions of an analysis

An analysis puts every record into a group and every dated record into a bucket. Both maps are
built one record after another; here they are the distinct names in order of first record, each with
its records (`groupRecords_eq`), and the distinct keys, each with how often it comes
(`bucketCounts_eq`). A name that cannot be written stops the analysis. Whatever elements are told
apart by, the counts of the parts come to the count of all (`sum_countP_eraseDups`). A success of
`analyze` is taken apart into its groups, its series and its trend (`analyze_eq_ok_iff`).
-/

namespace IssueGateway.Stats

open Json Calendar

/-- The column that an analysis groups by; an empty name is none. -/
def groupedBy (groupBy : Option String) : Option String :=
  groupBy.filter fun column => !column.isEmpty

/-- The column that an analysis dates records by; an empty name is none. -/
def datedBy (analysisType : String) : Option String → String
  | some column => if column.isEmpty then dateColumn analysisType else column
  | none => dateColumn analysisType

/-- The name of a record's group in a column. -/
def groupName (column : String) (r : Record) : String :=
  (groupValue column r).text

/-- The name of a record's group. Without a column all records have one group. -/
def nameBy : Option String → Record → String
  | some column, r => groupName column r
  | none, _ => "all"

/-- Whether the groups of some records all have a name. -/
def AreNamed (records : List Record) (column : Option String) : Prop :=
  ∀ name ∈ column, ∀ r ∈ records, (groupValue name r).isWritable = true

instance (records : List Record) (column : Option String) : Decidable (AreNamed records column) :=
  inferInstanceAs (Decidable (∀ name ∈ column, _))

theorem areNamed_none (records : List Record) : AreNamed records none := nofun

/-- The bucket of a record, if its column dates it. -/
def bucketOf (column period : String) (r : Record) : Option String :=
  (r.time? column).map fun t => bucketKey t.date period

theorem groupedBy_some {column : String} (h : column ≠ "") :
    groupedBy (some column) = some column := by
  rw [groupedBy, Option.filter, if_pos]
  simpa using h

theorem nodup_eraseDups {α : Type} [BEq α] [LawfulBEq α] (as : List α) : as.eraseDups.Nodup :=
  (pairwise_eraseDups as).imp fun hne => fun heq => by
    rw [heq, BEq.rfl] at hne
    cases hne

/-- The elements of each key, counted key by key, are all elements. -/
theorem sum_countP_eraseDups {α β : Type} [BEq β] [LawfulBEq β] (key : α → β) (as : List α) :
    ((as.map key).eraseDups.map fun k => as.countP (key · == k)).sum = as.length := by
  have hperm : ((as.map key).eraseDups.flatMap fun k => as.filter (key · == k)).Perm as := by
    refine flatMap_filter_perm ((nodup_eraseDups _).imp fun hne a ha => ?_) fun a ha => ?_
    · rw [← eq_of_beq ha] at hne
      exact beq_eq_false_iff_ne.2 hne
    · exact ⟨key a, List.mem_eraseDups.2 (List.mem_map_of_mem ha), BEq.rfl⟩
  rw [← hperm.length_eq, List.length_flatMap]
  simp only [List.countP_eq_length_filter]

theorem eraseDups_map_const {α : Type} {as : List α} (h : as ≠ []) (name : String) :
    (as.map fun _ => name).eraseDups = [name] := by
  induction as using List.reverseRecOn with
  | nil => exact absurd rfl h
  | append_singleton as a ih =>
    rw [List.map_append, List.map_singleton, eraseDups_concat]
    cases as with
    | nil => rfl
    | cons first rest =>
      rw [ih (List.cons_ne_nil first rest)]
      exact if_pos (by simp)

/-- The names of the groups, in order of first record. Without a column there is one, also for no
records. -/
def groupNames (records : List Record) : Option String → List String
  | some column => (records.map (groupName column)).eraseDups
  | none => ["all"]

theorem groupNames_eq {records : List Record} {column : Option String}
    (h : records = [] → column.isSome) :
    groupNames records column = (records.map (nameBy column)).eraseDups := by
  cases column with
  | some column => rfl
  | none =>
    have hne : records ≠ [] := fun hnil => Bool.false_ne_true (h hnil)
    rw [show nameBy none = fun _ => "all" from rfl, eraseDups_map_const hne]
    rfl

/-- The groups of a column: each has the records of its name. -/
def groupsOf (records : List Record) (column : Option String) : Assoc String (List Record) :=
  (groupNames records column).map fun name => (name, records.filter (nameBy column · == name))

/-- Without a column all records are one group. -/
theorem groupsOf_none (records : List Record) : groupsOf records none = [("all", records)] := by
  simp [groupsOf, groupNames, nameBy]

/-- A name that some record has is that of a group. -/
theorem mem_groupsOf {records : List Record} {column : Option String} {name : String}
    (h : records.filter (nameBy column · == name) ≠ []) :
    (name, records.filter (nameBy column · == name)) ∈ groupsOf records column := by
  obtain ⟨r, hr⟩ := List.exists_mem_of_ne_nil _ h
  obtain ⟨hmem, hname⟩ := List.mem_filter.1 hr
  have hsome : records = [] → column.isSome := fun hnil => absurd hnil (List.ne_nil_of_mem hmem)
  refine List.mem_map.2 ⟨name, ?_, rfl⟩
  rw [groupNames_eq hsome, List.mem_eraseDups, ← eq_of_beq hname]
  exact List.mem_map_of_mem hmem

theorem groupRecord_eq (column : String) (groups : Assoc String (List Record)) (r : Record) :
    groupRecord column groups r =
      if (groupValue column r).isWritable then
        .ok (Assoc.update groups (groupName column r) fun members => members.getD [] ++ [r])
      else .error .integerTooLong := by
  rw [groupRecord, Value.write]
  split <;> rfl

theorem groupRecords_eq (records : List Record) (column : Option String) :
    groupRecords records column =
      if AreNamed records column then .ok (groupsOf records column)
      else .error .integerTooLong := by
  cases column with
  | some column =>
    have hnamed : AreNamed records (some column) ↔
        ∀ r ∈ records, (groupValue column r).isWritable = true := by
      simp [AreNamed]
    have hgroups : records.foldl (fun groups r =>
        Assoc.update groups (groupName column r) fun members => members.getD [] ++ [r]) [] =
          groupsOf records (some column) :=
      Assoc.foldl_update_eq_map (groupName column) (fun held r => held.getD [] ++ [r])
        (fun _ => rfl) (fun _ _ => rfl) records
    rw [groupRecords, foldlM_of_guarded (groupRecord_eq column), hgroups]
    simp only [hnamed]
  | none =>
    rw [if_pos (areNamed_none records), groupsOf_none]
    rfl

/-- The buckets in order of first record, each with the number of its records. -/
theorem bucketCounts_eq (records : List Record) (column period : String) :
    bucketCounts records column period =
      (records.filterMap (bucketOf column period)).eraseDups.map fun key =>
        (key, (records.filterMap (bucketOf column period)).count key) := by
  have hcounts := Assoc.foldl_update_eq_map (fun key : String => key)
    (fun (n : Option Nat) _ => n.getD 0 + 1) (fun key => (rfl : _ = [key].length))
    (fun keys key => by simp) (records.filterMap (bucketOf column period))
  rw [List.map_id'] at hcounts
  refine hcounts.trans (List.map_congr_left fun key _ => ?_)
  rw [List.count_eq_length_filter]

section Analyze

variable {records : List Record} {analysisType period : String} {groupBy dateField : Option String}

/-- An analysis names its groups before anything else. -/
theorem analyze_eq :
    analyze records analysisType period groupBy dateField =
      if AreNamed records (groupedBy groupBy) then do
        let trend ← checked (Trend.of
          ((series records (datedBy analysisType dateField) period).map (·.count)))
        let groups ← (groupsOf records (groupedBy groupBy)).mapM fun group =>
          summarize group.1 group.2
        return ⟨groups, series records (datedBy analysisType dateField) period, trend⟩
      else .error .integerTooLong := by
  have hanalyze : analyze records analysisType period groupBy dateField = (do
      let named ← groupRecords records (groupedBy groupBy)
      let trend ← checked (Trend.of
        ((series records (datedBy analysisType dateField) period).map (·.count)))
      let groups ← named.mapM fun group => summarize group.1 group.2
      return ⟨groups, series records (datedBy analysisType dateField) period, trend⟩) := rfl
  rw [hanalyze, groupRecords_eq]
  split <;> rfl

/-- A success of an analysis, taken apart. -/
theorem analyze_eq_ok_iff {analysis : TrendAnalysis} :
    analyze records analysisType period groupBy dateField = .ok analysis ↔
      AreNamed records (groupedBy groupBy) ∧
      analysis.series = series records (datedBy analysisType dateField) period ∧
      Trend.of (analysis.series.map (·.count)) = .ok analysis.trend ∧
      List.Forall₂ (fun group summary => summarize group.1 group.2 = .ok summary)
        (groupsOf records (groupedBy groupBy)) analysis.groups := by
  rw [analyze_eq]
  by_cases hnamed : AreNamed records (groupedBy groupBy)
  · rw [if_pos hnamed]
    simp only [bind_eq_ok_iff, checked_eq_ok_iff, pure_eq_ok_iff, mapM_eq_ok_iff]
    constructor
    · rintro ⟨trend, htrend, groups, hgroups, rfl⟩
      exact ⟨hnamed, rfl, htrend, hgroups⟩
    · obtain ⟨groups, series', trend⟩ := analysis
      rintro ⟨-, rfl, htrend, hgroups⟩
      exact ⟨trend, htrend, groups, hgroups, rfl⟩
  · rw [if_neg hnamed]
    exact iff_of_false nofun fun h => hnamed h.1

end Analyze

end IssueGateway.Stats
