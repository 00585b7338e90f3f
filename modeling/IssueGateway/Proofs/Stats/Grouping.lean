import IssueGateway.Proofs.Assoc
import IssueGateway.Proofs.Json.Equality
import IssueGateway.Proofs.Number.Rounding
import IssueGateway.Proofs.Results
import IssueGateway.Proofs.Stats.GroupKey

/-!
# Groups are sublists

`aggregate` goes through the records once and keeps a map of running totals. What it is meant to
give is said without a map: the groups are the distinct keys in the order in which they first come,
and the statistics of a group are those of the sublist of records with its key, read off their
columns one by one (`GroupStats.Describes`). `aggregate_grouped` says that this is what comes out,
and `exists_aggregate_eq_ok_iff` that something comes out exactly when these sums exist.

The invariant of the pass (`Passed`) speaks about every key, not only about those in the map: the
totals kept for a key, or none, are the totals of the records so far that have the key.
-/

namespace IssueGateway.Stats

open Json

/-- The key of a record. -/
def keyOf (select : Selector) (r : Record) : Except Failure GroupKey :=
  GroupKey.ofValue (select r)

/-- Whether a record has a key. -/
def hasKey (select : Selector) (key : GroupKey) (r : Record) : Bool :=
  match keyOf select r with
  | .ok own => own == key
  | .error _ => false

/-- The records with a key, in order. -/
def members (select : Selector) (key : GroupKey) (records : List Record) : List Record :=
  records.filter (hasKey select key)

/-- The totals of some records. -/
def tallyOf (records : List Record) : Except Failure Tally :=
  records.foldlM Tally.add {}

/-- The totals of some records, one by one. -/
structure Tally.Of (t : Tally) (records : List Record) : Prop where
  count_eq : t.count = records.length
  work_eq : Number.sum (records.map Stats.work) = .ok t.work
  progress_eq : Number.sum (records.map Stats.progress) = .ok t.progress
  completed_eq : t.completed = records.countP Record.isCompleted
  rows_eq : t.rows = records.map Row.of

theorem checked_eq_ok_iff {α : Type} {x : Except RangeError α} {a : α} :
    checked x = .ok a ↔ x = .ok a := by
  cases x <;> simp [checked, Except.mapError]

/-- What adding a record does to the totals. -/
theorem Tally.add_eq_ok_iff {t t' : Tally} {r : Record} :
    t.add r = .ok t' ↔ ∃ w, t.work.add (Stats.work r) = .ok w ∧
      ∃ p, t.progress.add (Stats.progress r) = .ok p ∧
        ⟨t.count + 1, w, p, if r.isCompleted then t.completed + 1 else t.completed,
          t.rows ++ [Row.of r]⟩ = t' := by
  simp only [Tally.add, bind_eq_ok_iff, checked_eq_ok_iff, pure_eq_ok_iff]

theorem tallyOf_eq_ok_iff {records : List Record} {t : Tally} :
    tallyOf records = .ok t ↔ t.Of records := by
  induction records using List.reverseRecOn generalizing t with
  | nil =>
    refine ⟨fun h => ?_, fun h => ?_⟩
    · obtain rfl : {} = t := Except.ok.inj h
      exact ⟨rfl, rfl, rfl, rfl, rfl⟩
    · obtain ⟨count, work, progress, completed, rows⟩ := t
      obtain ⟨rfl, hwork, hprogress, rfl, rfl⟩ := h
      obtain rfl : 0 = work := Except.ok.inj hwork
      obtain rfl : 0 = progress := Except.ok.inj hprogress
      rfl
  | append_singleton records r ih =>
    rw [tallyOf, foldlM_concat_eq_ok_iff]
    constructor
    · rintro ⟨s, hs, hadd⟩
      obtain ⟨w, hw, p, hp, rfl⟩ := Tally.add_eq_ok_iff.1 hadd
      have hof := ih.1 hs
      refine ⟨?_, ?_, ?_, ?_, ?_⟩
      · rw [hof.count_eq, List.length_append, List.length_singleton]
      · rw [List.map_append, Number.sum]
        exact foldlM_concat_eq_ok_iff.2 ⟨_, hof.work_eq, hw⟩
      · rw [List.map_append, Number.sum]
        exact foldlM_concat_eq_ok_iff.2 ⟨_, hof.progress_eq, hp⟩
      · rw [hof.completed_eq, List.countP_append, List.countP_singleton]
        split <;> rfl
      · rw [hof.rows_eq, List.map_append, List.map_singleton]
    · rintro ⟨hcount, hwork, hprogress, hcompleted, hrows⟩
      rw [List.map_append, Number.sum] at hwork hprogress
      obtain ⟨w, hw, haddWork⟩ := foldlM_concat_eq_ok_iff.1 hwork
      obtain ⟨p, hp, haddProgress⟩ := foldlM_concat_eq_ok_iff.1 hprogress
      refine ⟨⟨records.length, w, p, records.countP Record.isCompleted, records.map Row.of⟩,
        ih.2 ⟨rfl, hw, hp, rfl, rfl⟩, Tally.add_eq_ok_iff.2 ⟨_, haddWork, _, haddProgress, ?_⟩⟩
      obtain ⟨count, work, progress, completed, rows⟩ := t
      simp only [List.length_append, List.countP_append, List.countP_singleton, List.map_append,
        List.length_singleton, List.map_singleton] at hcount hcompleted hrows
      subst hcount hcompleted hrows
      split <;> rfl

section Pass

variable {select : Selector} {seen : List Record} {groups : Assoc GroupKey Tally} {r : Record}
  {key : GroupKey}

theorem hasKey_of_keyOf (hkey : keyOf select r = .ok key) (other : GroupKey) :
    hasKey select other r = (key == other) := by
  rw [hasKey, hkey]

theorem hasKey_iff : hasKey select key r = true ↔
    ∃ own, keyOf select r = .ok own ∧ (own == key) = true := by
  rw [hasKey]
  cases keyOf select r <;> simp

theorem not_hasKey_of_hasKey {other : GroupKey} (hne : (other == key) = false)
    (h : hasKey select key r = true) : hasKey select other r = false := by
  obtain ⟨own, hown, hsame⟩ := hasKey_iff.1 h
  rw [hasKey_of_keyOf hown, BEq.congr_left hsame, BEq.comm, hne]

theorem members_congr {other : GroupKey} (hsame : (other == key) = true) :
    members select other seen = members select key seen := by
  refine List.filter_congr fun r _ => ?_
  rw [hasKey, hasKey]
  cases keyOf select r with
  | error failure => rfl
  | ok own => exact BEq.congr_right hsame

theorem members_concat (hkey : keyOf select r = .ok key) (other : GroupKey) :
    members select other (seen ++ [r]) =
      if other == key then members select key seen ++ [r] else members select other seen := by
  rw [members, List.filter_append, List.filter_singleton, hasKey_of_keyOf hkey, BEq.comm]
  cases hsame : other == key with
  | true =>
    rw [← members, members_congr hsame]
    rfl
  | false => exact List.append_nil _

/-- What the map holds after some records: their distinct keys, and for every key, in the map or
not, the totals of the records that have it. -/
structure Passed (select : Selector) (seen : List Record) (groups : Assoc GroupKey Tally) :
    Prop where
  keys_eq : ∃ keys, seen.mapM (keyOf select) = .ok keys ∧ groups.keys = keys.eraseDups
  totals : ∀ key, tallyOf (members select key seen) = .ok ((groups.get? key).getD {})

theorem passed_nil : Passed select [] [] :=
  ⟨⟨[], rfl, rfl⟩, fun _ => rfl⟩

theorem Passed.tallyOf_members (h : Passed select seen groups) (hkey : keyOf select r = .ok key)
    {t : Tally} : tallyOf (members select key (seen ++ [r])) = .ok t ↔
      ((groups.get? key).getD {}).add r = .ok t := by
  rw [members_concat hkey, if_pos BEq.rfl, tallyOf, foldlM_concat_eq_ok_iff]
  constructor
  · rintro ⟨s, hs, hadd⟩
    obtain rfl := Except.ok.inj ((h.totals key).symm.trans hs)
    exact hadd
  · exact fun hadd => ⟨_, h.totals key, hadd⟩

theorem Passed.concat (h : Passed select seen groups) (hkey : keyOf select r = .ok key) {t : Tally}
    (hadd : ((groups.get? key).getD {}).add r = .ok t) :
    Passed select (seen ++ [r]) (groups.set key t) := by
  obtain ⟨keys, hkeys, hgroups⟩ := h.keys_eq
  refine ⟨⟨keys ++ [key], mapM_concat_eq_ok_iff.2 ⟨keys, hkeys, key, hkey, rfl⟩, ?_⟩, ?_⟩
  · rw [Assoc.keys_set, hgroups, eraseDups_concat]
  · intro other
    rw [Assoc.get?_set]
    cases hsame : other == key with
    | true =>
      rw [members_congr hsame, h.tallyOf_members hkey |>.2 hadd]
      rfl
    | false =>
      rw [members_concat hkey, hsame]
      exact h.totals other

theorem tallyRecord_eq_ok_iff {groups' : Assoc GroupKey Tally} :
    tallyRecord select groups r = .ok groups' ↔ ∃ key, keyOf select r = .ok key ∧
      ∃ t, ((groups.get? key).getD {}).add r = .ok t ∧ groups.set key t = groups' := by
  simp only [tallyRecord, keyOf, bind_eq_ok_iff, pure_eq_ok_iff]

end Pass

theorem passed_of_foldlM {select : Selector} {records : List Record}
    {groups : Assoc GroupKey Tally}
    (h : records.foldlM (tallyRecord select) [] = .ok groups) : Passed select records groups := by
  induction records using List.reverseRecOn generalizing groups with
  | nil =>
    obtain rfl := Except.ok.inj h
    exact passed_nil
  | append_singleton records r ih =>
    obtain ⟨before, hbefore, hstep⟩ := foldlM_concat_eq_ok_iff.1 h
    obtain ⟨key, hkey, t, hadd, rfl⟩ := tallyRecord_eq_ok_iff.1 hstep
    exact (ih hbefore).concat hkey hadd

/-- The pass ends whenever every record has a key and the totals of every key exist. -/
theorem exists_foldlM_eq_ok {select : Selector} {records : List Record} {keys : List GroupKey}
    (hkeys : records.mapM (keyOf select) = .ok keys)
    (htotals : ∀ key, ∃ t, tallyOf (members select key records) = .ok t) :
    ∃ groups, records.foldlM (tallyRecord select) [] = .ok groups := by
  induction records using List.reverseRecOn generalizing keys with
  | nil => exact ⟨[], rfl⟩
  | append_singleton records r ih =>
    obtain ⟨keysBefore, hkeysBefore, key, hkey, -⟩ := mapM_concat_eq_ok_iff.1 hkeys
    have htotalsBefore : ∀ other, ∃ t, tallyOf (members select other records) = .ok t := by
      intro other
      obtain ⟨t, ht⟩ := htotals other
      rw [members_concat hkey] at ht
      split at ht
      · rename_i hsame
        obtain ⟨s, hs, -⟩ := foldlM_concat_eq_ok_iff.1 ht
        exact ⟨s, members_congr hsame ▸ hs⟩
      · exact ⟨t, ht⟩
    obtain ⟨groups, hgroups⟩ := ih hkeysBefore htotalsBefore
    obtain ⟨t, ht⟩ := htotals key
    have hadd := ((passed_of_foldlM hgroups).tallyOf_members hkey).1 ht
    have hstep : tallyRecord select groups r = .ok (groups.set key t) :=
      tallyRecord_eq_ok_iff.2 ⟨key, hkey, t, hadd, rfl⟩
    exact ⟨groups.set key t, foldlM_concat_eq_ok_iff.2 ⟨groups, hgroups, hstep⟩⟩

/-- The statistics of some records, one by one. -/
structure GroupStats.Of (s : GroupStats) (records : List Record) : Prop where
  count_eq : s.count = records.length
  totalWork_eq : Number.sum (records.map work) = .ok s.totalWork
  averageProgress_eq : ∃ total, Number.sum (records.map progress) = .ok total ∧
    total.dividedBy records.length = .ok s.averageProgress
  completedCount_eq : s.completedCount = records.countP Record.isCompleted
  completionRate_eq : s.completionRate = Number.percent s.completedCount s.count
  rows_eq : s.rows = records.map Row.of

theorem Tally.stats_eq_ok_iff {t : Tally} {s : GroupStats} :
    t.stats = .ok s ↔ ∃ average, t.progress.dividedBy t.count = .ok average ∧
      ⟨t.count, t.work, average, t.completed, Number.percent t.completed t.count, t.rows⟩ = s := by
  simp only [Tally.stats, bind_eq_ok_iff, checked_eq_ok_iff, pure_eq_ok_iff]

theorem Tally.Of.stats {t : Tally} {s : GroupStats} {records : List Record} (h : t.Of records)
    (hstats : t.stats = .ok s) : s.Of records := by
  obtain ⟨average, haverage, rfl⟩ := Tally.stats_eq_ok_iff.1 hstats
  rw [h.count_eq] at haverage
  exact ⟨h.count_eq, h.work_eq, ⟨_, h.progress_eq, haverage⟩, h.completed_eq, rfl, h.rows_eq⟩

/-- What the value of a column adds to a sum: a number adds itself, but a zero of either kind is the
integer, and so is all else. -/
def amount : Value → Number
  | .num (.int n) => .int n
  | .num (.float x) => if x == 0.0 then .int 0 else .float x
  | _ => .int 0

/-- The statistics of some records, read off their columns. -/
structure GroupStats.Describes (s : GroupStats) (records : List Record) : Prop where
  count_eq : s.count = records.length
  /-- The work is summed up from left to right, from the integer zero on. -/
  totalWork_eq : (records.map fun r => amount (r.get "WorkValue")).foldlM Number.add (.int 0) =
    .ok s.totalWork
  /-- The progress is summed up in the same way and divided by the number of all records. -/
  averageProgress_eq : ∃ total,
    (records.map fun r => amount (r.get "ProgressRate")).foldlM Number.add (.int 0) = .ok total ∧
      total.dividedBy records.length = .ok s.averageProgress
  completedCount_eq : s.completedCount =
    records.countP fun r => Record.isNumber (r.get "Status") 900
  completionRate_eq : ∃ share, (Number.int s.completedCount).dividedBy s.count = .ok share ∧
    s.completionRate = share * 100.0
  rows_eq : s.rows = records.map fun r =>
    { id := if (r.get "IssueId").isPresent then r.get "IssueId" else r.get "ResultId"
      title := r.get "Title"
      status := r.get "Status"
      progress := match r.get "ProgressRate" with
        | .num n => some n
        | _ => none }

theorem addend_number? (r : Record) (column : String) :
    addend (r.number? column) = amount (r.get column) := by
  rw [Record.number?]
  cases r.get column with
  | num n =>
    cases n with
    | int n =>
      by_cases hzero : n = 0
      · rw [hzero]
        rfl
      · simp [addend, amount, Number.isZero, hzero]
    | float x => rfl
  | _ => rfl

/-- A part of a count is a share of it that is a double. -/
theorem dividedBy_eq_ratio {part whole : Nat} (h : part ≤ whole) :
    (Number.int part).dividedBy whole = .ok (Number.ratio part whole) := by
  have hshare : Number.nearest? false part whole ≠ none := by
    rcases Nat.eq_zero_or_pos whole with rfl | hwhole
    · obtain rfl := Nat.eq_zero_of_le_zero h
      decide
    · rw [ne_eq, Number.nearest?_eq_none_iff hwhole, Nat.not_le]
      have hone : 1 < Number.firstOverflow := by decide +kernel
      exact h.trans_lt ((Nat.lt_mul_iff_one_lt_left hwhole).2 hone)
  obtain ⟨share, hshare⟩ := Option.ne_none_iff_exists'.1 hshare
  have hnegative : ¬ (part : Int) < 0 := Int.not_lt.2 (Int.natCast_nonneg part)
  simp only [Number.dividedBy, Number.ratio, Int.natAbs_natCast, hnegative, decide_false, hshare,
    Option.getD_some]

theorem GroupStats.Of.completedCount_le {s : GroupStats} {records : List Record}
    (h : s.Of records) : s.completedCount ≤ s.count := by
  rw [h.completedCount_eq, h.count_eq]
  exact List.countP_le_length

theorem GroupStats.Of.describes {s : GroupStats} {records : List Record} (h : s.Of records) :
    s.Describes records where
  count_eq := h.count_eq
  totalWork_eq := by
    simp only [← addend_number?]
    exact h.totalWork_eq
  averageProgress_eq := by
    simp only [← addend_number?]
    exact h.averageProgress_eq
  completedCount_eq := h.completedCount_eq
  completionRate_eq := ⟨_, dividedBy_eq_ratio h.completedCount_le, h.completionRate_eq⟩
  rows_eq := h.rows_eq

/-- Sublists by keys that exclude each other make up the list when every element has a key. -/
theorem flatMap_filter_perm {κ α : Type} {p : κ → α → Bool} {keys : List κ} {as : List α}
    (hexclude : keys.Pairwise fun g h => ∀ a, p g a = true → p h a = false)
    (hcover : ∀ a ∈ as, ∃ g ∈ keys, p g a = true) :
    (keys.flatMap fun g => as.filter (p g)).Perm as := by
  induction keys generalizing as with
  | nil =>
    have hnone : as = [] := List.eq_nil_iff_forall_not_mem.2 fun a ha => by
      obtain ⟨g, hg, -⟩ := hcover a ha
      cases hg
    rw [hnone]
    exact .nil
  | cons g keys ih =>
    obtain ⟨hfirst, hrest⟩ := List.pairwise_cons.1 hexclude
    have hothers : keys.flatMap (fun h => as.filter (p h)) =
        keys.flatMap fun h => (as.filter fun a => !p g a).filter (p h) := by
      refine List.flatMap_congr fun h hh => ?_
      rw [List.filter_filter]
      refine List.filter_congr fun a _ => ?_
      cases hg : p g a with
      | true => simp [hfirst h hh a hg]
      | false => simp
    have hcoverRest : ∀ a ∈ as.filter (fun a => !p g a), ∃ h ∈ keys, p h a = true := by
      intro a ha
      obtain ⟨hmem, hnot⟩ := List.mem_filter.1 ha
      obtain ⟨h, hh, hp⟩ := hcover a hmem
      rcases List.mem_cons.1 hh with rfl | hh
      · simp [hp] at hnot
      · exact ⟨h, hh, hp⟩
    rw [List.flatMap_cons, hothers]
    exact ((ih hrest hcoverRest).append_left _).trans (List.filter_append_perm (p g) as)

/-- What `aggregate` is meant to give. -/
structure Grouped (select : Selector) (records : List Record)
    (groups : Assoc GroupKey GroupStats) : Prop where
  /-- The groups are the distinct keys in the order in which they first come. -/
  keys_eq : ∃ keys, records.mapM (keyOf select) = .ok keys ∧ groups.keys = keys.eraseDups
  distinct : groups.keys.Pairwise fun g h => (h == g) = false
  /-- The statistics are those of the records with the key. -/
  describes : ∀ key stats, (key, stats) ∈ groups → stats.Describes (members select key records)
  nonempty : ∀ key stats, (key, stats) ∈ groups → members select key records ≠ []
  completedCount_le : ∀ key stats, (key, stats) ∈ groups → stats.completedCount ≤ stats.count
  /-- Every record has exactly one of the keys, and the groups together are the records. -/
  exists_unique : ∀ r ∈ records, ∃! key, key ∈ groups.keys ∧ hasKey select key r = true
  partition : (groups.flatMap fun (key, _) => members select key records).Perm records

/-- A success of `aggregate`, taken apart: the pass over the records, then the statistics. -/
theorem exists_passed_of_aggregate {select : Selector} {records : List Record}
    {groups : Assoc GroupKey GroupStats} (h : aggregate records select = .ok groups) :
    ∃ tallies, Passed select records tallies ∧ groups.keys = tallies.keys ∧
      ∀ key stats, (key, stats) ∈ groups → ∃ t, (key, t) ∈ tallies ∧ t.stats = .ok stats := by
  rw [aggregate, bind_eq_ok_iff] at h
  obtain ⟨tallies, hpass, hentries⟩ := h
  refine ⟨tallies, passed_of_foldlM hpass, ?_, ?_⟩
  · rw [Assoc.keys, Assoc.keys, eq_comm, ← List.forall₂_eq_eq_eq, List.forall₂_map_left_iff,
      List.forall₂_map_right_iff]
    refine (mapM_eq_ok_iff.1 hentries).imp fun before after hentry => ?_
    obtain ⟨stats, -, heq⟩ := bind_eq_ok_iff.1 hentry
    rw [← pure_eq_ok_iff.1 heq]
  · intro key stats hmem
    obtain ⟨⟨key', t⟩, ht, hentry⟩ := (mem_of_mapM_eq_ok hentries).1 hmem
    obtain ⟨stats', hstats, heq⟩ := bind_eq_ok_iff.1 hentry
    obtain ⟨rfl, rfl⟩ := Prod.mk.inj (pure_eq_ok_iff.1 heq)
    exact ⟨t, ht, hstats⟩

section Aggregate

variable {select : Selector} {records : List Record} {groups : Assoc GroupKey GroupStats}
  (h : aggregate records select = .ok groups)

include h

theorem keys_of_aggregate :
    ∃ keys, records.mapM (keyOf select) = .ok keys ∧ groups.keys = keys.eraseDups := by
  obtain ⟨tallies, hpassed, htallies, -⟩ := exists_passed_of_aggregate h
  obtain ⟨keys, hkeys, hdistinct⟩ := hpassed.keys_eq
  exact ⟨keys, hkeys, htallies.trans hdistinct⟩

theorem distinct_keys_of_aggregate : groups.keys.Pairwise fun g h => (h == g) = false := by
  obtain ⟨keys, -, hgroups⟩ := keys_of_aggregate h
  exact hgroups ▸ pairwise_eraseDups keys

theorem stats_of_aggregate {key : GroupKey} {stats : GroupStats} (hmem : (key, stats) ∈ groups) :
    stats.Of (members select key records) := by
  obtain ⟨tallies, hpassed, htallies, hentries⟩ := exists_passed_of_aggregate h
  obtain ⟨t, ht, hstats⟩ := hentries key stats hmem
  have htally := hpassed.totals key
  rw [Assoc.get?_of_mem (htallies ▸ distinct_keys_of_aggregate h) ht] at htally
  exact (tallyOf_eq_ok_iff.1 htally).stats hstats

theorem exists_key_of_aggregate {r : Record} (hr : r ∈ records) :
    ∃ key ∈ groups.keys, hasKey select key r = true := by
  obtain ⟨keys, hkeys, hgroups⟩ := keys_of_aggregate h
  obtain ⟨own, hown⟩ := exists_of_mapM_eq_ok hkeys hr
  obtain ⟨key, hkey, hsame⟩ := exists_mem_eraseDups ((mem_of_mapM_eq_ok hkeys).2 ⟨r, hr, hown⟩)
  exact ⟨key, hgroups ▸ hkey, hasKey_iff.2 ⟨own, hown, hsame⟩⟩

theorem exists_member_of_aggregate {key : GroupKey} (hkey : key ∈ groups.keys) :
    ∃ r, r ∈ members select key records := by
  obtain ⟨keys, hkeys, hgroups⟩ := keys_of_aggregate h
  rw [hgroups] at hkey
  obtain ⟨r, hr, hown⟩ := (mem_of_mapM_eq_ok hkeys).1 (mem_of_mem_eraseDups hkey)
  exact ⟨r, List.mem_filter.2 ⟨hr, hasKey_iff.2 ⟨key, hown, BEq.rfl⟩⟩⟩

theorem members_perm_of_aggregate :
    (groups.flatMap fun (key, _) => members select key records).Perm records := by
  have hexclude : groups.keys.Pairwise fun g h => ∀ r, hasKey select g r = true →
      hasKey select h r = false :=
    (distinct_keys_of_aggregate h).imp fun hne r hg => not_hasKey_of_hasKey hne hg
  have hperm := flatMap_filter_perm hexclude fun r hr => exists_key_of_aggregate h hr
  rw [Assoc.keys, List.flatMap_map] at hperm
  exact hperm

theorem aggregate_grouped : Grouped select records groups := by
  have hdistinct := distinct_keys_of_aggregate h
  refine ⟨keys_of_aggregate h, hdistinct, fun _ _ hmem => (stats_of_aggregate h hmem).describes,
    ?_, ?_, ?_, members_perm_of_aggregate h⟩
  · intro key stats hmem
    obtain ⟨r, hr⟩ := exists_member_of_aggregate h (List.mem_map_of_mem hmem)
    exact List.ne_nil_of_mem hr
  · exact fun key stats hmem => (stats_of_aggregate h hmem).completedCount_le
  · intro r hr
    obtain ⟨key, hkey, hhas⟩ := exists_key_of_aggregate h hr
    refine ⟨key, ⟨hkey, hhas⟩, fun other ⟨hother, hhasOther⟩ => ?_⟩
    by_contra hne
    have hapart := eq_false_of_pairwise hdistinct hkey hother (Ne.symm hne)
    rw [not_hasKey_of_hasKey hapart hhasOther] at hhas
    cases hhas

end Aggregate

deriving instance DecidableEq for Row

/-- The keys `1`, `1.0` and `true` are one key, the first of them names the group, and a status of
`900.0` is completed. Zeros and what is no number add nothing to a sum, also not that it is a
double. -/
theorem aggregate_grouped_one_key_of_three_kinds :
    let record := fun key status columns =>
      Record.mk ([("ClassA", key), ("Status", status)] ++ columns)
    let records := [
      record (.int 1) (.int 900)
        [("IssueId", .int 7), ("Title", .str "first"), ("WorkValue", .int 3),
          ("ProgressRate", .int 50)],
      record (.str "a") (.int 100)
        [("IssueId", .int 0), ("ResultId", .int 8), ("WorkValue", .float 0.0),
          ("ProgressRate", .str "half")],
      record (.float 1.0) (.float 900.0) [("WorkValue", .float 1.5), ("ProgressRate", .int 100)],
      record (.bool true) .null [("WorkValue", .bool true)]]
    ∃ groups, aggregate records GroupBy.classA.select = .ok groups ∧
      Grouped GroupBy.classA.select records groups ∧
      groups.map (fun (key, s) => (key.value.kind, s.count, s.completedCount)) =
        [(.int, 3, 2), (.str, 1, 0)] ∧
      groups.map (fun (_, s) => (s.totalWork, s.averageProgress, s.completionRate)) =
        [(.float 4.5, 50.0, 2.0 / 3.0 * 100.0), (.int 0, 0.0, 0.0)] ∧
      groups.map (fun (_, s) => s.rows) =
        [[⟨.int 7, .str "first", .int 900, some (.int 50)⟩,
            ⟨.null, .null, .float 900.0, some (.int 100)⟩, ⟨.null, .null, .null, none⟩],
          [⟨.int 8, .null, .int 100, none⟩]] := by
  intro record records
  have hcounts : ((aggregate records GroupBy.classA.select).map fun groups => groups.map
      fun (key, s) => (key.value.kind, s.count, s.completedCount)).toOption =
        some [(.int, 3, 2), (.str, 1, 0)] := by
    decide +kernel
  have hamounts : ((aggregate records GroupBy.classA.select).map fun groups => groups.map
      fun (_, s) => (s.totalWork, s.averageProgress, s.completionRate)).toOption =
        some [(.float 4.5, 50.0, 2.0 / 3.0 * 100.0), (.int 0, 0.0, 0.0)] := by
    decide +kernel
  have hrows : ((aggregate records GroupBy.classA.select).map fun groups => groups.map
      fun (_, s) => s.rows).toOption =
        some [[⟨.int 7, .str "first", .int 900, some (.int 50)⟩,
            ⟨.null, .null, .float 900.0, some (.int 100)⟩, ⟨.null, .null, .null, none⟩],
          [⟨.int 8, .null, .int 100, none⟩]] := by
    decide +kernel
  obtain ⟨groups, hgroups, hrows⟩ := exists_ok_of_toOption_map hrows
  rw [hgroups] at hcounts hamounts
  exact ⟨groups, hgroups, aggregate_grouped hgroups, Option.some.inj hcounts,
    Option.some.inj hamounts, hrows⟩

theorem GroupStats.Of.exists_tally {stats : GroupStats} {records : List Record}
    (h : stats.Of records) :
    ∃ t, tallyOf records = .ok t ∧ ∃ stats', t.stats = .ok stats' := by
  obtain ⟨total, htotal, haverage⟩ := h.averageProgress_eq
  refine ⟨⟨records.length, stats.totalWork, total, records.countP Record.isCompleted,
    records.map Row.of⟩, ?_, ?_⟩
  · exact tallyOf_eq_ok_iff.2 ⟨rfl, h.totalWork_eq, htotal, rfl, rfl⟩
  · exact ⟨_, Tally.stats_eq_ok_iff.2 ⟨_, haverage, rfl⟩⟩

/-- If every record has statistics of its group, so has every key; a key that no record has keeps
the empty totals. -/
theorem exists_tally_of_members {select : Selector} {records : List Record}
    (h : ∀ r ∈ records, ∃ key, keyOf select r = .ok key ∧
      ∃ stats : GroupStats, stats.Of (members select key records)) (key : GroupKey) :
    ∃ t, tallyOf (members select key records) = .ok t ∧ ∃ stats, t.stats = .ok stats := by
  cases hmembers : members select key records with
  | nil => exact ⟨{}, rfl, _, rfl⟩
  | cons r rest =>
    have hr : r ∈ members select key records := hmembers ▸ List.mem_cons_self
    obtain ⟨hmem, hhas⟩ := List.mem_filter.1 hr
    obtain ⟨own, hown, stats, hstats⟩ := h r hmem
    rw [hasKey_of_keyOf hown] at hhas
    rw [← hmembers, ← members_congr hhas]
    exact hstats.exists_tally

/-- Records can be grouped exactly when every record has a key and the sums and the mean of its
group exist. -/
theorem exists_aggregate_eq_ok_iff {select : Selector} {records : List Record} :
    (∃ groups, aggregate records select = .ok groups) ↔
      ∀ r ∈ records, ∃ key, keyOf select r = .ok key ∧
        ∃ stats : GroupStats, stats.Of (members select key records) := by
  constructor
  · rintro ⟨groups, h⟩ r hr
    obtain ⟨key, hkey, hhas⟩ := exists_key_of_aggregate h hr
    obtain ⟨own, hown, hsame⟩ := hasKey_iff.1 hhas
    obtain ⟨⟨_, stats⟩, hmem, rfl⟩ := List.mem_map.1 hkey
    exact ⟨own, hown, stats, members_congr hsame ▸ stats_of_aggregate h hmem⟩
  · intro h
    obtain ⟨keys, hkeys⟩ := exists_mapM_eq_ok fun r hr => (h r hr).imp fun key hkey => hkey.1
    have htally := exists_tally_of_members h
    obtain ⟨tallies, htallies⟩ := exists_foldlM_eq_ok hkeys fun key =>
      (htally key).imp fun t ht => ht.1
    have hpassed := passed_of_foldlM htallies
    obtain ⟨keys', -, hdistinct⟩ := hpassed.keys_eq
    have hentries : ∀ entry ∈ tallies, ∃ after, (do return (entry.1, ← entry.2.stats) :
        Except Failure (GroupKey × GroupStats)) = .ok after := by
      intro entry hentry
      obtain ⟨t, ht, stats, hstats⟩ := htally entry.1
      have hget := hpassed.totals entry.1
      rw [Assoc.get?_of_mem (hdistinct ▸ pairwise_eraseDups keys') hentry, ht] at hget
      obtain rfl := Except.ok.inj hget
      exact ⟨(entry.1, stats), bind_eq_ok_iff.2 ⟨stats, hstats, rfl⟩⟩
    obtain ⟨groups, hgroups⟩ := exists_mapM_eq_ok hentries
    exact ⟨groups, bind_eq_ok_iff.2 ⟨tallies, htallies, hgroups⟩⟩

end IssueGateway.Stats
