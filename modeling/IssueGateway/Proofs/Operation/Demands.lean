import IssueGateway.Operation.Search
import IssueGateway.Proofs.Number.Order
import IssueGateway.Proofs.Results

/-!
# What arguments have to meet

A check of arguments asks for some things in order. It passes when all of them are met, and names
the rule behind the first one that is not (`Guards`). Checks one after the other ask for what each
of them asks for, so the demands of an operation are read off its checks.
-/

namespace IssueGateway

open Json

/-- What a bound is worth, if it is in order with numbers: a truth value counts as 0 or 1. -/
def Query.Bound.worth? : Query.Bound → Option Number.Worth
  | .number n => n.value?
  | .flag b => some (.rational (if b then 1 else 0))
  | .text _ => none

namespace Operation

/-- What is asked of an argument, and the rule that is broken if it is not met. -/
structure Demand where
  rule : BrokenRule
  Met : Prop

namespace Demand

def id (name : String) (v : Value) : Demand :=
  ⟨.id name v, ∃ n : Int, v = .int n ∧ 0 < n⟩

def offset (v : Value) : Demand :=
  ⟨.offset v, ∃ n : Int, v = .int n ∧ 0 ≤ n⟩

def limit (maximum : Nat) (v : Value) : Demand :=
  ⟨.limit maximum v, ∃ n : Int, v = .int n ∧ 1 ≤ n ∧ n ≤ maximum⟩

def sortOrder (v : Value) : Demand :=
  ⟨.sortOrder v, v = .null ∨ v = .str "asc" ∨ v = .str "desc"⟩

def choice (name : String) (choices : List String) (v : Value) : Demand :=
  ⟨.choice name choices v, ∃ s ∈ choices, v = .str s⟩

def progressBound (bound : Query.Bound) : Demand :=
  ⟨.progressBound bound, ∃ q : ℚ, bound.worth? = some (.rational q) ∧ 0 ≤ q ∧ q ≤ 100⟩

def siteCount (maximum count : Nat) : Demand :=
  ⟨.siteCount maximum count, 1 ≤ count ∧ count ≤ maximum⟩

def someText (s : String) : Demand :=
  ⟨.emptySearch, s ≠ ""⟩

end Demand

/-- The rule behind the first demand that is not met. -/
inductive Refuses : List Demand → BrokenRule → Prop where
  | here {demand : Demand} {rest : List Demand} (hunmet : ¬ demand.Met) :
    Refuses (demand :: rest) demand.rule
  | later {demand : Demand} {rest : List Demand} {rule : BrokenRule} (hmet : demand.Met)
    (hrest : Refuses rest rule) : Refuses (demand :: rest) rule

/-- A check that passes when all demands are met and else fails for the first one that is not. -/
structure Guards {α : Type} (demands : List Demand) (check : Except Failure α) : Prop where
  passes : (∀ demand ∈ demands, demand.Met) → ∃ a, check = .ok a
  refuses : ∀ rule, Refuses demands rule → check = .error (.ofRule rule)

/-- A failure that says that arguments are refused. -/
def IsRefusal (failure : Failure) : Prop :=
  failure.name = .validation

/-- A check that fails for the first demand that is not met. When all are met it may fail later, but
not with a refusal. -/
structure Screens {α : Type} (demands : List Demand) (check : Except Failure α) : Prop where
  admits : (∀ demand ∈ demands, demand.Met) → FailsOnly (fun failure => ¬ IsRefusal failure) check
  refuses : ∀ rule, Refuses demands rule → check = .error (.ofRule rule)

theorem exists_refuses_iff {demands : List Demand} :
    (∃ rule, Refuses demands rule) ↔ ∃ demand ∈ demands, ¬ demand.Met := by
  constructor
  · rintro ⟨rule, hrefuses⟩
    induction hrefuses with
    | here hunmet => exact ⟨_, List.mem_cons_self, hunmet⟩
    | later _ _ ih =>
      obtain ⟨demand, hmem, hunmet⟩ := ih
      exact ⟨demand, List.mem_cons_of_mem _ hmem, hunmet⟩
  · rintro ⟨demand, hmem, hunmet⟩
    induction demands with
    | nil => cases hmem
    | cons first rest ih =>
      by_cases hfirst : first.Met
      · have hrest : demand ∈ rest := by
          rcases List.mem_cons.1 hmem with rfl | hrest
          · exact absurd hfirst hunmet
          · exact hrest
        obtain ⟨rule, hrule⟩ := ih hrest
        exact ⟨rule, .later hfirst hrule⟩
      · exact ⟨first.rule, .here hfirst⟩

/-- The first unmet demand of a list in two parts is in the second part only if the first is met. -/
theorem refuses_append {first second : List Demand} {rule : BrokenRule}
    (h : Refuses (first ++ second) rule) :
    Refuses first rule ∨ (∀ demand ∈ first, demand.Met) ∧ Refuses second rule := by
  induction first with
  | nil => exact Or.inr ⟨fun _ hmem => absurd hmem List.not_mem_nil, h⟩
  | cons demand first ih =>
    cases h with
    | here hunmet => exact Or.inl (.here hunmet)
    | later hmet hrest =>
      rcases ih hrest with hfirst | ⟨hall, hsecond⟩
      · exact Or.inl (.later hmet hfirst)
      · exact Or.inr ⟨List.forall_mem_cons.2 ⟨hmet, hall⟩, hsecond⟩

/-- A rule is broken with a refusal just if the value that breaks it can be shown. -/
theorem isRefusal_ofRule_iff {rule : BrokenRule} :
    IsRefusal (.ofRule rule) ↔ rule.isWritable = true := by
  rw [IsRefusal, Failure.ofRule]
  split <;> simp_all [Failure.name]

/-- A check that goes on with a value screens for the same. -/
theorem Screens.bind_ok {α β : Type} {demands : List Demand} {check : Except Failure α} {f : α → β}
    (hcheck : Screens demands check) : Screens demands (check >>= fun a => .ok (f a)) where
  admits hall := (hcheck.admits hall).bind fun a => .ok (f a)
  refuses rule hrefuses := by
    rw [hcheck.refuses rule hrefuses]
    rfl

namespace Guards

variable {α β : Type} {demands others : List Demand} {check : Except Failure α}

theorem ok (a : α) : Guards [] (.ok a : Except Failure α) where
  passes _ := ⟨a, rfl⟩
  refuses _ h := nomatch h

/-- A check of one thing. -/
theorem one {demand : Demand} (hmet : demand.Met → ∃ a, check = .ok a)
    (hunmet : ¬ demand.Met → check = .error (.ofRule demand.rule)) : Guards [demand] check where
  passes hall := hmet (hall demand (List.mem_singleton.2 rfl))
  refuses rule hrefuses := by
    cases hrefuses with
    | here h => exact hunmet h
    | later _ hrest => cases hrest

/-- What is refused behind a check is refused only if the check has nothing to refuse. -/
theorem refuses_bind {f : α → Except Failure β} (hcheck : Guards demands check)
    (hf : ∀ a rule, Refuses others rule → f a = .error (.ofRule rule)) (rule : BrokenRule)
    (hrefuses : Refuses (demands ++ others) rule) : check >>= f = .error (.ofRule rule) := by
  rcases refuses_append hrefuses with hfirst | ⟨hall, hsecond⟩
  · rw [hcheck.refuses rule hfirst]
    rfl
  · obtain ⟨a, ha⟩ := hcheck.passes hall
    rw [ha]
    exact hf a rule hsecond

theorem bind {f : α → Except Failure β} (hcheck : Guards demands check)
    (hf : ∀ a, Guards others (f a)) : Guards (demands ++ others) (check >>= f) where
  passes hall := by
    rw [List.forall_mem_append] at hall
    obtain ⟨a, ha⟩ := hcheck.passes hall.1
    obtain ⟨b, hb⟩ := (hf a).passes hall.2
    exact ⟨b, bind_eq_ok_iff.2 ⟨a, ha, hb⟩⟩
  refuses := hcheck.refuses_bind fun a => (hf a).refuses

theorem screens (hcheck : Guards demands check) : Screens demands check where
  admits hall := by
    obtain ⟨a, ha⟩ := hcheck.passes hall
    rw [ha]
    exact .ok a
  refuses := hcheck.refuses

theorem bind_screens {f : α → Except Failure β} (hcheck : Guards demands check)
    (hf : ∀ a, Screens others (f a)) : Screens (demands ++ others) (check >>= f) where
  admits hall := by
    rw [List.forall_mem_append] at hall
    obtain ⟨a, ha⟩ := hcheck.passes hall.1
    rw [ha]
    exact (hf a).admits hall.2
  refuses := hcheck.refuses_bind fun a => (hf a).refuses

/-- A check that goes on with a value asks for no more. -/
theorem bind_ok {f : α → β} (hcheck : Guards demands check) :
    Guards demands (check >>= fun a => .ok (f a)) := by
  have hbind : Guards (demands ++ []) (check >>= fun a => .ok (f a)) :=
    hcheck.bind fun a => .ok (f a)
  rwa [List.append_nil] at hbind

/-- A check that goes on with something that refuses nothing. -/
theorem bind_later {f : α → Except Failure β} (hcheck : Guards demands check)
    (hf : ∀ a, FailsOnly (fun failure => ¬ IsRefusal failure) (f a)) :
    Screens demands (check >>= f) := by
  have hbind : Screens (demands ++ []) (check >>= f) :=
    hcheck.bind_screens fun a => ⟨fun _ => hf a, fun _ h => nomatch h⟩
  rwa [List.append_nil] at hbind

theorem mapM {ι : Type} {demand : ι → Demand} {f : ι → Except Failure α}
    (hf : ∀ i, Guards [demand i] (f i)) (is : List ι) :
    Guards (is.map demand) (is.mapM f) := by
  induction is with
  | nil => exact ok []
  | cons i is ih =>
    rw [List.map_cons, List.mapM_cons]
    exact (hf i).bind fun a => ih.bind_ok

theorem forIn {ι : Type} {demand : ι → Demand} {f : ι → Except Failure PUnit} {is : List ι}
    (hf : ∀ i ∈ is, Guards [demand i] (f i)) :
    Guards (is.map demand) (forIn is PUnit.unit fun i _ => do
      f i
      return ForInStep.yield PUnit.unit) := by
  induction is with
  | nil => exact ok PUnit.unit
  | cons i is ih =>
    rw [List.forall_mem_cons] at hf
    rw [List.map_cons, List.forIn_cons]
    simp only [bind_assoc, pure_bind]
    exact hf.1.bind fun _ => ih hf.2

end Guards

section Checks

/-- An integer passes a check of integers just as it is. -/
theorem integer_eq_ok_iff {failure : Failure} {p : Int → Prop} [DecidablePred p] {v : Value}
    {n : Int} :
    (match v with
      | .num (.int n) => if p n then .ok n else .error failure
      | _ => .error failure : Except Failure Int) = .ok n ↔ v = .int n ∧ p n := by
  cases v with
  | num m =>
    cases m with
    | int m =>
      by_cases hm : p m
      · simp only [hm, if_true, Except.ok.injEq, Value.int, Value.num.injEq, Number.int.injEq]
        constructor
        · rintro rfl
          exact ⟨rfl, hm⟩
        · exact And.left
      · simp only [hm, if_false, reduceCtorEq, Value.int, Value.num.injEq, Number.int.injEq,
          false_iff, not_and]
        rintro rfl
        exact hm
    | float x => simp [Value.int]
  | _ => simp [Value.int]

theorem checkId_eq_ok_iff {name : String} {v : Value} {n : Int} :
    checkId name v = .ok n ↔ v = .int n ∧ 0 < n :=
  integer_eq_ok_iff

theorem checkOffset_eq_ok_iff {v : Value} {n : Int} :
    checkOffset v = .ok n ↔ v = .int n ∧ 0 ≤ n :=
  integer_eq_ok_iff

theorem checkLimit_eq_ok_iff {maximum : Nat} {v : Value} {n : Int} :
    checkLimit maximum v = .ok n ↔ v = .int n ∧ 1 ≤ n ∧ n ≤ maximum :=
  integer_eq_ok_iff

theorem guards_integer {rule : BrokenRule} {p : Int → Prop} [DecidablePred p] (v : Value) :
    Guards [⟨rule, ∃ n : Int, v = .int n ∧ p n⟩]
      (match v with
        | .num (.int n) => if p n then .ok n else .error (.ofRule rule)
        | _ => .error (.ofRule rule) : Except Failure Int) := by
  apply Guards.one
  · rintro ⟨n, rfl, hn⟩
    exact ⟨n, if_pos hn⟩
  · intro hunmet
    cases v with
    | num n =>
      cases n with
      | int n => exact if_neg fun hn => hunmet ⟨n, rfl, hn⟩
      | float x => rfl
    | _ => rfl

theorem guards_checkId (name : String) (v : Value) : Guards [.id name v] (checkId name v) :=
  guards_integer v

theorem guards_checkOffset (v : Value) : Guards [.offset v] (checkOffset v) :=
  guards_integer v

theorem guards_checkLimit (maximum : Nat) (v : Value) :
    Guards [.limit maximum v] (checkLimit maximum v) :=
  guards_integer v

theorem guards_checkSortOrder (v : Value) : Guards [.sortOrder v] (checkSortOrder v) := by
  apply Guards.one
  · rintro (rfl | rfl | rfl)
    · exact ⟨none, rfl⟩
    · exact ⟨some "asc", rfl⟩
    · exact ⟨some "desc", rfl⟩
  · intro hunmet
    cases v with
    | null => exact absurd (Or.inl rfl) hunmet
    | str s =>
      apply if_neg
      intro hmem
      apply hunmet
      simpa [Demand.sortOrder, sortOrders] using hmem
    | _ => rfl

theorem guards_checkChoice {α : Type} (argument : String) (all : List α) (name : α → String)
    (v : Value) :
    Guards [.choice argument (all.map name) v] (checkChoice argument all name v) := by
  apply Guards.one
  · rintro ⟨s, hs, rfl⟩
    obtain ⟨a, ha, rfl⟩ := List.mem_map.1 hs
    have hfound : (all.find? fun b => name b == name a).isSome = true :=
      List.find?_isSome.2 ⟨a, ha, beq_self_eq_true _⟩
    obtain ⟨b, hb⟩ := Option.isSome_iff_exists.1 hfound
    refine ⟨b, ?_⟩
    simp only [checkChoice, hb]
  · intro hunmet
    cases v with
    | str s =>
      have hnone : (all.find? fun a => name a == s) = none := by
        apply List.find?_eq_none.2
        intro a ha hname
        exact hunmet ⟨name a, List.mem_map_of_mem ha, congrArg Value.str (beq_iff_eq.1 hname).symm⟩
      simp only [checkChoice, hnone]
      rfl
    | _ => rfl

theorem guards_checkProgressBound {bound : Query.Bound} (hdeclared : ∀ s, bound ≠ .text s) :
    Guards [.progressBound bound] (checkProgressBound bound) := by
  cases bound with
  | number n =>
    have hwithin : (Number.le (.int 0) n && n.le (.int 100)) = true ↔
        (Demand.progressBound (.number n)).Met := by
      rw [Number.between_iff]
      exact_mod_cast Iff.rfl
    apply Guards.one
    · intro hmet
      exact ⟨(), if_pos (hwithin.2 hmet)⟩
    · intro hunmet
      exact if_neg fun h => hunmet (hwithin.1 h)
  | flag b =>
    apply Guards.one
    · intro _
      exact ⟨(), rfl⟩
    · intro hunmet
      apply absurd _ hunmet
      cases b <;> exact ⟨_, rfl, by norm_num⟩
  | text s => exact absurd rfl (hdeclared s)

/-- The check of how many sites there are. -/
def checkSiteCount (sites : List Value) : Except Failure Unit :=
  if sites.isEmpty ∨ maxSites < sites.length then
    .error (.ofRule (.siteCount maxSites sites.length))
  else .ok ()

def checkSomeText (s : String) : Except Failure Unit :=
  if s.isEmpty then .error (.ofRule .emptySearch) else .ok ()

theorem guards_checkSiteCount (sites : List Value) :
    Guards [.siteCount 10 sites.length] (checkSiteCount sites) := by
  have hcount : (sites.isEmpty ∨ maxSites < sites.length) ↔
      ¬ (Demand.siteCount 10 sites.length).Met := by
    simp only [Demand.siteCount, maxSites, List.isEmpty_iff_length_eq_zero]
    omega
  apply Guards.one
  · intro hmet
    exact ⟨(), if_neg fun h => hcount.1 h hmet⟩
  · intro hunmet
    exact if_pos (hcount.2 hunmet)

theorem guards_checkSomeText (s : String) : Guards [.someText s] (checkSomeText s) := by
  apply Guards.one
  · intro hmet
    exact ⟨(), if_neg fun h => hmet (String.isEmpty_iff.1 h)⟩
  · intro hunmet
    exact if_pos (String.isEmpty_iff.2 (not_not.1 hunmet))

/-- The check of a search of many sites as its checks one after the other. -/
theorem MultiSiteArguments.check_eq (a : MultiSiteArguments) :
    a.check = (checkSiteCount a.sites >>= fun _ =>
      a.sites.mapM (checkId "site_ids") >>= fun sites =>
        checkSomeText a.search >>= fun _ =>
          checkLimit maxPerSiteLimit a.limit >>= fun limit => .ok (sites, limit)) := by
  rw [check, checkSiteCount]
  split
  · rfl
  · refine congrArg _ (funext fun sites => ?_)
    rw [checkSomeText]
    split <;> rfl

end Checks

end Operation

end IssueGateway
