import IssueGateway.Proofs.Number.Literal
import IssueGateway.Proofs.Results
import IssueGateway.Settings

/-!
# What an environment configures

An environment is refused for a fault of one of its variables and for nothing else; every other one
gives settings, which its variables determine (`load_settles`). The base of addresses is the text
given for it without the blanks around it and then without the slashes at its end. It is the text
before the second step that must not be empty. So slashes alone pass and leave no base, and a base
with blanks before its last slashes keeps them (`EndsInSlashes`).
-/

namespace IssueGateway.Settings

open Text

/-- A variable is set to a text that is not empty. -/
def Given (env : Environment) (key raw : String) : Prop :=
  Assoc.get? env key = some raw ∧ raw ≠ ""

/-- A variable is not set, or to nothing but blanks. -/
def Lacks (env : Environment) (key : String) : Prop :=
  ∀ raw ∈ Assoc.get? env key, ∀ c ∈ raw.toList, isBlank c = true

/-- One of the two required variables is lacking. -/
def IsIncomplete (env : Environment) : Prop :=
  Lacks env "PLEASANTER_BASE_URL" ∨ Lacks env "PLEASANTER_API_KEY"

/-- What is wrong with an environment. -/
inductive Fault (env : Environment) : ConfigError → Prop
  | missing (h : IsIncomplete env) : Fault env .missing
  | notANumber {key raw : String}
      (hkey : key = "PLEASANTER_TIMEOUT" ∨ key = "PLEASANTER_RETRY_DELAY")
      (hraw : Given env key raw) (h : ∀ x, ¬ Number.RealText raw x) :
      Fault env (.notANumber key raw)
  | notAnInteger {raw : String} (hraw : Given env "PLEASANTER_RETRIES" raw)
      (h : ∀ n, ¬ Number.IntegerText raw n) : Fault env (.notAnInteger "PLEASANTER_RETRIES" raw)

/-- The value of an optional variable: what its text denotes, or a default if there is none. -/
inductive Chosen {α : Type} (Denotes : String → α → Prop) (env : Environment) (key : String)
    (default : α) : α → Prop
  | default (h : ∀ raw, ¬ Given env key raw) : Chosen Denotes env key default default
  | given {raw : String} {a : α} (hraw : Given env key raw) (h : Denotes raw a) :
      Chosen Denotes env key default a

/-- The reals as numbers. -/
def RealSetting (raw : String) (n : Number) : Prop :=
  ∃ x, Number.RealText raw x ∧ .float x = n

/-- The settings that an environment stands for. -/
structure Configures (env : Environment) (s : Settings) : Prop where
  baseUrl : ∃ raw slashes, Assoc.get? env "PLEASANTER_BASE_URL" = some raw ∧
    TrimsTo isBlank raw.toList (s.baseUrl.toList ++ slashes) ∧ ∀ c ∈ slashes, c = '/'
  baseUrl_end : ∀ c ∈ s.baseUrl.toList.getLast?, c ≠ '/'
  apiKey : ∃ raw, Assoc.get? env "PLEASANTER_API_KEY" = some raw ∧
    TrimsTo isBlank raw.toList s.apiKey.toList
  apiKey_ne : s.apiKey ≠ ""
  timeout : Chosen RealSetting env "PLEASANTER_TIMEOUT" (.float 30.0) s.timeout
  retries : Chosen Number.IntegerText env "PLEASANTER_RETRIES" 3 s.retries
  retryDelay : Chosen RealSetting env "PLEASANTER_RETRY_DELAY" (.float 1.0) s.retryDelay

/-- Whether the text given for the base, without the blanks around it, is nothing but slashes or has
a blank before the slashes at its end. -/
def EndsInSlashes (env : Environment) : Prop :=
  ∃ raw front slashes, Assoc.get? env "PLEASANTER_BASE_URL" = some raw ∧
    TrimsTo isBlank raw.toList (front ++ slashes) ∧ slashes ≠ [] ∧ (∀ c ∈ slashes, c = '/') ∧
      ∀ c ∈ front.getLast?, isBlank c = true

variable {env : Environment} {key raw : String}

/-! ### Required variables -/

theorem toList_required (env : Environment) (key : String) :
    (required env key).toList = trimBy isBlank ((Assoc.get? env key).getD "").toList :=
  String.toList_ofList

theorem required_eq_empty_iff : required env key = "" ↔ Lacks env key := by
  rw [← String.toList_inj, toList_required]
  change trimBy isBlank _ = [] ↔ _
  rw [trimBy_eq_nil_iff, Lacks]
  cases Assoc.get? env key with
  | none => simp
  | some raw => simp

theorem trimsTo_required (h : required env key ≠ "") : ∃ raw, Assoc.get? env key = some raw ∧
    TrimsTo isBlank raw.toList (required env key).toList := by
  rw [toList_required]
  cases hget : Assoc.get? env key with
  | none =>
    refine absurd (required_eq_empty_iff.2 fun raw hraw => ?_) h
    rw [hget] at hraw
    cases hraw
  | some raw => exact ⟨raw, rfl, trimsTo_trimBy isBlank raw.toList⟩

/-! ### Optional variables -/

section Optional

variable {α : Type} {read : String → Option α} {cause : String → ConfigError} {default a : α}
  {Denotes : String → α → Prop}

/-- An optional variable, read in some way, and what is wrong with a text that is not read. -/
def optional (read : String → Option α) (cause : String → ConfigError) (env : Environment)
    (key : String) (default : α) : Except ConfigError α :=
  match given? env key with
  | none => .ok default
  | some raw => match read raw with
    | some a => .ok a
    | none => .error (cause raw)

theorem given?_eq_some_iff : given? env key = some raw ↔ Given env key raw := by
  rw [given?, Option.filter_eq_some_iff, Given]
  simp

theorem optional_eq_ok_iff (hread : ∀ raw a, read raw = some a ↔ Denotes raw a) :
    optional read cause env key default = .ok a ↔ Chosen Denotes env key default a := by
  rw [optional]
  constructor
  · intro h
    split at h
    · rename_i hnone
      obtain rfl := Except.ok.inj h
      refine .default fun raw hraw => ?_
      rw [given?_eq_some_iff.2 hraw] at hnone
      cases hnone
    · rename_i raw hraw
      split at h
      · rename_i hsome
        obtain rfl := Except.ok.inj h
        exact .given (given?_eq_some_iff.1 hraw) ((hread _ _).1 hsome)
      · cases h
  · intro h
    cases h with
    | default h =>
      have hnone : given? env key = none :=
        Option.eq_none_iff_forall_not_mem.2 fun raw hraw => h raw (given?_eq_some_iff.1 hraw)
      rw [hnone]
    | given hraw h =>
      rw [given?_eq_some_iff.2 hraw]
      dsimp only
      rw [(hread _ _).2 h]

theorem optional_eq_error_iff (hread : ∀ raw a, read raw = some a ↔ Denotes raw a)
    {e : ConfigError} : optional read cause env key default = .error e ↔
      ∃ raw, Given env key raw ∧ (∀ a, ¬ Denotes raw a) ∧ cause raw = e := by
  rw [optional]
  constructor
  · intro h
    split at h
    · cases h
    · rename_i raw hraw
      split at h
      · cases h
      · rename_i hnone
        refine ⟨raw, given?_eq_some_iff.1 hraw, fun a ha => ?_, Except.error.inj h⟩
        rw [(hread raw a).2 ha] at hnone
        cases hnone
  · rintro ⟨raw, hraw, h, rfl⟩
    have hnone : read raw = none :=
      Option.eq_none_iff_forall_not_mem.2 fun a ha => h a ((hread raw a).1 ha)
    rw [given?_eq_some_iff.2 hraw]
    dsimp only
    rw [hnone]

theorem real_eq (env : Environment) (key : String) (default : Number) : real env key default =
    optional (fun raw => (Number.readReal? raw).map .float) (.notANumber key) env key default := by
  rw [real, optional]
  cases given? env key with
  | none => rfl
  | some raw =>
    dsimp only
    cases Number.readReal? raw <;> rfl

theorem integer_eq (env : Environment) (key : String) (default : Int) : integer env key default =
    optional (fun raw => (Number.readInteger raw).toOption) (.notAnInteger key) env key default := by
  rw [integer, optional]
  cases given? env key with
  | none => rfl
  | some raw =>
    dsimp only
    cases Number.readInteger raw <;> rfl

theorem readsReal (raw : String) (n : Number) :
    (Number.readReal? raw).map .float = some n ↔ RealSetting raw n := by
  simp [Option.map_eq_some_iff, Number.readReal?_eq_some_iff, RealSetting]

theorem readsInteger (raw : String) (n : Int) :
    (Number.readInteger raw).toOption = some n ↔ Number.IntegerText raw n := by
  rw [← Number.readInteger_eq_ok_iff]
  cases Number.readInteger raw <;> simp [Except.toOption]

end Optional

theorem real_eq_ok_iff {default n : Number} :
    real env key default = .ok n ↔ Chosen RealSetting env key default n := by
  rw [real_eq]
  exact optional_eq_ok_iff readsReal

theorem real_eq_error_iff {default : Number} {e : ConfigError} :
    real env key default = .error e ↔
      ∃ raw, Given env key raw ∧ (∀ x, ¬ Number.RealText raw x) ∧ .notANumber key raw = e := by
  rw [real_eq, optional_eq_error_iff readsReal]
  simp [RealSetting]

theorem integer_eq_ok_iff {default n : Int} :
    integer env key default = .ok n ↔ Chosen Number.IntegerText env key default n := by
  rw [integer_eq]
  exact optional_eq_ok_iff readsInteger

theorem integer_eq_error_iff {default : Int} {e : ConfigError} :
    integer env key default = .error e ↔
      ∃ raw, Given env key raw ∧ (∀ n, ¬ Number.IntegerText raw n) ∧ .notAnInteger key raw = e := by
  rw [integer_eq, optional_eq_error_iff readsInteger]

/-! ### Slashes at the end -/

section Slashes

variable {front slashes : List Char} {s : String}

theorem toList_dropTrailingSlashes (s : String) : (dropTrailingSlashes s).toList =
    (s.toList.reverse.dropWhile (· == '/')).reverse :=
  String.toList_ofList

/-- Slashes, and nothing else, are dropped from the end. -/
theorem exists_slashes (s : String) : ∃ slashes,
    s.toList = (dropTrailingSlashes s).toList ++ slashes ∧ ∀ c ∈ slashes, c = '/' := by
  refine ⟨(s.toList.reverse.takeWhile (· == '/')).reverse, ?_, fun c hc => ?_⟩
  · rw [toList_dropTrailingSlashes, ← List.reverse_append, List.takeWhile_append_dropWhile,
      List.reverse_reverse]
  · simpa using List.mem_takeWhile_imp (List.mem_reverse.1 hc)

theorem getLast?_dropTrailingSlashes (s : String) :
    ∀ c ∈ (dropTrailingSlashes s).toList.getLast?, c ≠ '/' := by
  intro c hc
  rw [toList_dropTrailingSlashes, List.getLast?_reverse] at hc
  simpa using drop_head?_dropWhile (· == '/') _ c hc

theorem dropTrailingSlashes_append (hs : s.toList = front ++ slashes)
    (hslashes : ∀ c ∈ slashes, c = '/') (hfront : ∀ c ∈ front.getLast?, c ≠ '/') :
    (dropTrailingSlashes s).toList = front := by
  have hdrop : ∀ c ∈ slashes.reverse, (c == '/') = true := by
    simpa using hslashes
  have hkeep : front.reverse.dropWhile (· == '/') = front.reverse := by
    apply dropWhile_eq_self_of_head
    simpa using hfront
  rw [toList_dropTrailingSlashes, hs, List.reverse_append, List.dropWhile_append_of_pos hdrop,
    hkeep, List.reverse_reverse]

/-- A trimmed text stays one without the slashes at its end, unless there are some and nothing or a
blank stands before them. -/
theorem isTrimmed_front_iff (hne : front ++ slashes ≠ [])
    (htrimmed : IsTrimmed isBlank (front ++ slashes)) :
    front ≠ [] ∧ IsTrimmed isBlank front ↔
      ¬ (slashes ≠ [] ∧ ∀ c ∈ front.getLast?, isBlank c = true) := by
  cases hlast : front.getLast? with
  | none =>
    obtain rfl := List.getLast?_eq_none_iff.1 hlast
    simp_all
  | some last =>
    have hfront : front ≠ [] := by
      rintro rfl
      cases hlast
    have hhead : ∀ c ∈ front.head?, isBlank c = false := by
      rw [← List.head?_append_of_ne_nil _ hfront]
      exact htrimmed.1
    by_cases hslashes : slashes = []
    · rw [hslashes, List.append_nil] at htrimmed
      simp [hfront, htrimmed, hslashes]
    · simpa [hfront, hslashes, IsTrimmed, hlast] using fun _ => hhead

/-- A base is complete, or its text ends in slashes behind nothing or a blank. -/
theorem complete_iff (hget : Assoc.get? env "PLEASANTER_BASE_URL" = some raw)
    (htrims : TrimsTo isBlank raw.toList s.toList) (hne : s ≠ "") :
    dropTrailingSlashes s ≠ "" ∧ IsTrimmed isBlank (dropTrailingSlashes s).toList ↔
      ¬ EndsInSlashes env := by
  obtain ⟨slashes, hs, hslashes⟩ := exists_slashes s
  have htext : (dropTrailingSlashes s).toList ++ slashes ≠ [] := by
    rw [← hs]
    exact fun hnil => hne (String.toList_inj.1 hnil)
  -- the last slashes of the text are told apart from what stands before them in one way only
  have hends : EndsInSlashes env ↔ slashes ≠ [] ∧
      ∀ c ∈ (dropTrailingSlashes s).toList.getLast?, isBlank c = true := by
    constructor
    · rintro ⟨raw', front, slashes', hget', htrims', hne', hslashes', hfront⟩
      obtain rfl := Option.some.inj (hget.symm.trans hget')
      have hs' : s.toList = front ++ slashes' := htrims.trimBy_eq.symm.trans htrims'.trimBy_eq
      have hdrop : (dropTrailingSlashes s).toList = front := by
        refine dropTrailingSlashes_append hs' hslashes' fun c hc => ?_
        rintro rfl
        exact absurd (hfront _ hc) (by decide)
      rw [hdrop] at hs ⊢
      exact ⟨List.append_cancel_left (hs'.symm.trans hs) ▸ hne', hfront⟩
    · rintro ⟨hnonempty, hblank⟩
      exact ⟨raw, _, slashes, hget, hs ▸ htrims, hnonempty, hslashes, hblank⟩
  have hempty : dropTrailingSlashes s = "" ↔ (dropTrailingSlashes s).toList = [] :=
    String.toList_inj.symm
  rw [hends, Ne, hempty]
  exact isTrimmed_front_iff htext (hs ▸ htrims.isTrimmed)

end Slashes

/-! ### Loading -/

variable {s : Settings} {cause : ConfigError}

theorem isEmpty_or_iff : ((required env "PLEASANTER_BASE_URL").isEmpty ||
    (required env "PLEASANTER_API_KEY").isEmpty) = true ↔ IsIncomplete env := by
  simp [IsIncomplete, ← required_eq_empty_iff]

theorem load_of_incomplete (h : IsIncomplete env) : load env = .error .missing := by
  rw [load]
  dsimp only
  rw [if_pos (isEmpty_or_iff.2 h)]
  rfl

theorem load_of_complete (h : ¬ IsIncomplete env) : load env = (do
      let timeout ← real env "PLEASANTER_TIMEOUT" (.float 30.0)
      let retries ← integer env "PLEASANTER_RETRIES" 3
      let retryDelay ← real env "PLEASANTER_RETRY_DELAY" (.float 1.0)
      return ⟨dropTrailingSlashes (required env "PLEASANTER_BASE_URL"),
        required env "PLEASANTER_API_KEY", timeout, retries, retryDelay⟩) := by
  rw [load]
  dsimp only
  rw [if_neg (mt isEmpty_or_iff.1 h)]

theorem load_eq_ok_iff : load env = .ok s ↔ ¬ IsIncomplete env ∧
    ∃ timeout, real env "PLEASANTER_TIMEOUT" (.float 30.0) = .ok timeout ∧
    ∃ retries, integer env "PLEASANTER_RETRIES" 3 = .ok retries ∧
    ∃ retryDelay, real env "PLEASANTER_RETRY_DELAY" (.float 1.0) = .ok retryDelay ∧
      ⟨dropTrailingSlashes (required env "PLEASANTER_BASE_URL"),
        required env "PLEASANTER_API_KEY", timeout, retries, retryDelay⟩ = s := by
  by_cases hmissing : IsIncomplete env
  · simp [load_of_incomplete hmissing, hmissing]
  · simp only [load_of_complete hmissing, bind_eq_ok_iff, pure_eq_ok_iff, hmissing, not_false_iff,
      true_and]

theorem fault_of_load (h : load env = .error cause) : Fault env cause := by
  by_cases hmissing : IsIncomplete env
  · rw [load_of_incomplete hmissing] at h
    obtain rfl := Except.error.inj h
    exact .missing hmissing
  · simp only [load_of_complete hmissing, bind_eq_error_iff] at h
    obtain h | ⟨_, -, h | ⟨_, -, h | ⟨_, -, h⟩⟩⟩ := h
    · obtain ⟨raw, hraw, hnot, rfl⟩ := real_eq_error_iff.1 h
      exact .notANumber (.inl rfl) hraw hnot
    · obtain ⟨raw, hraw, hnot, rfl⟩ := integer_eq_error_iff.1 h
      exact .notAnInteger hraw hnot
    · obtain ⟨raw, hraw, hnot, rfl⟩ := real_eq_error_iff.1 h
      exact .notANumber (.inr rfl) hraw hnot
    · cases h

theorem not_fault_of_load (h : load env = .ok s) : ¬ Fault env cause := by
  obtain ⟨hgiven, timeout, htimeout, retries, hretries, retryDelay, hretryDelay, -⟩ :=
    load_eq_ok_iff.1 h
  intro hfault
  cases hfault with
  | missing h => exact hgiven h
  | notANumber hkey hraw hnot =>
    obtain rfl | rfl := hkey
    · rw [real_eq_error_iff.2 ⟨_, hraw, hnot, rfl⟩] at htimeout
      cases htimeout
    · rw [real_eq_error_iff.2 ⟨_, hraw, hnot, rfl⟩] at hretryDelay
      cases hretryDelay
  | notAnInteger hraw hnot =>
    rw [integer_eq_error_iff.2 ⟨_, hraw, hnot, rfl⟩] at hretries
    cases hretries

theorem configures_of_load (h : load env = .ok s) : Configures env s := by
  obtain ⟨hgiven, timeout, htimeout, retries, hretries, retryDelay, hretryDelay, rfl⟩ :=
    load_eq_ok_iff.1 h
  have hbase := mt required_eq_empty_iff.1 (not_or.1 hgiven).1
  have hkey := mt required_eq_empty_iff.1 (not_or.1 hgiven).2
  obtain ⟨slashes, hslashes, hall⟩ := exists_slashes (required env "PLEASANTER_BASE_URL")
  obtain ⟨raw, hraw, htrims⟩ := trimsTo_required hbase
  exact {
    baseUrl := ⟨raw, slashes, hraw, hslashes ▸ htrims, hall⟩
    baseUrl_end := getLast?_dropTrailingSlashes _
    apiKey := trimsTo_required hkey
    apiKey_ne := hkey
    timeout := real_eq_ok_iff.1 htimeout
    retries := integer_eq_ok_iff.1 hretries
    retryDelay := real_eq_ok_iff.1 hretryDelay }

/-- An environment is refused for a fault of its own; otherwise it has none, and the settings are
those that it stands for. Their base is complete unless its text ends in slashes behind nothing or a
blank. -/
theorem load_settles (env : Environment) : match load env with
    | .error cause => Fault env cause
    | .ok s => (∀ cause, ¬ Fault env cause) ∧ Configures env s ∧
      (s.baseUrl ≠ "" ∧ IsTrimmed isBlank s.baseUrl.toList ↔ ¬ EndsInSlashes env) := by
  cases h : load env with
  | error cause => exact fault_of_load h
  | ok s =>
    refine ⟨fun _ => not_fault_of_load h, configures_of_load h, ?_⟩
    obtain ⟨hgiven, _, -, _, -, _, -, rfl⟩ := load_eq_ok_iff.1 h
    have hbase := mt required_eq_empty_iff.1 (not_or.1 hgiven).1
    obtain ⟨raw, hraw, htrims⟩ := trimsTo_required hbase
    exact complete_iff hraw htrims hbase

example : load [("PLEASANTER_BASE_URL", "/"), ("PLEASANTER_API_KEY", "k-123")] =
    .ok { baseUrl := "", apiKey := "k-123" } := by
  rfl

example : load [("PLEASANTER_BASE_URL", "http://host /"), ("PLEASANTER_API_KEY", "k-123")] =
    .ok { baseUrl := "http://host ", apiKey := "k-123" } := by
  rfl

end IssueGateway.Settings
