import IssueGateway.Proofs.Assoc
import IssueGateway.Remote.Client

/-!
# What requests carry

A request goes out only if JSON can express all that it carries. The credentials never stand in the
way of that, so it is the data alone that decides.
-/

namespace IssueGateway.Remote

open Json

theorem anyFieldNonFinite_eq_false_iff (fields : Fields) :
    anyFieldNonFinite fields = false ↔ ∀ v ∈ Assoc.values fields, holdsNonFinite v = false := by
  induction fields with
  | nil => simp [anyFieldNonFinite, Assoc.values]
  | cons entry rest ih =>
    obtain ⟨key, v⟩ := entry
    simp only [anyFieldNonFinite, Bool.or_eq_false_iff, ih, Assoc.values, List.map_cons,
      List.forall_mem_cons]

theorem anyFieldNonFinite_append (first second : Fields) :
    anyFieldNonFinite (first ++ second) =
      (anyFieldNonFinite first || anyFieldNonFinite second) := by
  induction first with
  | nil => rfl
  | cons entry rest ih =>
    obtain ⟨key, v⟩ := entry
    rw [List.cons_append, anyFieldNonFinite, ih, anyFieldNonFinite, Bool.or_assoc]

theorem mem_values_overlay {fields updates : Fields} {v : Value}
    (hv : v ∈ Assoc.values (Fields.overlay fields updates)) :
    v ∈ Assoc.values fields ∨ v ∈ Assoc.values updates := by
  induction updates generalizing fields with
  | nil => exact Or.inl hv
  | cons entry rest ih =>
    obtain ⟨key, new⟩ := entry
    rcases @ih (Assoc.set fields key new) hv with hset | hrest
    · rcases Assoc.mem_values_set hset with rfl | hold
      · exact Or.inr (List.mem_cons_self ..)
      · exact Or.inl hold
    · exact Or.inr (List.mem_cons_of_mem _ hrest)

namespace Client

variable (c : Client)

theorem credentials_finite : anyFieldNonFinite c.credentials = false := by
  have hversion : apiVersion.isFinite = true := by decide
  simp [credentials, anyFieldNonFinite, holdsNonFinite, Value.float, hversion]

/-- Data that JSON can express makes a request that JSON can express. -/
theorem request_finite (endpoint : String) {data : Fields}
    (hdata : anyFieldNonFinite data = false) :
    anyFieldNonFinite (c.request endpoint data).body = false := by
  rw [anyFieldNonFinite_eq_false_iff]
  intro v hv
  rcases mem_values_overlay hv with hcredential | hdatum
  · exact (anyFieldNonFinite_eq_false_iff _).1 c.credentials_finite v hcredential
  · exact (anyFieldNonFinite_eq_false_iff _).1 hdata v hdatum

theorem postBy_eq_exchange (retry : RetryPolicy) (endpoint : String) {data : Fields}
    (hdata : anyFieldNonFinite data = false) :
    c.postBy retry endpoint data =
      exchange endpoint (c.request endpoint data) retry.delay retry.retries.toNat := by
  rw [postBy, if_neg]
  rw [c.request_finite endpoint hdata]
  exact Bool.false_ne_true

end Client

end IssueGateway.Remote
