/-
# Identities, statuses and the arithmetic of the governor

The governor is written over fixed-width machine words.  A field that the code only copies,
compares or writes out is modelled with its own width (`UInt64`, `UInt32`, `Int64`); a
*quantity* the evaluator calculates with is a natural number or an integer, and every
operation on it that the source does not check is one of the *trapping* operations below:
it stops with `Fault.wraps` as soon as the machine word would wrap.  An evaluation that does
not end in `Fault.wraps` is therefore the evaluation of the machine.  A subtraction that the
source guards on the spot, by a comparison or by taking a minimum, is written as the
subtraction of the naturals.
-/
import Mathlib.Tactic

namespace FairnessGovernor

/-! ## Bounded-domain limits -/

/-- Largest service magnitude representable for a single subject in a window. -/
def kMaxServiceUnits : ℕ := 2 ^ 40
/-- Largest number of subjects in one policy. -/
def kMaxSubjects : ℕ := 4096
/-- Largest number of fairness groups in one policy. -/
def kMaxGroups : ℕ := 256
/-- Largest group nesting depth (a root group has depth 1). -/
def kMaxGroupDepth : ℕ := 8
/-- Largest share weight for a subject or group. -/
def kMaxShareWeight : ℕ := 0x7FFFFFFF
/-- Largest cumulative deficit/surplus carried per subject. -/
def kMaxCarryUnits : ℕ := 2 ^ 48
/-- Largest number of corrective intents emitted in one decision. -/
def kMaxCorrectiveIntents : ℕ := 2 * 4096
/-- Largest number of evidence records inside one snapshot. -/
def kMaxEvidenceRecords : ℕ := 4096
/-- Largest encoded durable record. -/
def kMaxDurablePayloadBytes : ℕ := 2 ^ 22
/-- Denominator of basis-point modifiers. -/
def kBasisPointScale : ℕ := 10000
/-- Largest magnitude of a priority/value modifier, in basis points. -/
def kMaxPriorityModifierBps : ℕ := 100000

/-! ## Identities and generations -/

/-- A strongly typed 64-bit identity.  Value 0 is reserved to mean "absent". -/
structure Id (Tag : Type) where
  value : UInt64 := 0
deriving Inhabited

/-- A strongly typed monotonic generation counter; 0 means "not published yet". -/
structure Generation (Tag : Type) where
  value : UInt64 := 0
deriving Inhabited

@[ext] lemma Id.ext {Tag : Type} {a b : Id Tag} (h : a.value = b.value) : a = b := by
  cases a; cases b; simpa using h

@[ext] lemma Generation.ext {Tag : Type} {a b : Generation Tag} (h : a.value = b.value) :
    a = b := by
  cases a; cases b; simpa using h

instance {Tag : Type} : DecidableEq (Id Tag) := fun a b =>
  decidable_of_iff (a.value = b.value) ⟨Id.ext, fun h => h ▸ rfl⟩

instance {Tag : Type} : DecidableEq (Generation Tag) := fun a b =>
  decidable_of_iff (a.value = b.value) ⟨Generation.ext, fun h => h ▸ rfl⟩

instance {Tag : Type} : LawfulBEq (Id Tag) := inferInstance

/-- `Id::valid`. -/
def Id.valid {Tag : Type} (a : Id Tag) : Prop := a.value ≠ 0

/-- `Generation::valid`. -/
def Generation.valid {Tag : Type} (a : Generation Tag) : Prop := a.value ≠ 0

instance {Tag : Type} (a : Id Tag) : Decidable a.valid :=
  inferInstanceAs (Decidable (a.value ≠ 0))

instance {Tag : Type} (a : Generation Tag) : Decidable a.valid :=
  inferInstanceAs (Decidable (a.value ≠ 0))

/-- `Generation::next` saturates: a wrapped generation would make stale work look fresh. -/
def Generation.next {Tag : Type} (a : Generation Tag) : Generation Tag :=
  if a.value = 0xFFFFFFFFFFFFFFFF then a else ⟨a.value + 1⟩

inductive FairnessGroupIdTag
inductive SubjectIdTag
inductive FairnessPolicyIdTag
inductive ServiceWindowIdTag
inductive EvidenceSnapshotIdTag
inductive InterventionIdTag
inductive PriorityRefTag
inductive QosRefTag
inductive FabricEpochTag
inductive BootIdTag
inductive TenantIdTag

abbrev FairnessGroupId := Id FairnessGroupIdTag
abbrev SubjectId := Id SubjectIdTag
abbrev FairnessPolicyId := Id FairnessPolicyIdTag
abbrev ServiceWindowId := Id ServiceWindowIdTag
abbrev EvidenceSnapshotId := Id EvidenceSnapshotIdTag
abbrev InterventionId := Id InterventionIdTag
abbrev PriorityRef := Id PriorityRefTag
abbrev QosRef := Id QosRefTag
abbrev BootId := Id BootIdTag
abbrev TenantId := Id TenantIdTag

abbrev FairnessGroupGeneration := Generation FairnessGroupIdTag
abbrev SubjectGeneration := Generation SubjectIdTag
abbrev FairnessPolicyGeneration := Generation FairnessPolicyIdTag
abbrev ServiceWindowGeneration := Generation ServiceWindowIdTag
abbrev EvidenceSnapshotGeneration := Generation EvidenceSnapshotIdTag
abbrev InterventionGeneration := Generation InterventionIdTag
abbrev FabricEpoch := Generation FabricEpochTag

/-- A process incarnation: the pair (boot, ordinal). -/
structure Incarnation where
  boot : BootId := {}
  ordinal : UInt64 := 0
deriving DecidableEq, Inhabited

/-! ## Statuses -/

/-- Every rejection reason the governor can produce. -/
inductive StatusCode
  | ok
  | invalidArgument | outOfRange | notFound | alreadyExists | duplicate | conflict
  | notInitialized | unsupported | internal
  | staleGeneration | staleEpoch | staleIncarnation | staleEvidence | evidenceMissing
  | evidenceContradictory | authorityMismatch | incarnationMismatch
  | policyInvalid | policyGenerationMismatch | policyOvercommit | groupCycle
  | groupDepthExceeded | subjectGenerationMismatch
  | arithmeticOverflow | arithmeticUnderflow | divideByZero | limitExceeded
  | ioError | corruptRecord | unsupportedFormat | truncated | checksumMismatch
  | oversizedPayload | commitRejected | recoveryRequired
  | transportError | frameInvalid | frameTooLarge | handshakeRejected | sequenceViolation
  | linkClosed | linkBusy | idleTimeout
  | shuttingDown | cancelled | busy
deriving DecidableEq, Inhabited

/-- A failing status: its code and the detail text. -/
structure Status where
  code : StatusCode
  detail : String
deriving DecidableEq, Inhabited

/-- What an evaluation ends in when it does not end in a value: a status of the code, an
unchecked machine operation that leaves its word, or a recursion of the source that goes
deeper than its model allows. -/
inductive Fault
  | status (s : Status)
  | wraps
  | tooDeep
deriving DecidableEq

/-- An evaluation over machine words. -/
abbrev Eval (α : Type) := Except Fault α

/-- `return Status(code, detail);` -/
def fail {α : Type} (code : StatusCode) (detail : String) : Eval α :=
  .error (.status ⟨code, detail⟩)

/-- A checked operation that failed is reported with a status. -/
def orFail {α : Type} (code : StatusCode) (detail : String) : Option α → Eval α
  | some a => .ok a
  | none => fail code detail

/-- A function that only returns statuses, called from an evaluation. -/
def ofStatus {α : Type} : Except Status α → Eval α
  | .ok a => .ok a
  | .error s => .error (.status s)

@[simp] lemma orFail_eq_ok {α : Type} {code : StatusCode} {detail : String} {o : Option α}
    {a : α} : orFail code detail o = .ok a ↔ o = some a := by
  cases o <;> simp [orFail, fail]

@[simp] lemma ofStatus_eq_ok {α : Type} {x : Except Status α} {a : α} :
    ofStatus x = .ok a ↔ x = .ok a := by
  cases x <;> simp [ofStatus]

@[simp] lemma fail_ne_ok {α : Type} {code : StatusCode} {detail : String} {a : α} :
    (fail code detail : Eval α) ≠ .ok a := by
  simp [fail]

@[simp] lemma fail_bind {α β : Type} (code : StatusCode) (detail : String) (f : α → Eval β) :
    (fail code detail : Eval α) >>= f = fail code detail := rfl

/-- A check that is passed, as a computation shows. -/
lemma eq_ok_of_isOk {result : Except Status Unit} (h : result.isOk = true) : result = .ok () := by
  cases result with
  | error status => cases h
  | ok _ => rfl

/-- Peeling one step off a successful evaluation. -/
lemma bind_eq_ok {ε α β : Type} {x : Except ε α} {f : α → Except ε β} {b : β} :
    x >>= f = .ok b ↔ ∃ a, x = .ok a ∧ f a = .ok b := by
  cases x with
  | error e => simp [bind, Except.bind]
  | ok a => simp [bind, Except.bind]

lemma mapError_eq_ok {ε ε' α : Type} {f : ε → ε'} {x : Except ε α} {value : α} :
    x.mapError f = .ok value ↔ x = .ok value := by
  cases x <;> simp [Except.mapError]

lemma bind_unit_eq_ok {ε β : Type} {x : Except ε Unit} {f : Unit → Except ε β} {b : β} :
    x >>= f = .ok b ↔ x = .ok () ∧ f () = .ok b := by
  rw [bind_eq_ok]
  exact ⟨fun ⟨_, hx, hf⟩ => ⟨hx, hf⟩, fun ⟨hx, hf⟩ => ⟨(), hx, hf⟩⟩

@[simp] lemma ok_bind {ε α β : Type} (a : α) (f : α → Except ε β) :
    (Except.ok a : Except ε α) >>= f = f a := rfl

/-- A computation that was run, and a check of its result. -/
lemma exists_ok_of_any {ε α : Type} {x : Except ε α} {p : α → Bool}
    (h : x.toOption.any p = true) : ∃ a, x = .ok a ∧ p a = true := by
  cases x with
  | error e => simp [Except.toOption] at h
  | ok a => exact ⟨a, rfl, by simpa [Except.toOption] using h⟩

/-- A step `if c then return error` that was passed. -/
lemma ite_fail_eq_ok {α : Type} {c : Prop} [Decidable c] {code : StatusCode}
    {detail : String} {x : Eval α} {a : α} :
    (if c then fail code detail else x) = .ok a ↔ ¬ c ∧ x = .ok a := by
  by_cases hc : c <;> simp [hc]

/-- `if (c) return Status(code, detail);` -/
def rejectIf (c : Prop) [Decidable c] (code : StatusCode) (detail : String) :
    Except Status Unit :=
  if c then .error ⟨code, detail⟩ else .ok ()

@[simp] lemma rejectIf_eq_ok {c : Prop} [Decidable c] {code : StatusCode} {detail : String} :
    rejectIf c code detail = .ok () ↔ ¬ c := by
  unfold rejectIf
  split_ifs with h <;> simp [h]

@[simp] lemma rejectIf_bind_eq_ok {α : Type} {c : Prop} [Decidable c] {code : StatusCode}
    {detail : String} {f : Unit → Except Status α} {a : α} :
    rejectIf c code detail >>= f = .ok a ↔ ¬ c ∧ f () = .ok a := by
  simp only [bind_unit_eq_ok, rejectIf_eq_ok]

/-- No error carries the code of success. -/
def Refuses {α : Type} (x : Except Status α) : Prop := ∀ e, x = .error e → e.code ≠ .ok

lemma refuses_ok {α : Type} (a : α) : Refuses (.ok a) := by
  intro e h
  cases h

lemma refuses_error {α : Type} {e : Status} (h : e.code ≠ .ok) :
    Refuses (.error e : Except Status α) := by
  intro e' heq
  obtain rfl := Except.error.inj heq
  exact h

lemma refuses_bind {α β : Type} {x : Except Status α} {f : α → Except Status β}
    (hx : Refuses x) (hf : ∀ a, Refuses (f a)) : Refuses (x >>= f) := by
  cases x with
  | error e => exact refuses_error (hx e rfl)
  | ok a => exact hf a

lemma refuses_rejectIf {c : Prop} [Decidable c] {code : StatusCode} {detail : String}
    (h : code ≠ .ok) : Refuses (rejectIf c code detail) := by
  unfold rejectIf
  split_ifs
  · exact refuses_error h
  · exact refuses_ok ()

/-- A chain of checks fails with a failing status. -/
lemma rejectIf_bind_code {α : Type} {c : Prop} [Decidable c] {code : StatusCode}
    {detail : String} {f : Unit → Except Status α} (hcode : code ≠ .ok) (hf : Refuses (f ())) :
    Refuses (rejectIf c code detail >>= f) :=
  refuses_bind (refuses_rejectIf hcode) fun _ => hf

/-- Every error carries one of these codes. -/
def FailsWith {α : Type} (codes : List StatusCode) (x : Except Status α) : Prop :=
  ∀ e, x = .error e → e.code ∈ codes

section FailsWith

variable {α β : Type} {codes : List StatusCode}

lemma failsWith_ok (a : α) : FailsWith codes (.ok a) := by
  intro e h
  cases h

lemma failsWith_error {e : Status} (h : e.code ∈ codes) :
    FailsWith codes (.error e : Except Status α) := by
  intro e' heq
  obtain rfl := Except.error.inj heq
  exact h

lemma FailsWith.bind {x : Except Status α} {f : α → Except Status β} (hx : FailsWith codes x)
    (hf : ∀ a, FailsWith codes (f a)) : FailsWith codes (x >>= f) := by
  cases x with
  | error e => exact failsWith_error (hx e rfl)
  | ok a => exact hf a

lemma failsWith_rejectIf {c : Prop} [Decidable c] {code : StatusCode} {detail : String}
    (h : code ∈ codes) : FailsWith codes (rejectIf c code detail) := by
  unfold rejectIf
  split_ifs
  · exact failsWith_error h
  · exact failsWith_ok ()

/-- A chain of checks fails with the codes of its checks. -/
lemma rejectIf_bind_failsWith {c : Prop} [Decidable c] {code : StatusCode} {detail : String}
    {f : Unit → Except Status α} (hcode : code ∈ codes) (hf : FailsWith codes (f ())) :
    FailsWith codes (rejectIf c code detail >>= f) :=
  (failsWith_rejectIf hcode).bind fun _ => hf

lemma FailsWith.refuses {x : Except Status α} (h : FailsWith codes x) (hcodes : .ok ∉ codes) :
    Refuses x := by
  intro e he heq
  exact hcodes (heq ▸ h e he)

lemma FailsWith.mono {x : Except Status α} {more : List StatusCode} (h : FailsWith codes x)
    (hcodes : codes ⊆ more) : FailsWith more x := fun e he => hcodes (h e he)

end FailsWith

/-! ## Checked and trapping arithmetic -/

/-- The largest unsigned 64-bit value. -/
def kUInt64Max : ℕ := 2 ^ 64 - 1
/-- The largest signed 64-bit value. -/
def kInt64Max : ℕ := 2 ^ 63 - 1

/-- `checked_add` on 64-bit words: nothing when the sum leaves the word. -/
def checkedAdd (a b : ℕ) : Option ℕ :=
  if a + b ≤ kUInt64Max then some (a + b) else none

@[simp] lemma checkedAdd_eq_some {a b c : ℕ} :
    checkedAdd a b = some c ↔ a + b ≤ kUInt64Max ∧ c = a + b := by
  unfold checkedAdd
  split_ifs with h <;> simp [h, eq_comm]

lemma checkedAdd_of_le {a b : ℕ} (h : a + b ≤ kUInt64Max) : checkedAdd a b = some (a + b) :=
  checkedAdd_eq_some.mpr ⟨h, rfl⟩

@[simp] lemma checkedAdd_eq_none {a b : ℕ} : checkedAdd a b = none ↔ kUInt64Max < a + b := by
  unfold checkedAdd
  split_ifs with h <;> simp <;> omega

/-- An unchecked unsigned addition. -/
def uadd (a b : ℕ) : Eval ℕ := if a + b ≤ kUInt64Max then .ok (a + b) else .error .wraps

/-- An unchecked unsigned subtraction. -/
def usub (a b : ℕ) : Eval ℕ := if b ≤ a then .ok (a - b) else .error .wraps

/-- `static_cast<std::int64_t>` of an unsigned word. -/
def toInt64 (a : ℕ) : Eval ℤ := if a ≤ kInt64Max then .ok a else .error .wraps

/-- An unchecked signed subtraction. -/
def isub (a b : ℤ) : Eval ℤ :=
  if -(kInt64Max : ℤ) - 1 ≤ a - b ∧ a - b ≤ kInt64Max then .ok (a - b) else .error .wraps

@[simp] lemma uadd_eq_ok {a b c : ℕ} : uadd a b = .ok c ↔ a + b ≤ kUInt64Max ∧ c = a + b := by
  unfold uadd
  split_ifs with h <;> simp [h, eq_comm]

@[simp] lemma usub_eq_ok {a b c : ℕ} : usub a b = .ok c ↔ b ≤ a ∧ c = a - b := by
  unfold usub
  split_ifs with h <;> simp [h, eq_comm]

@[simp] lemma toInt64_eq_ok {a : ℕ} {c : ℤ} : toInt64 a = .ok c ↔ a ≤ kInt64Max ∧ c = a := by
  unfold toInt64
  split_ifs with h <;> simp [h, eq_comm]

@[simp] lemma isub_eq_ok {a b c : ℤ} :
    isub a b = .ok c ↔
      (-(kInt64Max : ℤ) - 1 ≤ a - b ∧ a - b ≤ kInt64Max) ∧ c = a - b := by
  unfold isub
  split_ifs with h
  · simp only [Except.ok.injEq, h, and_self, true_and, eq_comm]
  · simp only [h, false_and]

/-- `static_cast<std::int64_t>(a) - static_cast<std::int64_t>(b)`, the signed difference of
two unsigned words. -/
def signedDiff (a b : ℕ) : Eval ℤ := do
  let x ← toInt64 a
  let y ← toInt64 b
  isub x y

lemma signedDiff_eq_ok {a b : ℕ} {c : ℤ} :
    signedDiff a b = .ok c ↔ a ≤ kInt64Max ∧ b ≤ kInt64Max ∧ c = (a : ℤ) - b := by
  simp only [signedDiff, bind_eq_ok, toInt64_eq_ok, isub_eq_ok]
  constructor
  · rintro ⟨x, ⟨ha, rfl⟩, y, ⟨hb, rfl⟩, -, hc⟩
    exact ⟨ha, hb, hc⟩
  · rintro ⟨ha, hb, hc⟩
    exact ⟨a, ⟨ha, rfl⟩, b, ⟨hb, rfl⟩, by omega, hc⟩

/-- `magnitude`: the absolute value of a signed word. -/
def magnitude (value : ℤ) : ℕ := value.natAbs

/-! ## Loops over a whole population -/

section Loops

variable {ε α : Type} {n : ℕ}

/-- A loop that computes one value for every index in order and stops at the first failure. -/
def collect [Inhabited α] (f : Fin n → Except ε α) : Except ε (Fin n → α) :=
  match (List.finRange n).findSome? fun i => match f i with
      | .error e => some e
      | .ok _ => none with
  | some e => .error e
  | none => .ok fun i => match f i with
      | .ok a => a
      | .error _ => default

lemma collect_eq_ok [Inhabited α] {f : Fin n → Except ε α} {g : Fin n → α} :
    collect f = .ok g ↔ ∀ i, f i = .ok (g i) := by
  unfold collect
  cases hfind : (List.finRange n).findSome? fun i => match f i with
      | .error e => some e
      | .ok _ => none with
  | some e =>
    simp only [reduceCtorEq, false_iff, not_forall]
    obtain ⟨i, -, hi⟩ := List.exists_of_findSome?_eq_some hfind
    refine ⟨i, fun hok => ?_⟩
    rw [hok] at hi
    simp at hi
  | none =>
    rw [List.findSome?_eq_none_iff] at hfind
    have hok : ∀ i, ∃ a, f i = .ok a := by
      intro i
      have hi := hfind i (List.mem_finRange i)
      cases hfi : f i with
      | error e => simp [hfi] at hi
      | ok a => exact ⟨a, rfl⟩
    simp only [Except.ok.injEq, funext_iff]
    refine forall_congr' fun i => ?_
    obtain ⟨a, ha⟩ := hok i
    simp [ha]

/-- When a loop fails, it fails with the fault of one of its indices. -/
lemma collect_eq_error [Inhabited α] {f : Fin n → Except ε α} {e : ε}
    (h : collect f = .error e) : ∃ i, f i = .error e := by
  unfold collect at h
  split at h
  · rename_i e' hfind
    obtain ⟨i, -, hi⟩ := List.exists_of_findSome?_eq_some hfind
    refine ⟨i, ?_⟩
    cases hfi : f i with
    | ok a => simp [hfi] at hi
    | error e'' =>
      simp only [hfi, Option.some.injEq] at hi
      simp only [Except.error.injEq] at h
      rw [hi, h]
  · simp at h

/-- A loop `for (x : xs) checked_add(total, x, total)` that stops at the first overflow. -/
def checkedTotal : List ℕ → ℕ → Option ℕ
  | [], total => some total
  | x :: xs, total => (checkedAdd total x).bind (checkedTotal xs)

lemma checkedTotal_of_le {xs : List ℕ} {total : ℕ} (h : total + xs.sum ≤ kUInt64Max) :
    checkedTotal xs total = some (total + xs.sum) := by
  induction xs generalizing total with
  | nil => simp [checkedTotal]
  | cons x xs ih =>
    rw [List.sum_cons] at h
    rw [checkedTotal, checkedAdd_of_le (by omega), Option.bind_some, ih (by omega),
      List.sum_cons, Nat.add_assoc]

lemma checkedTotal_eq_some {xs : List ℕ} {total v : ℕ} (h : checkedTotal xs total = some v)
    (ht : total ≤ kUInt64Max) : total + xs.sum ≤ kUInt64Max ∧ v = total + xs.sum := by
  induction xs generalizing total with
  | nil =>
    simp only [checkedTotal, Option.some.injEq] at h
    exact ⟨by simpa using ht, by simp [h]⟩
  | cons x xs ih =>
    simp only [checkedTotal, Option.bind_eq_some_iff, checkedAdd_eq_some] at h
    obtain ⟨t, ⟨hle, rfl⟩, hrest⟩ := h
    obtain ⟨h1, h2⟩ := ih hrest hle
    rw [List.sum_cons]
    omega

/-- A loop that runs a check on every element and stops at the first failure. -/
def forEach (f : α → Except ε Unit) : List α → Except ε Unit
  | [] => .ok ()
  | x :: xs => do
    f x
    forEach f xs

@[simp] lemma forEach_eq_ok {f : α → Except ε Unit} {xs : List α} :
    forEach f xs = .ok () ↔ ∀ x ∈ xs, f x = .ok () := by
  induction xs with
  | nil => simp [forEach]
  | cons x xs ih => simp [forEach, bind_unit_eq_ok, ih]

end Loops

/-! ## Sorting -/

/-- `std::sort` with a comparator.  Elements the comparator does not separate stay in input
order, which is one of the arrangements the standard allows. -/
def stdSort {α : Type} (before : α → α → Bool) (xs : List α) : List α :=
  xs.insertionSort fun a b => before b a = false

lemma stdSort_perm {α : Type} (before : α → α → Bool) (xs : List α) :
    (stdSort before xs).Perm xs := List.perm_insertionSort _ xs

@[simp] lemma mem_stdSort {α : Type} {before : α → α → Bool} {xs : List α} {a : α} :
    a ∈ stdSort before xs ↔ a ∈ xs := (stdSort_perm before xs).mem_iff

lemma nodup_stdSort {α : Type} {before : α → α → Bool} {xs : List α} (h : xs.Nodup) :
    (stdSort before xs).Nodup := (stdSort_perm before xs).nodup_iff.mpr h

@[simp] lemma length_stdSort {α : Type} (before : α → α → Bool) (xs : List α) :
    (stdSort before xs).length = xs.length := (stdSort_perm before xs).length_eq

end FairnessGovernor
