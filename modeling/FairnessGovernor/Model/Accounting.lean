/-
# Durable deficit and credit accounting

The accounting is the only durable fairness state.  One window's net, entitlement minus
served, moves a subject's carry; the signed combination `closure` of the live and the
discarded terms moves by exactly that net, also when the carry saturates.
-/
import FairnessGovernor.Core.Types

namespace FairnessGovernor

/-- Durable per-subject accounting. -/
structure SubjectAccounting where
  id : SubjectId := {}
  generation : SubjectGeneration := {}
  cumulativeDeficit : UInt64 := 0
  cumulativeSurplus : UInt64 := 0
  discardedDeficit : UInt64 := 0
  discardedSurplus : UInt64 := 0
  unservedStreak : UInt32 := 0
  belowFloorStreak : UInt32 := 0
  windowsObserved : UInt64 := 0
  totalServedUnits : UInt64 := 0
  lastCorrectionWindow : ServiceWindowId := {}
  lastCorrectionGeneration : InterventionGeneration := {}
deriving DecidableEq, Inhabited

/-- Durable accounting state for a whole policy population. -/
structure FairnessAccounting where
  policyId : FairnessPolicyId := {}
  policyGeneration : FairnessPolicyGeneration := {}
  epoch : FabricEpoch := {}
  generation : UInt64 := 0
  interventionGeneration : InterventionGeneration := {}
  lastWindow : ServiceWindowId := {}
  lastWindowGeneration : ServiceWindowGeneration := {}
  writerBoot : BootId := {}
  subjects : List SubjectAccounting := []
deriving Inhabited

/-- `FairnessAccounting::find`. -/
def FairnessAccounting.find (accounting : FairnessAccounting) (wanted : SubjectId) :
    Option SubjectAccounting :=
  accounting.subjects.find? fun entry => entry.id = wanted

/-- Result of applying one window's net to a subject's carry. -/
structure CarryOutcome where
  cumulativeDeficit : ℕ := 0
  cumulativeSurplus : ℕ := 0
  discardedDeficit : ℕ := 0
  discardedSurplus : ℕ := 0
  deficitUnits : ℕ := 0
  surplusUnits : ℕ := 0
  creditApplied : ℕ := 0
  debitApplied : ℕ := 0
  saturated : Bool := false
deriving DecidableEq, Inhabited

/-- The deficit above the carry bound moves to the discarded deficit. -/
def saturateDeficit (maxCarry : ℕ) (result : CarryOutcome) : Option CarryOutcome :=
  if result.cumulativeDeficit > maxCarry then do
    let excess := result.cumulativeDeficit - maxCarry
    let discarded ← checkedAdd result.discardedDeficit excess
    return { result with
      discardedDeficit := discarded, cumulativeDeficit := maxCarry, saturated := true }
  else some result

/-- The surplus above the carry bound moves to the discarded surplus. -/
def saturateSurplus (maxCarry : ℕ) (result : CarryOutcome) : Option CarryOutcome :=
  if result.cumulativeSurplus > maxCarry then do
    let excess := result.cumulativeSurplus - maxCarry
    let discarded ← checkedAdd result.discardedSurplus excess
    return { result with
      discardedSurplus := discarded, cumulativeSurplus := maxCarry, saturated := true }
  else some result

/-- The carry before the bound is applied: credit is consumed by a deficit, debit by a
surplus, and what remains is carried. -/
def carryNet (current : SubjectAccounting) (net : ℤ) : Option CarryOutcome :=
  let deficit := current.cumulativeDeficit.toNat
  let surplus := current.cumulativeSurplus.toNat
  let result : CarryOutcome :=
    { cumulativeDeficit := deficit
      cumulativeSurplus := surplus
      discardedDeficit := current.discardedDeficit.toNat
      discardedSurplus := current.discardedSurplus.toNat }
  if 0 ≤ net then do
    let credit := min net.toNat surplus
    let remaining := net.toNat - credit
    let carried ← checkedAdd deficit remaining
    return { result with
      creditApplied := credit, cumulativeSurplus := surplus - credit
      deficitUnits := remaining, cumulativeDeficit := carried }
  else do
    let debit := min (magnitude net) deficit
    let remaining := magnitude net - debit
    let carried ← checkedAdd surplus remaining
    return { result with
      debitApplied := debit, cumulativeDeficit := deficit - debit
      surplusUnits := remaining, cumulativeSurplus := carried }

/-- `apply_window_carry`: `none` is its `false`. -/
def applyWindowCarry (current : SubjectAccounting) (net : ℤ) (maxCarry : ℕ) :
    Option CarryOutcome := do
  let result ← carryNet current net
  let result ← saturateDeficit maxCarry result
  saturateSurplus maxCarry result

/-! ## The closure identity -/

/-- The signed closure of a carry: what is owed minus what is credited, discarded units
included. -/
def SubjectAccounting.closure (entry : SubjectAccounting) : ℤ :=
  entry.cumulativeDeficit.toNat - entry.cumulativeSurplus.toNat +
    entry.discardedDeficit.toNat - entry.discardedSurplus.toNat

/-- The signed closure of a carry outcome. -/
def CarryOutcome.closure (result : CarryOutcome) : ℤ :=
  result.cumulativeDeficit - result.cumulativeSurplus + result.discardedDeficit -
    result.discardedSurplus

lemma carryNet_eq_some {current : SubjectAccounting} {net : ℤ} {result : CarryOutcome}
    (h : carryNet current net = some result) :
    result.closure = current.closure + net ∧
    (current.cumulativeDeficit = 0 ∨ current.cumulativeSurplus = 0 →
      result.cumulativeDeficit = 0 ∨ result.cumulativeSurplus = 0) ∧
    result.discardedDeficit = current.discardedDeficit.toNat ∧
    result.discardedSurplus = current.discardedSurplus.toNat ∧
    result.cumulativeDeficit ≤ kUInt64Max ∧ result.cumulativeSurplus ≤ kUInt64Max := by
  have hd : current.cumulativeDeficit.toNat ≤ kUInt64Max :=
    Nat.le_of_lt_succ current.cumulativeDeficit.toNat_lt
  have hs : current.cumulativeSurplus.toNat ≤ kUInt64Max :=
    Nat.le_of_lt_succ current.cumulativeSurplus.toNat_lt
  have hzero : ∀ x : UInt64, x = 0 → x.toNat = 0 := by rintro _ rfl; rfl
  -- a shortfall draws on the surplus first, and an excess on the deficit
  unfold carryNet at h
  split_ifs at h with hnet
  · simp only [Option.bind_eq_bind, Option.bind_eq_some_iff, checkedAdd_eq_some, Option.pure_def,
      Option.some.injEq] at h
    obtain ⟨carried, ⟨hle, rfl⟩, rfl⟩ := h
    refine ⟨?_, ?_, rfl, rfl, hle, by dsimp only; omega⟩
    · simp only [CarryOutcome.closure, SubjectAccounting.closure]
      omega
    · rintro (h0 | h0)
      · have := hzero _ h0
        dsimp only
        omega
      · have := hzero _ h0
        right
        dsimp only
        omega
  · simp only [Option.bind_eq_bind, Option.bind_eq_some_iff, checkedAdd_eq_some, Option.pure_def,
      Option.some.injEq] at h
    obtain ⟨carried, ⟨hle, rfl⟩, rfl⟩ := h
    unfold magnitude at *
    refine ⟨?_, ?_, rfl, rfl, by dsimp only; omega, hle⟩
    · simp only [CarryOutcome.closure, SubjectAccounting.closure]
      omega
    · rintro (h0 | h0)
      · have := hzero _ h0
        left
        dsimp only
        omega
      · have := hzero _ h0
        dsimp only
        omega

/-- What saturation does to one side of the carry, and that it leaves the closure alone. -/
lemma saturateDeficit_eq_some {maxCarry : ℕ} {result out : CarryOutcome}
    (h : saturateDeficit maxCarry result = some out)
    (hle : result.discardedDeficit ≤ kUInt64Max) :
    out.closure = result.closure ∧ out.cumulativeDeficit = min result.cumulativeDeficit maxCarry ∧
    out.cumulativeSurplus = result.cumulativeSurplus ∧
    out.discardedSurplus = result.discardedSurplus ∧ out.discardedDeficit ≤ kUInt64Max := by
  unfold saturateDeficit at h
  split_ifs at h with hmax
  · simp only [Option.bind_eq_bind, Option.bind_eq_some_iff, checkedAdd_eq_some, Option.pure_def,
      Option.some.injEq] at h
    obtain ⟨discarded, ⟨hfit, rfl⟩, rfl⟩ := h
    refine ⟨?_, ?_, rfl, rfl, hfit⟩
    · simp only [CarryOutcome.closure]
      omega
    · dsimp only
      omega
  · obtain rfl := Option.some.inj h
    exact ⟨rfl, by omega, rfl, rfl, hle⟩

lemma saturateSurplus_eq_some {maxCarry : ℕ} {result out : CarryOutcome}
    (h : saturateSurplus maxCarry result = some out)
    (hle : result.discardedSurplus ≤ kUInt64Max) :
    out.closure = result.closure ∧ out.cumulativeSurplus = min result.cumulativeSurplus maxCarry ∧
    out.cumulativeDeficit = result.cumulativeDeficit ∧
    out.discardedDeficit = result.discardedDeficit ∧ out.discardedSurplus ≤ kUInt64Max := by
  unfold saturateSurplus at h
  split_ifs at h with hmax
  · simp only [Option.bind_eq_bind, Option.bind_eq_some_iff, checkedAdd_eq_some, Option.pure_def,
      Option.some.injEq] at h
    obtain ⟨discarded, ⟨hfit, rfl⟩, rfl⟩ := h
    refine ⟨?_, ?_, rfl, rfl, hfit⟩
    · simp only [CarryOutcome.closure]
      omega
    · dsimp only
      omega
  · obtain rfl := Option.some.inj h
    exact ⟨rfl, by omega, rfl, rfl, hle⟩

/-- Applying a window's net: the closure moves by the net, the carry stays within the bound
and on one side, and every term stays in its word. -/
theorem applyWindowCarry_eq_some {current : SubjectAccounting} {net : ℤ} {maxCarry : ℕ}
    {out : CarryOutcome} (h : applyWindowCarry current net maxCarry = some out) :
    out.closure = current.closure + net ∧
    (current.cumulativeDeficit = 0 ∨ current.cumulativeSurplus = 0 →
      out.cumulativeDeficit = 0 ∨ out.cumulativeSurplus = 0) ∧
    out.cumulativeDeficit ≤ maxCarry ∧ out.cumulativeSurplus ≤ maxCarry ∧
    out.cumulativeDeficit ≤ kUInt64Max ∧ out.cumulativeSurplus ≤ kUInt64Max ∧
    out.discardedDeficit ≤ kUInt64Max ∧ out.discardedSurplus ≤ kUInt64Max := by
  simp only [applyWindowCarry, Option.bind_eq_bind, Option.bind_eq_some_iff] at h
  obtain ⟨r, hr, r', hr', hout⟩ := h
  obtain ⟨hclose, hside, hdd, hds, hcd, hcs⟩ := carryNet_eq_some hr
  have hdd' : current.discardedDeficit.toNat ≤ kUInt64Max :=
    Nat.le_of_lt_succ current.discardedDeficit.toNat_lt
  have hds' : current.discardedSurplus.toNat ≤ kUInt64Max :=
    Nat.le_of_lt_succ current.discardedSurplus.toNat_lt
  obtain ⟨hc1, hd1, hs1, hds1, hdd1⟩ := saturateDeficit_eq_some hr' (by omega)
  obtain ⟨hc2, hs2, hd2, hdd2, hds2⟩ := saturateSurplus_eq_some hout (by omega)
  refine ⟨by rw [hc2, hc1, hclose], fun h0 => ?_, by omega, by omega, by omega, by omega,
    by omega, hds2⟩
  rcases hside h0 with h0 | h0
  · exact .inl (by omega)
  · exact .inr (by omega)

/-! ## When the carry cannot be applied -/

/-- The deficit a window leaves before the bound is applied. -/
def carriedDeficit (current : SubjectAccounting) (net : ℤ) : ℕ :=
  if 0 ≤ net then
    current.cumulativeDeficit.toNat + (net.toNat - current.cumulativeSurplus.toNat)
  else current.cumulativeDeficit.toNat - net.natAbs

/-- The surplus a window leaves before the bound is applied. -/
def carriedSurplus (current : SubjectAccounting) (net : ℤ) : ℕ :=
  if 0 ≤ net then current.cumulativeSurplus.toNat - net.toNat
  else current.cumulativeSurplus.toNat + (net.natAbs - current.cumulativeDeficit.toNat)

/-- This window's carry exceeds the bound by more than a discarded counter has room for. -/
def DiscardOverflows (current : SubjectAccounting) (net : ℤ) (maxCarry : ℕ) : Prop :=
  kUInt64Max < current.discardedDeficit.toNat + (carriedDeficit current net - maxCarry) ∨
  kUInt64Max < current.discardedSurplus.toNat + (carriedSurplus current net - maxCarry)

instance (current : SubjectAccounting) (net : ℤ) (maxCarry : ℕ) :
    Decidable (DiscardOverflows current net maxCarry) :=
  inferInstanceAs (Decidable (_ ∨ _))

lemma saturateDeficit_eq_none {maxCarry : ℕ} {result : CarryOutcome}
    (h : saturateDeficit maxCarry result = none) :
    kUInt64Max < result.discardedDeficit + (result.cumulativeDeficit - maxCarry) := by
  unfold saturateDeficit at h
  split_ifs at h
  cases hadd : checkedAdd result.discardedDeficit (result.cumulativeDeficit - maxCarry) with
  | none => exact checkedAdd_eq_none.mp hadd
  | some v => simp [hadd] at h

lemma saturateSurplus_eq_none {maxCarry : ℕ} {result : CarryOutcome}
    (h : saturateSurplus maxCarry result = none) :
    kUInt64Max < result.discardedSurplus + (result.cumulativeSurplus - maxCarry) := by
  unfold saturateSurplus at h
  split_ifs at h
  cases hadd : checkedAdd result.discardedSurplus (result.cumulativeSurplus - maxCarry) with
  | none => exact checkedAdd_eq_none.mp hadd
  | some v => simp [hadd] at h

/-- Within the bounded domain the live terms are carried without overflow. -/
lemma carryNet_of_le {current : SubjectAccounting} {net : ℤ}
    (hd : current.cumulativeDeficit.toNat ≤ kMaxCarryUnits)
    (hs : current.cumulativeSurplus.toNat ≤ kMaxCarryUnits) (hnet : net.natAbs ≤ 2 ^ 60) :
    ∃ result, carryNet current net = some result ∧
      result.cumulativeDeficit = carriedDeficit current net ∧
      result.cumulativeSurplus = carriedSurplus current net ∧
      result.discardedDeficit = current.discardedDeficit.toNat ∧
      result.discardedSurplus = current.discardedSurplus.toNat := by
  unfold kMaxCarryUnits at hd hs
  unfold carryNet
  by_cases h0 : 0 ≤ net
  · have hadd := checkedAdd_of_le (a := current.cumulativeDeficit.toNat)
      (b := net.toNat - min net.toNat current.cumulativeSurplus.toNat)
      (by unfold kUInt64Max; omega)
    simp only [h0, if_true, hadd, Option.bind_eq_bind, Option.bind_some, Option.pure_def,
      Option.some.injEq, exists_eq_left', carriedDeficit, carriedSurplus, and_true]
    exact ⟨by omega, by omega⟩
  · have hadd := checkedAdd_of_le (a := current.cumulativeSurplus.toNat)
      (b := magnitude net - min (magnitude net) current.cumulativeDeficit.toNat)
      (by unfold kUInt64Max magnitude; omega)
    simp only [h0, if_false, hadd, Option.bind_eq_bind, Option.bind_some, Option.pure_def,
      Option.some.injEq, exists_eq_left', carriedDeficit, carriedSurplus, and_true]
    unfold magnitude
    exact ⟨by omega, by omega⟩

/-- Within the bounded domain only a discarded counter can overflow. -/
theorem applyWindowCarry_eq_none {current : SubjectAccounting} {net : ℤ} {maxCarry : ℕ}
    (hd : current.cumulativeDeficit.toNat ≤ kMaxCarryUnits)
    (hs : current.cumulativeSurplus.toNat ≤ kMaxCarryUnits) (hnet : net.natAbs ≤ 2 ^ 60)
    (h : applyWindowCarry current net maxCarry = none) :
    DiscardOverflows current net maxCarry := by
  obtain ⟨r, hr, hcd, hcs, hdd, hds⟩ := carryNet_of_le hd hs hnet
  have hdd' : current.discardedDeficit.toNat ≤ kUInt64Max :=
    Nat.le_of_lt_succ current.discardedDeficit.toNat_lt
  simp only [applyWindowCarry, hr, Option.bind_eq_bind, Option.bind_some] at h
  cases hr' : saturateDeficit maxCarry r with
  | none =>
    have := saturateDeficit_eq_none hr'
    exact .inl (by omega)
  | some r' =>
    rw [hr', Option.bind_some] at h
    obtain ⟨-, -, hs1, hds1, -⟩ := saturateDeficit_eq_some hr' (by omega)
    have := saturateSurplus_eq_none h
    exact .inr (by omega)

/-! ## Decoded accounting -/

/-- The largest streak a durable record may hold. -/
def kMaxDurableStreak : UInt32 := 1000000

/-- What decoding establishes for an entry. -/
structure ValidEntry (entry : SubjectAccounting) : Prop where
  deficit_le : entry.cumulativeDeficit.toNat ≤ kMaxCarryUnits
  surplus_le : entry.cumulativeSurplus.toNat ≤ kMaxCarryUnits
  unserved_le : entry.unservedStreak ≤ kMaxDurableStreak
  belowFloor_le : entry.belowFloorStreak ≤ kMaxDurableStreak

/-- What decoding establishes for a record. -/
structure ValidAccounting (accounting : FairnessAccounting) : Prop where
  entry_valid : ∀ entry ∈ accounting.subjects, ValidEntry entry
  ids_nodup : (accounting.subjects.map (·.id)).Nodup

/-- What the entries carry is within the bounded domain. -/
def BoundedCarry (entries : List SubjectAccounting) : Prop :=
  ∀ entry ∈ entries, entry.cumulativeDeficit.toNat ≤ kMaxCarryUnits ∧
    entry.cumulativeSurplus.toNat ≤ kMaxCarryUnits

lemma ValidAccounting.boundedCarry {accounting : FairnessAccounting}
    (h : ValidAccounting accounting) : BoundedCarry accounting.subjects := fun entry hentry =>
  ⟨(h.entry_valid entry hentry).deficit_le, (h.entry_valid entry hentry).surplus_le⟩

/-- The entry found for a subject, or a fresh one, is within the bounded domain. -/
lemma BoundedCarry.find {accounting : FairnessAccounting}
    (h : BoundedCarry accounting.subjects) (subject : SubjectId) :
    ((accounting.find subject).getD {}).cumulativeDeficit.toNat ≤ kMaxCarryUnits ∧
      ((accounting.find subject).getD {}).cumulativeSurplus.toNat ≤ kMaxCarryUnits := by
  cases hfind : accounting.find subject with
  | none => exact ⟨Nat.zero_le _, Nat.zero_le _⟩
  | some entry => exact h entry (List.mem_of_find?_eq_some hfind)

end FairnessGovernor
