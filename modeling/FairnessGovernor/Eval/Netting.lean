/-
# Credit and debt in a correction

The carry is netted: credit is consumed before debt is recorded, and the surplus of a window
repays carried debt.  The demand of the corrective plan is not: it is the raw shortfall of the
window and the carried debt, so a grant may exceed the debt that the carry leaves.
`followsDebt_iff` is the exact condition under which it does not.
-/
import FairnessGovernor.Eval.ProtectedGroups

namespace FairnessGovernor

open Apportion Sorting

/-! ## What the carry leaves -/

section Carry

variable {current : SubjectAccounting} {net : ℤ} {maxCarry : ℕ} {result out : CarryOutcome}

/-- Before the bound is applied the carry is netted. -/
lemma carryNet_carried (h : carryNet current net = some result) :
    result.cumulativeDeficit = carriedDeficit current net ∧
    result.cumulativeSurplus = carriedSurplus current net ∧ result.saturated = false := by
  unfold carryNet at h
  unfold carriedDeficit carriedSurplus
  split_ifs at h ⊢ with hnet
  · simp only [Option.bind_eq_bind, Option.bind_eq_some_iff, checkedAdd_eq_some, Option.pure_def,
      Option.some.injEq] at h
    obtain ⟨carried, ⟨-, rfl⟩, rfl⟩ := h
    refine ⟨?_, ?_, rfl⟩ <;> dsimp only <;> omega
  · simp only [Option.bind_eq_bind, Option.bind_eq_some_iff, checkedAdd_eq_some, Option.pure_def,
      Option.some.injEq] at h
    obtain ⟨carried, ⟨-, rfl⟩, rfl⟩ := h
    unfold magnitude
    refine ⟨?_, ?_, rfl⟩ <;> dsimp only <;> omega

lemma saturateDeficit_saturated (h : saturateDeficit maxCarry result = some out)
    (hbefore : result.saturated = false) :
    out.saturated = false ↔ result.cumulativeDeficit ≤ maxCarry := by
  unfold saturateDeficit at h
  split_ifs at h with hmax
  · obtain ⟨_, -, h⟩ := Option.bind_eq_some_iff.mp h
    obtain rfl := Option.some.inj h
    exact ⟨Bool.noConfusion, fun hle => absurd hmax (Nat.not_lt.mpr hle)⟩
  · obtain rfl := Option.some.inj h
    exact ⟨fun _ => Nat.not_lt.mp hmax, fun _ => hbefore⟩

lemma saturateSurplus_saturated (h : saturateSurplus maxCarry result = some out) :
    out.saturated = false ↔ result.saturated = false ∧ result.cumulativeSurplus ≤ maxCarry := by
  unfold saturateSurplus at h
  split_ifs at h with hmax
  · obtain ⟨_, -, h⟩ := Option.bind_eq_some_iff.mp h
    obtain rfl := Option.some.inj h
    exact ⟨Bool.noConfusion, fun hle => absurd hmax (Nat.not_lt.mpr hle.2)⟩
  · obtain rfl := Option.some.inj h
    exact ⟨fun hsame => ⟨hsame, Nat.not_lt.mp hmax⟩, fun hsame => hsame.1⟩

/-- The carry saturates when a netted side exceeds the bound; what is left of the deficit is the
netted one up to the bound. -/
lemma applyWindowCarry_netted (h : applyWindowCarry current net maxCarry = some out) :
    out.cumulativeDeficit = min (carriedDeficit current net) maxCarry ∧
    (out.saturated = false ↔
      carriedDeficit current net ≤ maxCarry ∧ carriedSurplus current net ≤ maxCarry) := by
  obtain ⟨netted, hnetted, h⟩ := Option.bind_eq_some_iff.mp h
  obtain ⟨bounded, hbounded, h⟩ := Option.bind_eq_some_iff.mp h
  obtain ⟨hdeficit, hsurplus, hbefore⟩ := carryNet_carried hnetted
  obtain ⟨-, -, hdiscarded, hother, -⟩ := carryNet_eq_some hnetted
  have hword := current.discardedDeficit.toNat_lt
  have hword' := current.discardedSurplus.toNat_lt
  obtain ⟨-, hcapped, hkept, hsame, -⟩ :=
    saturateDeficit_eq_some hbounded (by unfold kUInt64Max; omega)
  obtain ⟨-, -, hlast, -⟩ := saturateSurplus_eq_some h (by unfold kUInt64Max; omega)
  rw [saturateSurplus_saturated h, saturateDeficit_saturated hbounded hbefore, hkept, hlast,
    hcapped, hdeficit, hsurplus]
  exact ⟨rfl, Iff.rfl⟩

end Carry

/-! ## The obligation -/

/-- What is proposed for a subject stays within the debt that its carry leaves, if the carry does
not saturate. -/
def FollowsDebt (policy : FairnessPolicy) (accounting : FairnessAccounting)
    (decision : FairnessDecision) : Prop :=
  ∀ state ∈ decision.subjects, state.hasAuthority = true →
    ∀ carry ∈ applyWindowCarry ((accounting.find state.id).getD {})
        ((state.entitlementUnits : ℤ) - state.servedUnits) policy.maxCarryUnits.toNat,
      carry.saturated = false → state.proposedAugmentUnits ≤ state.cumulativeDeficitAfter

instance (policy : FairnessPolicy) (accounting : FairnessAccounting)
    (decision : FairnessDecision) : Decidable (FollowsDebt policy accounting decision) :=
  inferInstanceAs (Decidable (∀ state ∈ decision.subjects, _))

/-- What a window nets: the credit that covers part of its shortfall, or the carried debt that its
surplus repays. -/
def nettedUnits (policy : FairnessPolicy) (accounting : FairnessAccounting) (id : SubjectId)
    (net : ℤ) : ℕ :=
  let entry := (accounting.find id).getD {}
  if 0 ≤ net then min net.toNat entry.cumulativeSurplus.toNat
  else carriedFor policy accounting id - carriedDeficit entry net

section Inputs

variable (context : EvaluationContext) (policy : FairnessPolicy)
  (accounting : FairnessAccounting) (covered : Plans policy) (split : PassState policy)

/-- What the stronger demands leave of the units to be moved. -/
def roomAt (i : SubjectIndex policy) : ℕ :=
  movable context policy accounting covered split -
    ∑ j with demandBefore (inputPlans context policy accounting covered split) j i,
      demandAt context policy accounting covered split j

/-- A subject is granted no more than the debt it is left with: the window nets nothing, the
subject asks for nothing, or its cap or the room left to it is within the debt. -/
def GrantsWithinDebt (i : SubjectIndex policy) (observation : SubjectObservation) : Prop :=
  let subject := subjectAt policy i
  let entry := (accounting.find subject.id).getD {}
  let net : ℤ := (split.subject i : ℤ) - observation.servedUnits.toNat
  carriedDeficit entry net ≤ policy.maxCarryUnits.toNat →
    carriedSurplus entry net ≤ policy.maxCarryUnits.toNat →
    nettedUnits policy accounting subject.id net = 0 ∨
    (split.subject i - observation.servedUnits.toNat) + carriedFor policy accounting subject.id ≤
      policy.fairBandUnits.toNat ∨
    isCooling policy (accounting.find subject.id) context.request.window
      (starvesIn accounting subject observation) = true ∨
    min subject.maxAugmentUnits.toNat kMaxServiceUnits ≤ carriedDeficit entry net ∨
    roomAt context policy accounting covered split i ≤ carriedDeficit entry net

/-- Every subject that was observed is granted no more than the debt it is left with. -/
def AsksWithinDebt : Prop :=
  ∃ covered split, Inputs context policy accounting covered split ∧
    ∀ i, ∀ observation ∈ observationFor context policy covered i,
      GrantsWithinDebt context policy accounting covered split i observation

end Inputs

/-- What a subject is owed after a window is what it is owed without netting, less what is
netted. -/
lemma carriedDeficit_add_netted {policy : FairnessPolicy} {accounting : FairnessAccounting}
    {id : SubjectId} {entitlement served : ℕ}
    (hdeficit : carriedDeficit ((accounting.find id).getD {}) ((entitlement : ℤ) - served) ≤
      policy.maxCarryUnits.toNat) :
    (entitlement - served) + carriedFor policy accounting id =
      carriedDeficit ((accounting.find id).getD {}) ((entitlement : ℤ) - served) +
        nettedUnits policy accounting id ((entitlement : ℤ) - served) := by
  unfold nettedUnits carriedFor
  unfold carriedDeficit at hdeficit ⊢
  generalize accounting.find id = found at hdeficit ⊢
  cases found with
  | none =>
    have hzero : (({} : SubjectAccounting).cumulativeDeficit).toNat = 0 := rfl
    simp only [Option.getD_none, Option.elim_none, hzero] at hdeficit ⊢
    split_ifs at hdeficit ⊢ <;> omega
  | some entry =>
    simp only [Option.getD_some, Option.elim_some] at hdeficit ⊢
    split_ifs at hdeficit ⊢ <;> omega

/-- A grant is within the debt that is left for the reasons of `GrantsWithinDebt` only. -/
lemma grantsWithinDebt_iff {context : EvaluationContext} {policy : FairnessPolicy}
    {accounting : FairnessAccounting} {covered : Plans policy} {split : PassState policy}
    {i : SubjectIndex policy} {observation : SubjectObservation}
    (hobserved : observationFor context policy covered i = some observation) :
    GrantsWithinDebt context policy accounting covered split i observation ↔
      (carriedDeficit ((accounting.find (subjectAt policy i).id).getD {})
          ((split.subject i : ℤ) - observation.servedUnits.toNat) ≤ policy.maxCarryUnits.toNat →
        carriedSurplus ((accounting.find (subjectAt policy i).id).getD {})
          ((split.subject i : ℤ) - observation.servedUnits.toNat) ≤ policy.maxCarryUnits.toNat →
        grantedAt context policy accounting covered split i ≤
          carriedDeficit ((accounting.find (subjectAt policy i).id).getD {})
            ((split.subject i : ℤ) - observation.servedUnits.toNat)) := by
  refine forall_congr' fun hdeficit => forall_congr' fun _ => ?_
  -- what the window nets is the difference between what is asked for and what is owed after
  have hnetted := @carriedDeficit_add_netted policy accounting (subjectAt policy i).id
    (split.subject i) observation.servedUnits.toNat hdeficit
  have hgranted : grantedAt context policy accounting covered split i =
      min (demandAt context policy accounting covered split i)
        (roomAt context policy accounting covered split i) := rfl
  rw [hgranted, demandAt, hobserved, Option.elim_some]
  unfold demandOf
  dsimp only
  split_ifs with hasks
  · obtain ⟨hband, hcooling⟩ := hasks
    rw [hcooling]
    simp only [Bool.false_eq_true, false_or]
    omega
  · rw [not_and_or, Bool.not_eq_false, Nat.not_lt] at hasks
    rw [Nat.zero_min]
    refine ⟨fun _ => Nat.zero_le _, fun _ => ?_⟩
    tauto

/-- A plan follows the recognized debt exactly when every observed subject asks within it. -/
theorem followsDebt_iff {context : EvaluationContext} {policy : FairnessPolicy}
    {accounting : FairnessAccounting} {decision : FairnessDecision}
    (hpolicy : context.policy = some policy) (haccounting : context.accounting = some accounting)
    (hvalid : validatePolicy policy = .ok ()) (h : evaluateFairness context = .ok decision) :
    FollowsDebt policy accounting decision ↔ AsksWithinDebt context policy accounting := by
  obtain ⟨tree, eligible, whole, numbered, planned, states, hs, hd, hc, hconcluded⟩ :=
    evaluateFairness_stages hpolicy haccounting h
  have hp := ValidPolicy.of_ok hvalid
  -- the record of an observed subject, from the inputs
  have hrecord : ∀ i, ∀ observation, observationFor context policy
      (authorityPlans context.request accounting eligible) i = some observation →
      (planned.plans i).hasAuthority = true →
      ((∀ carry ∈ applyWindowCarry ((accounting.find (states i).id).getD {})
          (((states i).entitlementUnits : ℤ) - (states i).servedUnits) policy.maxCarryUnits.toNat,
        carry.saturated = false →
          (states i).proposedAugmentUnits ≤ (states i).cumulativeDeficitAfter) ↔
      GrantsWithinDebt context policy accounting
        (authorityPlans context.request accounting eligible) planned.distribution.effective i
        observation) := by
    intro i observation hobserved hi
    obtain ⟨_, found, -, -, hfound, hserved⟩ := hs.observed hi
    obtain rfl := Option.some.inj (hobserved.symm.trans hfound)
    have hn := hs.numbered_of_authority hi
    have hsame := hs.sameNumbers i
    have hcarry := hn.carry
    rw [← hsame.entitlement, ← hsame.served, ← hsame.carry] at hcarry
    have hreported := hd.reported i
    rw [hreported.id, hreported.entitlement, hreported.served, hreported.deficitAfter,
      (hconcluded.proposed i).augment, augment_eq hp hs hc hs.whole_word, hcarry,
      grantsWithinDebt_iff hobserved, ← hs.entitlement hi, ← hserved]
    obtain ⟨hleft, hsaturated⟩ := applyWindowCarry_netted hcarry
    constructor
    · intro hall hdeficit hsurplus
      have hle := hall _ rfl (hsaturated.mpr ⟨hdeficit, hsurplus⟩)
      omega
    · rintro hall carry hmem hunsaturated
      obtain rfl := Option.some.inj hmem
      obtain ⟨hdeficit, hsurplus⟩ := hsaturated.mp hunsaturated
      have hle := hall hdeficit hsurplus
      omega
  constructor
  · intro hfollows
    refine ⟨_, _, hs.inputs, fun i observation hobserved => ?_⟩
    have hi : (planned.plans i).hasAuthority = true := by
      by_contra hnot
      rw [hs.unobserved (Bool.eq_false_of_not_eq_true hnot)] at hobserved
      cases hobserved
    exact (hrecord i observation hobserved hi).mp
      (hfollows _ (hd.mem_iff.mpr ⟨i, rfl⟩) ((hd.reported i).hasAuthority.trans hi))
  · rintro ⟨covered, split, hinputs, hwithin⟩ state hstate hauth
    obtain ⟨rfl, rfl⟩ := hs.inputs.unique hinputs
    obtain ⟨i, rfl⟩ := hd.mem_iff.mp hstate
    rw [(hd.reported i).hasAuthority] at hauth
    obtain ⟨_, observation, -, -, hobserved, -⟩ := hs.observed hauth
    exact (hrecord i observation hobserved hauth).mpr (hwithin i observation hobserved)

/-- The second subject has credit of earlier windows. -/
def creditedAccounting (units : UInt64) : FairnessAccounting :=
  { subjects := [{ id := ⟨2⟩, generation := ⟨1⟩, cumulativeSurplus := units }] }

/-- The second subject was served three units less than its entitlement. -/
def creditedContext (units : UInt64) : EvaluationContext :=
  { correctableContext with accounting := some (creditedAccounting units) }

theorem followsDebt_iff_uncredited : ∃ decision,
    evaluateFairness (creditedContext 0) = .ok decision ∧ decision.intents.length = 2 ∧
      (FollowsDebt correctablePolicy (creditedAccounting 0) decision ↔
        AsksWithinDebt (creditedContext 0) correctablePolicy (creditedAccounting 0)) := by
  have hrun : (evaluateFairness (creditedContext 0)).toOption.any
      (fun decision => decision.intents.length = 2) = true := by
    decide +kernel
  obtain ⟨decision, hdecision, hlength⟩ := exists_ok_of_any hrun
  exact ⟨decision, hdecision, of_decide_eq_true hlength,
    followsDebt_iff rfl rfl (by decide +kernel) hdecision⟩

/-- Three units of credit cover the shortfall, and three units are granted all the same. -/
theorem not_followsDebt :
    validatePolicy correctablePolicy = .ok () ∧
    ∃ decision, evaluateFairness (creditedContext 3) = .ok decision ∧
      ¬ FollowsDebt correctablePolicy (creditedAccounting 3) decision := by
  refine ⟨by decide +kernel, ?_⟩
  have hrun : (evaluateFairness (creditedContext 3)).toOption.any
      (fun decision => ¬ FollowsDebt correctablePolicy (creditedAccounting 3) decision) = true := by
    decide +kernel
  obtain ⟨decision, hdecision, hnot⟩ := exists_ok_of_any hrun
  exact ⟨decision, hdecision, of_decide_eq_true hnot⟩

end FairnessGovernor
