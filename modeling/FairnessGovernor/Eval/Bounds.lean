/-
# The bounded domain of the later stages

From the limits the validators enforce, every stage after the numbers succeeds: its sums fit
their words, its subtractions stay in the naturals, and its `Internal` and `LimitExceeded`
exits are not taken.
-/
import FairnessGovernor.Eval.EngineSpec

namespace FairnessGovernor

open Apportion

variable {policy : FairnessPolicy}

/-- A sum over the subjects of a policy. -/
lemma sum_subjects_le (hcount : policy.subjects.length ≤ kMaxSubjects) {bound : ℕ}
    {f : SubjectIndex policy → ℕ} (h : ∀ i, f i ≤ bound) : ∑ i, f i ≤ kMaxSubjects * bound := by
  calc ∑ i, f i ≤ Finset.univ.card • bound := Finset.sum_le_card_nsmul _ _ _ fun i _ => h i
    _ ≤ kMaxSubjects * bound := by
        rw [Finset.card_univ, Fintype.card_fin, smul_eq_mul]
        exact Nat.mul_le_mul_right _ hcount

/-! ## The plans that ask -/

/-- The bounds of a plan's numbers; `share` is what the distribution gave the subject. -/
structure NumberBounds (share : ℕ) (plan : SubjectPlan) : Prop where
  served_le : plan.served ≤ kMaxServiceUnits
  entitlement_le : plan.entitlement ≤ share
  baseEntitlement_le : plan.baseEntitlement ≤ kMaxSubjects * kMaxServiceUnits
  deficit_le : plan.effectiveDeficit ≤ plan.entitlement + kMaxCarryUnits
  surplus_le : plan.surplus ≤ kMaxServiceUnits

/-- The bounds of what a plan asks for and what it can give. -/
structure AskingBounds (plan : SubjectPlan) : Prop where
  demand_le : plan.demand ≤ kMaxServiceUnits
  demand_le_deficit : plan.demand ≤ plan.effectiveDeficit
  reducible_le : plan.reducible ≤ kMaxServiceUnits
  withheld_le : plan.withheld ≤ kMaxServiceUnits
  demand_authority : plan.hasAuthority = false → plan.demand = 0
  reducible_authority : plan.hasAuthority = false → plan.reducible = 0

lemma NumberBounds.of_same {share : ℕ} {p q : SubjectPlan} (h : NumberBounds share p)
    (hsame : p.SameNumbers q) : NumberBounds share q where
  served_le := by rw [hsame.served]; exact h.served_le
  entitlement_le := by rw [hsame.entitlement]; exact h.entitlement_le
  baseEntitlement_le := by rw [hsame.baseEntitlement]; exact h.baseEntitlement_le
  deficit_le := by rw [hsame.effectiveDeficit, hsame.entitlement]; exact h.deficit_le
  surplus_le := by rw [hsame.surplus]; exact h.surplus_le

/-- The numbers stage keeps within the bounds. -/
lemma numberPlan_bounds {accounting : FairnessAccounting} {distribution : Distribution policy}
    {i : SubjectIndex policy} {p q : SubjectPlan}
    (hcarry : policy.maxCarryUnits.toNat ≤ kMaxCarryUnits)
    (hserved : p.served ≤ kMaxServiceUnits) (hblank : p.Blank)
    (hbase : distribution.base.subject i ≤ kMaxSubjects * kMaxServiceUnits)
    (h : numberPlan accounting distribution i p = .ok q) :
    NumberBounds (distribution.effective.subject i) q ∧ q.demand = 0 ∧ q.reducible = 0 ∧
      q.withheld = 0 := by
  -- without authority the plan is blank; with it the numbers are differences of bounded ones
  rcases numberPlan_eq_ok h with ⟨-, rfl⟩ | ⟨-, hn⟩
  · refine ⟨⟨hserved, ?_, ?_, ?_, ?_⟩, hblank.demand, hblank.reducible, hblank.withheld⟩
    · rw [hblank.entitlement]
      exact Nat.zero_le _
    · rw [hblank.baseEntitlement]
      exact Nat.zero_le _
    · rw [hblank.effectiveDeficit]
      exact Nat.zero_le _
    · rw [hblank.surplus]
      exact Nat.zero_le _
  · refine ⟨⟨?_, hn.entitlement.le, ?_, ?_, ?_⟩, ?_, ?_, ?_⟩
    · rw [hn.served]
      exact hserved
    · rw [hn.baseEntitlement]
      exact hbase
    · have hcarried : (accounting.find (subjectAt policy i).id).elim 0
          (fun e => min e.cumulativeDeficit.toNat policy.maxCarryUnits.toNat) ≤
          kMaxCarryUnits := by
        cases accounting.find (subjectAt policy i).id with
        | none => exact Nat.zero_le _
        | some entry => exact le_trans (Nat.min_le_right _ _) hcarry
      have hdeficit := hn.effectiveDeficit
      have hwindow := hn.thisWindowDeficit
      omega
    · have hsurplus := hn.surplus
      have hserved' := hn.served
      omega
    · rw [hn.demand, hblank.demand]
    · rw [hn.reducible, hblank.reducible]
    · rw [hn.withheld, hblank.withheld]

/-- What a subject asks for is within its deficit, what it gives within its surplus. -/
lemma demandSupplyPlan_bounds {accounting : FairnessAccounting} {window : ServiceWindowId}
    {subject : Subject} {plan : SubjectPlan} (hdemand : plan.demand = 0)
    (hreducible : plan.reducible = 0) (hwithheld : plan.withheld = 0)
    (hsurplus : plan.surplus ≤ kMaxServiceUnits) :
    AskingBounds (demandSupplyPlan policy accounting window subject plan) := by
  unfold demandSupplyPlan
  by_cases hauth : plan.hasAuthority = true
  · rw [if_neg (not_not.mpr hauth)]
    refine ⟨?_, ?_, ?_, ?_, fun hnot => ?_, fun hnot => ?_⟩
    · dsimp only
      split_ifs <;> omega
    · dsimp only
      split_ifs <;> omega
    · dsimp only
      split_ifs <;> omega
    · dsimp only
      split_ifs <;> omega
    · rw [hauth] at hnot
      cases hnot
    · rw [hauth] at hnot
      cases hnot
  · rw [if_pos hauth]
    exact ⟨by omega, by omega, by omega, by omega, fun _ => hdemand, fun _ => hreducible⟩

/-! ## Moving units -/

section Correct

variable {plans : Plans policy} {whole : ℕ}

/-- Everything the budget stages rely on. -/
structure Asking (policy : FairnessPolicy) (whole : ℕ) (plans : Plans policy) : Prop where
  count_le : policy.subjects.length ≤ kMaxSubjects
  whole_le : whole ≤ kMaxSubjects * kMaxServiceUnits
  entitled_le : ∑ i, (plans i).entitlement ≤ whole
  deficit_le : ∀ i, (plans i).effectiveDeficit ≤ (plans i).entitlement + kMaxCarryUnits
  asks : ∀ i, AskingBounds (plans i)

/-- The product of the whole and a basis-point bound is far below the word. -/
lemma budgetBps_of_lt (hwhole : whole ≤ kMaxSubjects * kMaxServiceUnits)
    (hbps : policy.maxCorrectionBps < 100000) :
    budgetBps policy whole = .ok (whole * policy.maxCorrectionBps.toNat / kBasisPointScale) := by
  have hlt : policy.maxCorrectionBps.toNat < 100000 := by
    simpa using UInt32.lt_iff_toNat_lt.mp hbps
  unfold kMaxSubjects kMaxServiceUnits at hwhole
  have hprod : whole * policy.maxCorrectionBps.toNat ≤ 2 ^ 52 * 100000 :=
    Nat.mul_le_mul (by omega) hlt.le
  have hquot : whole * policy.maxCorrectionBps.toNat / kBasisPointScale < 2 ^ 64 := by
    unfold kBasisPointScale
    omega
  rw [budgetBps, if_pos hbps, mulDiv_eq (by omega) (by omega) (by decide) (by decide) hquot]
  rfl

namespace Asking

variable (h : Asking policy whole plans)

include h

lemma total_ok {f : SubjectPlan → ℕ} (hf : ∀ i, f (plans i) ≤ kMaxServiceUnits) :
    checkedTotal (List.ofFn fun i => f (plans i)) 0 = some (∑ i, f (plans i)) := by
  have hle : ∑ i, f (plans i) ≤ kMaxSubjects * kMaxServiceUnits := sum_subjects_le h.count_le hf
  have hmax : kMaxSubjects * kMaxServiceUnits ≤ kUInt64Max := by decide
  have hfit : 0 + (List.ofFn fun i => f (plans i)).sum ≤ kUInt64Max := by
    rw [List.sum_ofFn, Nat.zero_add]
    exact le_trans hle hmax
  rw [checkedTotal_of_le hfit, List.sum_ofFn, Nat.zero_add]

lemma correctionTotals_ok : correctionTotals plans =
    .ok ⟨∑ i, (plans i).reducible, ∑ i, (plans i).demand, ∑ i, (plans i).withheld⟩ := by
  unfold correctionTotals
  dsimp only
  rw [h.total_ok fun i => (h.asks i).reducible_le, h.total_ok fun i => (h.asks i).demand_le,
    h.total_ok fun i => (h.asks i).withheld_le]
  rfl

lemma budgetBps_ok : ∃ bps, budgetBps policy whole = .ok bps := by
  by_cases hbps : policy.maxCorrectionBps < 100000
  · exact ⟨_, budgetBps_of_lt h.whole_le hbps⟩
  · rw [budgetBps, if_neg hbps]
    exact ⟨_, rfl⟩

lemma sum_demandOrder : ((demandOrder plans).map fun i => (plans i).demand).sum =
    ∑ i, (plans i).demand := by
  refine sum_map_stdSort_filter _ fun i hi => ?_
  rw [not_and_or, Bool.not_eq_true] at hi
  rcases hi with hauth | hzero
  · exact (h.asks i).demand_authority hauth
  · omega

lemma sum_supplyOrder : ((supplyOrder plans).map fun i => (plans i).reducible).sum =
    ∑ i, (plans i).reducible := by
  refine sum_map_stdSort_filter _ fun i hi => ?_
  rw [not_and_or, Bool.not_eq_true] at hi
  rcases hi with hauth | hzero
  · exact (h.asks i).reducible_authority hauth
  · omega

lemma grantPlans_ok {authorized : ℕ} (hle : authorized ≤ ∑ i, (plans i).demand) :
    grantPlans plans authorized = .ok fun i => { plans i with
      augment := takes (fun i => (plans i).demand) (demandOrder plans) authorized i } := by
  have hleft : left (fun i => (plans i).demand) (demandOrder plans) authorized = 0 := by
    rw [left_eq, h.sum_demandOrder]
    omega
  unfold grantPlans
  dsimp only
  rw [hleft, usub_eq_ok.mpr ⟨Nat.zero_le _, rfl⟩, ok_bind, if_neg (by simp)]

lemma reducePlans_ok {authorized : ℕ} (hle : authorized ≤ ∑ i, (plans i).reducible) :
    reducePlans plans authorized = .ok fun i => { plans i with
      reduce := takes (fun i => (plans i).reducible) (supplyOrder plans) authorized i } := by
  have hleft : left (fun i => (plans i).reducible) (supplyOrder plans) authorized = 0 := by
    rw [left_eq, h.sum_supplyOrder]
    omega
  rw [reducePlans, if_neg (not_not.mpr hleft)]

lemma sum_deficit_le : ∑ i, (plans i).effectiveDeficit ≤ kUInt64Max := by
  have hle : ∑ i, (plans i).effectiveDeficit ≤
      ∑ i, (plans i).entitlement + kMaxSubjects * kMaxCarryUnits := by
    calc ∑ i, (plans i).effectiveDeficit
        ≤ ∑ i, ((plans i).entitlement + kMaxCarryUnits) :=
          Finset.sum_le_sum fun i _ => h.deficit_le i
      _ = ∑ i, (plans i).entitlement + ∑ _i : SubjectIndex policy, kMaxCarryUnits :=
          Finset.sum_add_distrib
      _ ≤ ∑ i, (plans i).entitlement + kMaxSubjects * kMaxCarryUnits :=
          Nat.add_le_add_left (sum_subjects_le h.count_le fun _ => le_rfl) _
  have hfit : kMaxSubjects * kMaxServiceUnits + kMaxSubjects * kMaxCarryUnits ≤ kUInt64Max := by
    decide
  have hwhole := h.whole_le
  have hentitled := h.entitled_le
  omega

end Asking

/-- The loop over the unsatisfied demand succeeds while the deficits still to come fit. -/
lemma unsatisfied_loop_ok (haugment : ∀ i, (plans i).augment ≤ (plans i).effectiveDeficit)
    {indices : List (SubjectIndex policy)} {unsatisfied : ℕ}
    (hfit : unsatisfied + (indices.map fun i => (plans i).effectiveDeficit).sum ≤ kUInt64Max) :
    ∃ total, indices.foldlM (fun unsatisfied i =>
      if ¬ (plans i).hasAuthority ∨ (plans i).cooling ∨
          (plans i).effectiveDeficit ≤ policy.fairBandUnits.toNat then .ok unsatisfied
      else do
        let unmet ← usub (plans i).effectiveDeficit (plans i).augment
        orFail .arithmeticOverflow "unsatisfied demand overflows"
          (checkedAdd unsatisfied unmet)) unsatisfied = (.ok total : Eval ℕ) := by
  refine (Forest.foldlM_ok _ (fun rest total =>
    total + (rest.map fun i => (plans i).effectiveDeficit).sum ≤ kUInt64Max) hfit
    fun i rest total hI => ?_).imp fun _ h => h.1
  rw [List.map_cons, List.sum_cons] at hI
  split_ifs
  · exact ⟨_, rfl, by omega⟩
  · have hi := haugment i
    rw [usub_eq_ok.mpr ⟨hi, rfl⟩, ok_bind, checkedAdd_of_le (by omega)]
    exact ⟨_, rfl, by omega⟩

lemma unsatisfiedDemand_ok (haugment : ∀ i, (plans i).augment ≤ (plans i).effectiveDeficit)
    (hfit : ∑ i, (plans i).effectiveDeficit ≤ kUInt64Max) :
    ∃ unsatisfied, unsatisfiedDemand policy plans = .ok unsatisfied := by
  refine unsatisfied_loop_ok haugment ?_
  rw [Nat.zero_add, ← List.ofFn_eq_map, List.sum_ofFn]
  exact hfit

/-- Attributing the shortfalls only marks plans. -/
lemma blockPlans_ok (haugment : ∀ i, (plans i).augment ≤ (plans i).effectiveDeficit)
    (blocked : Bool) : ∃ held, blockPlans plans blocked = .ok held ∧
      ∀ i, (plans i).Decided (held i) := by
  have hstep : ∀ i, ∃ plan, (if i ∈ demandOrder plans then do
      let plan := plans i
      let subjectCap := (subjectAt policy i).maxAugmentUnits.toNat
      let capUnmet :=
        if plan.effectiveDeficit > subjectCap then plan.effectiveDeficit - subjectCap else 0
      let unmet ← usub plan.effectiveDeficit plan.augment
      return { plan with blocked := blocked && decide (unmet > capUnmet) }
      else .ok (plans i)) = (.ok plan : Eval SubjectPlan) ∧ (plans i).Decided plan := by
    intro i
    split_ifs
    · dsimp only
      rw [usub_eq_ok.mpr ⟨haugment i, rfl⟩]
      exact ⟨_, rfl, ⟨⟨⟨rfl, rfl, rfl, rfl, rfl, rfl, rfl, rfl⟩, rfl, rfl, rfl⟩, rfl, rfl, rfl,
        rfl, rfl⟩⟩
    · exact ⟨_, rfl, .rfl'⟩
  choose held hheld using hstep
  exact ⟨held, collect_eq_ok.mpr fun i => (hheld i).1, fun i => (hheld i).2⟩

/-- The stages that move units succeed, and no subject is granted more than its deficit. -/
lemma Asking.correctPlans_ok (h : Asking policy whole plans) (authorityMissing : Bool) :
    ∃ result, correctPlans whole authorityMissing plans = .ok result ∧ ∀ i,
      (result.1 i).augment ≤ (result.1 i).effectiveDeficit ∧
      (result.1 i).withheld ≤ kMaxServiceUnits := by
  obtain ⟨bps, hbps⟩ := h.budgetBps_ok
  obtain ⟨totals, htotals⟩ : ∃ t : CorrectionTotals, t = ⟨∑ i, (plans i).reducible,
      ∑ i, (plans i).demand, ∑ i, (plans i).withheld⟩ := ⟨_, rfl⟩
  obtain ⟨authorized, hauthorized⟩ : ∃ a, a = authorizedUnits policy totals bps := ⟨_, rfl⟩
  have hpool : authorized ≤ ∑ i, (plans i).reducible := by
    rw [hauthorized, authorizedUnits, htotals]
    exact Nat.min_le_left _ _
  have hdemand : authorized ≤ ∑ i, (plans i).demand := by
    rw [hauthorized, authorizedUnits, htotals]
    exact le_trans (Nat.min_le_right _ _) (Nat.min_le_left _ _)
  have hgranted := h.grantPlans_ok hdemand
  obtain ⟨granted, hgranted_eq⟩ : ∃ g : Plans policy, g = fun i => { plans i with
      augment := takes (fun i => (plans i).demand) (demandOrder plans) authorized i } := ⟨_, rfl⟩
  rw [← hgranted_eq] at hgranted
  -- granting touches nothing the reductions look at
  have hasks : Asking policy whole granted := by
    rw [hgranted_eq]
    exact ⟨h.count_le, h.whole_le, h.entitled_le, h.deficit_le, fun i => ⟨(h.asks i).demand_le,
      (h.asks i).demand_le_deficit, (h.asks i).reducible_le, (h.asks i).withheld_le,
      (h.asks i).demand_authority, (h.asks i).reducible_authority⟩⟩
  have hpool' : authorized ≤ ∑ i, (granted i).reducible := by
    rw [hgranted_eq]
    exact hpool
  have hreduced := hasks.reducePlans_ok hpool'
  obtain ⟨reduced, hreduced_eq⟩ : ∃ r : Plans policy, r = fun i => { granted i with
      reduce := takes (fun i => (granted i).reducible) (supplyOrder granted) authorized i } :=
    ⟨_, rfl⟩
  rw [← hreduced_eq] at hreduced
  have haugment : ∀ i, (reduced i).augment ≤ (reduced i).effectiveDeficit := by
    intro i
    rw [hreduced_eq, hgranted_eq]
    exact le_trans (takes_le _ _ _ _) (h.asks i).demand_le_deficit
  have hdeficit : ∑ i, (reduced i).effectiveDeficit ≤ kUInt64Max := by
    rw [hreduced_eq]
    exact hasks.sum_deficit_le
  obtain ⟨unsatisfied, hunsatisfied⟩ := unsatisfiedDemand_ok haugment hdeficit
  obtain ⟨held, hheld, hdecided⟩ := blockPlans_ok haugment
    (unsatisfied > 0 ∧ totals.withheldTotal > 0 ∧ authorized < totals.demandTotal : Bool)
  unfold correctPlans
  rw [h.correctionTotals_ok, ← htotals, ok_bind, hbps, ok_bind]
  dsimp only
  rw [← hauthorized, hgranted, ok_bind, hreduced, ok_bind, hunsatisfied, ok_bind, hheld, ok_bind]
  refine ⟨_, rfl, fun i => ?_⟩
  have hfinal : (held i).Decided (assignOutcome policy (subjectAt policy i) (held i)) :=
    assignOutcome_decided _ _
  dsimp only
  rw [hfinal.augment, (hdecided i).augment, hfinal.effectiveDeficit, (hdecided i).effectiveDeficit,
    hfinal.withheld, (hdecided i).withheld]
  refine ⟨haugment i, ?_⟩
  rw [hreduced_eq, hgranted_eq]
  exact (h.asks i).withheld_le

end Correct

/-! ## The records -/

section Records

variable {plans : Plans policy}

/-- Reporting a subject takes no trapping exit. -/
lemma subjectState_ok (hp : ValidPolicy policy) {subject : Subject} {plan : SubjectPlan}
    (haugment : plan.augment ≤ plan.effectiveDeficit)
    (hentitlement : plan.entitlement ≤ kMaxSubjects * kMaxServiceUnits)
    (hbase : plan.baseEntitlement ≤ kMaxSubjects * kMaxServiceUnits) :
    ∃ state, subjectState policy subject plan = .ok state := by
  have hunsatisfied : ∃ units, unsatisfiedUnits policy plan = .ok units := by
    unfold unsatisfiedUnits
    split_ifs
    · exact ⟨_, usub_eq_ok.mpr ⟨haugment, rfl⟩⟩
    · exact ⟨_, rfl⟩
  obtain ⟨units, hunits⟩ := hunsatisfied
  have hword : kMaxSubjects * kMaxServiceUnits ≤ kInt64Max := by decide
  have hdelta := signedDiff_eq_ok.mpr
    ⟨le_trans hentitlement hword, le_trans hbase hword, rfl⟩
  have hmodifier : ∃ modifier, appliedModifier policy subject = .ok modifier := by
    have hle := hp.maxModifier_le
    have hlt : policy.maxPriorityModifierBps.toNat < 2 ^ 31 := by
      unfold kMaxPriorityModifierBps at hle
      omega
    rw [appliedModifier, toInt32, if_pos hlt]
    exact ⟨_, rfl⟩
  obtain ⟨modifier, hmodifier⟩ := hmodifier
  rw [subjectState, hunits, ok_bind, hdelta, ok_bind, hmodifier, ok_bind]
  exact ⟨_, rfl⟩

/-- Every group of a rollup holds at most `bound` units. -/
def Rollup.Within (bound : ℕ) (rollup : Rollup policy) : Prop :=
  (∀ g, rollup.served g ≤ bound) ∧ ∀ g, rollup.withheld g ≤ bound

lemma Rollup.Within.mono {rollup : Rollup policy} {a b : ℕ} (h : rollup.Within a) (hle : a ≤ b) :
    rollup.Within b :=
  ⟨fun g => le_trans (h.1 g) hle, fun g => le_trans (h.2 g) hle⟩

/-- A rollup with room for `count` more subjects below the signed word. -/
def Rollup.HasRoom (rollup : Rollup policy) (count : ℕ) : Prop :=
  ∃ bound, rollup.Within bound ∧
    bound + count * (kMaxGroupDepth * kMaxServiceUnits) ≤ kInt64Max

lemma addWhen_ok (condition : Prop) [Decidable condition] {total units bound : ℕ}
    (htotal : total ≤ bound) (hunits : units ≤ kMaxServiceUnits)
    (hbound : bound + kMaxServiceUnits ≤ kUInt64Max) :
    ∃ sum, addWhen condition total units = .ok sum ∧ sum ≤ bound + kMaxServiceUnits := by
  unfold addWhen
  split_ifs
  · exact ⟨_, uadd_eq_ok.mpr ⟨by omega, rfl⟩, by omega⟩
  · exact ⟨_, rfl, by omega⟩

lemma update_le {n : ℕ} {f : Fin n → ℕ} {a b v : ℕ} {i : Fin n} (hf : ∀ j, f j ≤ a)
    (hv : v ≤ b) (hab : a ≤ b) (j : Fin n) : Function.update f i v j ≤ b := by
  rw [Function.update_apply]
  split_ifs
  · exact hv
  · exact le_trans (hf j) hab

/-- One subject's way up to its root. -/
lemma rollUp_ok {tree : GroupTree policy} {plan : SubjectPlan} {steps depth d bound : ℕ}
    {cursor : GroupIndex policy} {rollup : Rollup policy}
    (hway : groupDepth policy tree.parentNode steps depth cursor = .ok d)
    (hserved : plan.served ≤ kMaxServiceUnits) (hwithheld : plan.withheld ≤ kMaxServiceUnits)
    (hrollup : rollup.Within bound) (hbound : bound + steps * kMaxServiceUnits ≤ kUInt64Max) :
    ∃ rollup', rollUp tree plan steps cursor rollup = .ok rollup' ∧
      rollup'.Within (bound + steps * kMaxServiceUnits) := by
  -- Every level the walk climbs may raise a total by one subject's service, so the room left
  -- shrinks by `kMaxServiceUnits` a step.
  induction steps generalizing depth cursor rollup bound with
  | zero => simp [groupDepth] at hway
  | succ steps ih =>
    rw [Nat.add_mul, Nat.one_mul] at hbound ⊢
    obtain ⟨served, hs, hs_le⟩ := addWhen_ok (plan.hasAuthority = true)
      (hrollup.1 cursor) hserved (by omega)
    obtain ⟨withheld, hw, hw_le⟩ := addWhen_ok (plan.withheld > 0)
      (hrollup.2 cursor) hwithheld (by omega)
    have hwithin : Rollup.Within (bound + kMaxServiceUnits) (⟨Function.update rollup.served cursor served,
        Function.update rollup.withheld cursor withheld⟩ : Rollup policy) :=
      ⟨update_le hrollup.1 hs_le (Nat.le_add_right _ _),
        update_le hrollup.2 hw_le (Nat.le_add_right _ _)⟩
    rw [groupDepth] at hway
    rw [rollUp, hs, ok_bind, hw, ok_bind]
    dsimp only
    cases hparent : tree.parentNode cursor with
    | none => exact ⟨_, rfl, hwithin.mono (by omega)⟩
    | some parent =>
      rw [hparent] at hway
      obtain ⟨rollup', hrun, hle⟩ := ih hway hwithin (by omega)
      exact ⟨rollup', hrun, hle.mono (by omega)⟩

/-- The rollups of all subjects stay far below the word. -/
lemma groupRollups_ok {tree : GroupTree policy} (ht : IsTreeOf tree)
    (hcount : policy.subjects.length ≤ kMaxSubjects)
    (hserved : ∀ i, (plans i).served ≤ kMaxServiceUnits)
    (hwithheld : ∀ i, (plans i).withheld ≤ kMaxServiceUnits) :
    ∃ rollup, groupRollups tree plans = .ok rollup ∧ ∀ g, rollup.served g ≤ kInt64Max := by
  have hmax : kMaxSubjects * (kMaxGroupDepth * kMaxServiceUnits) ≤ kInt64Max := by decide
  have hword : kInt64Max ≤ kUInt64Max := by decide
  have hinit : Rollup.HasRoom ({} : Rollup policy) (List.finRange policy.subjects.length).length := by
    refine ⟨0, ⟨fun _ => le_rfl, fun _ => le_rfl⟩, ?_⟩
    rw [List.length_finRange, Nat.zero_add]
    exact le_trans (Nat.mul_le_mul_right _ hcount) hmax
  obtain ⟨rollup, hrun, bound, hwithin, hle⟩ := Forest.foldlM_ok
    (rollUpSubject tree plans) (fun rest rollup => rollup.HasRoom rest.length) hinit
    (by
      rintro i rest rollup ⟨bound, hwithin, hle⟩
      rw [List.length_cons, Nat.add_mul, Nat.one_mul] at hle
      unfold rollUpSubject
      cases byId policy (subjectAt policy i).group with
      | none => exact ⟨rollup, rfl, bound, hwithin, by omega⟩
      | some node =>
        have hway := ht.depth_eq node
        rw [← ht.parentNode_eq] at hway
        obtain ⟨rollup', hrun, hle'⟩ :=
          rollUp_ok hway (hserved i) (hwithheld i) hwithin (by omega)
        exact ⟨rollup', hrun, _, hle', by omega⟩)
  exact ⟨rollup, hrun, fun g => le_trans (hwithin.1 g) (by omega)⟩

/-- Reporting a group takes no trapping exit. -/
lemma groupState_ok (tree : GroupTree policy) {pass : PassState policy} {rollup : Rollup policy}
    {g : GroupIndex policy} (hserved : rollup.served g ≤ kInt64Max)
    (halloc : pass.allocation g ≤ kMaxSubjects * kMaxServiceUnits) :
    ∃ state, groupState tree pass rollup g = .ok state := by
  have hword : kMaxSubjects * kMaxServiceUnits ≤ kInt64Max := by decide
  have hdeviation := signedDiff_eq_ok.mpr ⟨hserved, le_trans halloc hword, rfl⟩
  rw [groupState, hdeviation, ok_bind]
  exact ⟨_, rfl⟩

/-- A loop that pushes at most one intent for every subject of an order. -/
lemma intents_loop_ok {order : List (SubjectIndex policy)} {state : IntentState}
    (units : SubjectIndex policy → ℕ)
    (make : SubjectIndex policy → InterventionGeneration → CorrectiveIntent)
    (hcount : state.intents.length + order.length ≤ kMaxCorrectiveIntents) :
    ∃ state', order.foldlM (fun state i =>
        if units i = 0 then .ok state else pushIntent state (make i)) state =
        (.ok state' : Eval IntentState) ∧
      state'.intents.length ≤ state.intents.length + order.length := by
  obtain ⟨state', hrun, hle⟩ := Forest.foldlM_ok
    (fun i state => if units i = 0 then (.ok state : Eval IntentState)
      else pushIntent state (make i))
    (fun rest s => s.intents.length + rest.length ≤ state.intents.length + order.length) le_rfl
    (by
      intro i rest s hI
      rw [List.length_cons] at hI
      split_ifs
      · exact ⟨s, rfl, by omega⟩
      · rw [pushIntent, if_neg (by omega)]
        refine ⟨_, rfl, ?_⟩
        dsimp only
        rw [List.length_append, List.length_singleton]
        omega)
  exact ⟨state', hrun, by simpa using hle⟩

/-- Two intents for every subject are within the bound. -/
lemma correctiveIntents_ok (plans : Plans policy) (hcount : policy.subjects.length ≤ kMaxSubjects)
    (request : EvaluationRequest) (generation : InterventionGeneration) :
    ∃ state, correctiveIntents request generation plans = .ok state := by
  have hmax : kMaxSubjects + kMaxSubjects = kMaxCorrectiveIntents := rfl
  have hdemand : (demandOrder plans).length ≤ kMaxSubjects :=
    le_trans (length_stdSort_filter_le _ _) hcount
  have hsupply : (supplyOrder plans).length ≤ kMaxSubjects :=
    le_trans (length_stdSort_filter_le _ _) hcount
  have hempty : ({ generation := generation } : IntentState).intents.length +
      (demandOrder plans).length ≤ kMaxCorrectiveIntents := by
    show 0 + (demandOrder plans).length ≤ kMaxCorrectiveIntents
    omega
  obtain ⟨augmented, haugmented, hle⟩ := intents_loop_ok (fun i => (plans i).augment)
    (fun i => augmentIntent request (subjectAt policy i) (plans i)) hempty
  have hroom : augmented.intents.length + (supplyOrder plans).length ≤ kMaxCorrectiveIntents := by
    have : augmented.intents.length ≤ 0 + (demandOrder plans).length := hle
    omega
  obtain ⟨reduced, hreduced, -⟩ := intents_loop_ok (fun i => (plans i).reduce)
    (fun i => reduceIntent request (subjectAt policy i) (plans i)) hroom
  refine ⟨reduced, ?_⟩
  rw [correctiveIntents, haugmented, ok_bind]
  exact hreduced

end Records

end FairnessGovernor
