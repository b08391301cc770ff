/-
# Corrections that an obligation blocks

A decision says that a protected obligation blocks it when some demand is left over, some units
are withheld and the budget is below the demand.  The three are compared one by one, so the flag
is also raised where a bound of the policy is what ends the budget; releasing the withheld units
would then change nothing.  `attributesBlocking_iff` is the exact condition: nothing is withheld,
the demand is met, or the reducible pool is below the policy's own bounds.
-/
import FairnessGovernor.Eval.Demand

namespace FairnessGovernor

open Apportion

/-! ## What is withheld -/

/-- What a protected obligation holds back of the surplus a subject could give. -/
def withheldOf (subject : Subject) (observation : SubjectObservation) (entitlement : ℕ) : ℕ :=
  min (observation.servedUnits.toNat - entitlement) subject.maxReduceUnits.toNat -
    supplyOf subject observation entitlement

/-- What is withheld from each subject's supply. -/
def withheldAt (context : EvaluationContext) (policy : FairnessPolicy) (covered : Plans policy)
    (split : PassState policy) (i : SubjectIndex policy) : ℕ :=
  (observationFor context policy covered i).elim 0 fun observation =>
    withheldOf (subjectAt policy i) observation (split.subject i)

/-- The obligation is named as what blocks only where it is: releasing the withheld units would
have enlarged the budget. -/
def AttributesBlocking (policy : FairnessPolicy) (decision : FairnessDecision) : Prop :=
  ((∃ state ∈ decision.subjects, state.outcome = .blockedByStrongerObligation) →
    decision.correction.protectedObligationBlocked = true) ∧
  (decision.correction.protectedObligationBlocked = true →
    decision.correction.authorizedBudgetUnits <
      min (decision.correction.reduciblePoolUnits + decision.correction.withheldUnits)
        (min decision.correction.demandUnits
          (policyBound policy (decision.total (·.servedUnits)))))

instance (policy : FairnessPolicy) (decision : FairnessDecision) :
    Decidable (AttributesBlocking policy decision) :=
  inferInstanceAs (Decidable (_ ∧ _))

/-- Nothing is withheld, all that is asked for is granted, or what can be given is below the
bounds of the policy. -/
def ObligationBinds (context : EvaluationContext) (policy : FairnessPolicy)
    (accounting : FairnessAccounting) : Prop :=
  ∃ covered split, Inputs context policy accounting covered split ∧
    (∑ i, withheldAt context policy covered split i = 0 ∨
      ∑ i, demandAt context policy accounting covered split i ≤
        min (∑ i, supplyAt context policy covered split i)
          (policyBound policy (∑ i, (covered i).served)) ∨
      ∑ i, supplyAt context policy covered split i <
        policyBound policy (∑ i, (covered i).served))

/-! ## The stage that moves units -/

section Stage

variable {policy : FairnessPolicy} {asking final : Plans policy} {whole : ℕ} {missing : Bool}
  {correction : CorrectionSummary}

/-- A subject whose recognized deficit is not met counts. -/
lemma unsatisfiedDemand_pos {plans : Plans policy} {unsatisfied : ℕ}
    (h : unsatisfiedDemand policy plans = .ok unsatisfied) {i : SubjectIndex policy}
    (hauth : (plans i).hasAuthority = true) (hcooling : (plans i).cooling = false)
    (hband : policy.fairBandUnits.toNat < (plans i).effectiveDeficit)
    (hshort : (plans i).augment < (plans i).effectiveDeficit) : 0 < unsatisfied := by
  -- the sum only grows along the loop, and grows by the shortfall at `i`
  have hloop : ∀ (xs : List (SubjectIndex policy)) (total last : ℕ),
      xs.foldlM (fun unsatisfied i =>
        if ¬ (plans i).hasAuthority ∨ (plans i).cooling ∨
            (plans i).effectiveDeficit ≤ policy.fairBandUnits.toNat then .ok unsatisfied
        else do
          let unmet ← usub (plans i).effectiveDeficit (plans i).augment
          orFail .arithmeticOverflow "unsatisfied demand overflows"
            (checkedAdd unsatisfied unmet)) total = (.ok last : Eval ℕ) →
      total ≤ last ∧ (i ∈ xs → 0 < last) := by
    intro xs
    induction xs with
    | nil =>
      intro total last hlast
      obtain rfl := Except.ok.inj hlast
      exact ⟨le_rfl, fun hi => by cases hi⟩
    | cons j xs ih =>
      intro total last hlast
      rw [List.foldlM_cons] at hlast
      obtain ⟨next, hnext, hrest⟩ := bind_eq_ok.mp hlast
      obtain ⟨hle, hmem⟩ := ih next last hrest
      by_cases hskip : ¬ (plans j).hasAuthority ∨ (plans j).cooling ∨
          (plans j).effectiveDeficit ≤ policy.fairBandUnits.toNat
      · rw [if_pos hskip] at hnext
        obtain rfl := Except.ok.inj hnext
        refine ⟨hle, fun hi => ?_⟩
        rcases List.mem_cons.mp hi with rfl | hi
        · rw [hauth, hcooling] at hskip
          simp only [not_true_eq_false, Bool.false_eq_true, false_or] at hskip
          omega
        · exact hmem hi
      · rw [if_neg hskip] at hnext
        obtain ⟨unmet, hunmet, hnext⟩ := bind_eq_ok.mp hnext
        obtain ⟨-, rfl⟩ := usub_eq_ok.mp hunmet
        rw [orFail_eq_ok, checkedAdd_eq_some] at hnext
        refine ⟨by omega, fun hi => ?_⟩
        rcases List.mem_cons.mp hi with rfl | hi
        · omega
        · exact hmem hi
  exact (hloop _ 0 unsatisfied h).2 (List.mem_finRange i)

/-- What a plan that asks has gone through: it asks within its recognized deficit, and nothing
is held against it yet. -/
structure Unblocked (policy : FairnessPolicy) (plan : SubjectPlan) : Prop where
  counted : 0 < plan.demand → plan.hasAuthority = true ∧ plan.cooling = false ∧
    policy.fairBandUnits.toNat < plan.effectiveDeficit ∧ plan.demand ≤ plan.effectiveDeficit
  blocked : plan.blocked = false
  outcome : plan.hasAuthority = false → plan.outcome ≠ .blockedByStrongerObligation

/-- The outcome of a plan that nothing is held against. -/
lemma assignOutcome_ne_blocked {subject : Subject} {plan : SubjectPlan}
    (hblocked : plan.blocked = false)
    (houtcome : plan.hasAuthority = false → plan.outcome ≠ .blockedByStrongerObligation) :
    (assignOutcome policy subject plan).outcome ≠ .blockedByStrongerObligation := by
  unfold assignOutcome
  by_cases hauth : plan.hasAuthority = true
  · rw [if_neg (not_not.mpr hauth)]
    simp only [hblocked, Bool.false_eq_true, if_false]
    split_ifs <;> exact Outcome.noConfusion
  · rw [if_pos hauth]
    exact houtcome (Bool.eq_false_of_not_eq_true hauth)

/-- When the flag is raised, and who is blamed on it. -/
lemma correctPlans_blocked (hasking : ∀ i, Unblocked policy (asking i))
    (h : correctPlans whole missing asking = .ok (final, correction)) :
    correction.withheldUnits = ∑ i, (asking i).withheld ∧
    (correction.protectedObligationBlocked = true ↔ 0 < ∑ i, (asking i).withheld ∧
      correction.authorizedBudgetUnits < correction.demandUnits) ∧
    ∀ i, (final i).outcome = .blockedByStrongerObligation →
      correction.protectedObligationBlocked = true := by
  have hc := correctPlans_corrected h
  obtain ⟨totals, htotals, h⟩ := bind_eq_ok.mp h
  obtain ⟨bps, hbps, h⟩ := bind_eq_ok.mp h
  obtain ⟨granted, hgranted, h⟩ := bind_eq_ok.mp h
  obtain ⟨reduced, hreduced, h⟩ := bind_eq_ok.mp h
  obtain ⟨unsatisfied, hunsatisfied, h⟩ := bind_eq_ok.mp h
  obtain ⟨held, hheld, h⟩ := bind_eq_ok.mp h
  obtain ⟨hfinal, hcorrection⟩ := Prod.mk.inj (Except.ok.inj h)
  obtain ⟨-, hdemand, hwithheld⟩ := correctionTotals_eq_ok htotals
  obtain ⟨-, rfl⟩ := grantPlans_eq_ok hgranted
  obtain ⟨-, rfl⟩ := reducePlans_eq_ok hreduced
  have hauthorized : correction.authorizedBudgetUnits = authorizedUnits policy totals bps := by
    rw [← hcorrection]
  have hdemandUnits : correction.demandUnits = totals.demandTotal := by rw [← hcorrection]
  -- a demand that is left over counts as unsatisfied
  have hunmet : correction.authorizedBudgetUnits < correction.demandUnits → 0 < unsatisfied := by
    intro hlt
    have hsum := hc.sum_augment
    rw [hdemandUnits, hdemand, ← hsum] at hlt
    obtain ⟨i, -, hi⟩ := Finset.exists_lt_of_sum_lt hlt
    obtain ⟨hauth, hcooling, hband, hle⟩ := (hasking i).counted (by omega)
    refine unsatisfiedDemand_pos hunsatisfied hauth hcooling hband ?_
    rw [hc.augment, hauthorized] at hi
    exact hi.trans_le hle
  have hflag : correction.protectedObligationBlocked = true ↔
      0 < ∑ i, (asking i).withheld ∧
        correction.authorizedBudgetUnits < correction.demandUnits := by
    have hraised : correction.protectedObligationBlocked =
        decide (unsatisfied > 0 ∧ totals.withheldTotal > 0 ∧
          authorizedUnits policy totals bps < totals.demandTotal) := by rw [← hcorrection]
    rw [hraised, decide_eq_true_iff, ← hwithheld, ← hauthorized, ← hdemandUnits]
    exact ⟨fun hall => hall.2, fun hall => ⟨hunmet hall.2, hall⟩⟩
  refine ⟨by rw [← hcorrection, ← hwithheld], hflag, fun i hi => ?_⟩
  by_contra hnot
  refine absurd hi ?_
  rw [← hfinal]
  have hheld' := collect_eq_ok.mp hheld i
  rw [← hcorrection] at hnot
  refine assignOutcome_ne_blocked ?_ fun hauth => ?_
  · split_ifs at hheld' with hmem
    · obtain ⟨unmet, -, hi'⟩ := bind_eq_ok.mp hheld'
      rw [← Except.ok.inj hi']
      simp only [Bool.and_eq_false_iff]
      exact .inl (Bool.eq_false_of_not_eq_true hnot)
    · rw [← Except.ok.inj hheld']
      exact (hasking i).blocked
  · obtain ⟨mark, hmark⟩ := blockPlans_eq_ok hheld i
    rw [hmark] at hauth ⊢
    exact (hasking i).outcome hauth

end Stage

/-! ## The stages before it -/

/-- Nothing is held against a plan before the correction, and nothing is decided. -/
structure Unmarked (plan : SubjectPlan) : Prop where
  blocked : plan.blocked = false
  outcome : plan.outcome ≠ .blockedByStrongerObligation

section Stages

variable {policy : FairnessPolicy} {request : EvaluationRequest} {accounting : FairnessAccounting}
  {eligible : Except EvidenceFailure EvidenceSnapshot}

lemma authorityPlans_unmarked (i : SubjectIndex policy) :
    Unmarked (authorityPlans request accounting eligible i) := by
  cases eligible with
  | error failure =>
    refine ⟨rfl, ?_⟩
    show (failedPlan request failure).outcome ≠ _
    unfold failedPlan
    split_ifs <;> exact Outcome.noConfusion
  | ok evidence =>
    show Unmarked (authorityPlan request accounting evidence (subjectAt policy i))
    rcases authorityPlan_cases with ⟨_, _, houtcome, hplan⟩ | ⟨_, -, hplan⟩
    · rw [hplan]
      exact ⟨rfl, by rcases houtcome with rfl | rfl <;> exact Outcome.noConfusion⟩
    · rw [hplan]
      exact ⟨rfl, Outcome.noConfusion⟩

lemma numberPlan_unmarked {distribution : Distribution policy} {i : SubjectIndex policy}
    {p q : SubjectPlan} (h : numberPlan accounting distribution i p = .ok q) (hp : Unmarked p) :
    Unmarked q := by
  obtain ⟨_, _, _, _, _, _, _, _, _, _, _, rfl⟩ := numberPlan_writes h
  exact ⟨hp.blocked, hp.outcome⟩

lemma starvationPlans_unmarked {plans : Plans policy} {i : SubjectIndex policy}
    (h : Unmarked (plans i)) : Unmarked (starvationPlans eligible plans i) := by
  cases eligible with
  | error failure => exact h
  | ok evidence =>
    show Unmarked (starvationPlan evidence (subjectAt policy i) (plans i))
    obtain ⟨_, _, _, _, hwrites⟩ := starvationPlan_writes (subjectAt policy i) (plans i)
    rw [hwrites]
    exact ⟨h.blocked, h.outcome⟩

lemma demandSupplyPlan_unblocked {window : ServiceWindowId} {subject : Subject}
    {plan : SubjectPlan} (hdemand : plan.demand = 0) (h : Unmarked plan) :
    Unblocked policy (demandSupplyPlan policy accounting window subject plan) := by
  unfold demandSupplyPlan
  by_cases hauth : ¬ plan.hasAuthority
  · rw [if_pos hauth]
    exact ⟨fun hpos => absurd hdemand hpos.ne', h.blocked, fun _ => h.outcome⟩
  · rw [if_neg hauth]
    refine ⟨fun hpos => ?_, h.blocked, fun _ => h.outcome⟩
    dsimp only at hpos ⊢
    split_ifs at hpos ⊢ with hside
    · simp only [Bool.and_eq_true, decide_eq_true_eq, Bool.not_eq_true'] at hside
      exact ⟨by simpa using hauth, hside.2, hside.1, Nat.min_le_left _ _⟩
    · exact absurd hdemand hpos.ne'

/-- What is withheld from a plan, when it asks. -/
lemma demandSupplyPlan_withheld {window : ServiceWindowId} {subject : Subject}
    {plan : SubjectPlan} (hauth : plan.hasAuthority = true) (hwithheld : plan.withheld = 0)
    (hreducible : plan.reducible = 0) :
    (demandSupplyPlan policy accounting window subject plan).withheld =
      min plan.surplus subject.maxReduceUnits.toNat -
        (demandSupplyPlan policy accounting window subject plan).reducible := by
  unfold demandSupplyPlan
  rw [if_neg (not_not.mpr hauth)]
  dsimp only
  by_cases hsurplus : plan.surplus > 0
  · rw [if_pos hsurplus, if_pos hsurplus]
  · rw [if_neg hsurplus, if_neg hsurplus, hwithheld, hreducible]
    omega

end Stages

section Evaluation

variable {context : EvaluationContext} {policy : FairnessPolicy}
  {accounting : FairnessAccounting} {tree : GroupTree policy}
  {eligible : Except EvidenceFailure EvidenceSnapshot} {whole : ℕ} {numbered : Plans policy}
  {planned : Planned policy} {missing : Bool}

variable
  (hs : EvaluationStages context policy accounting tree eligible whole numbered planned)

include hs

lemma askingPlans_unblocked (i : SubjectIndex policy) :
    Unblocked policy (askingPlans context.request accounting eligible numbered i) := by
  have hblank : (authorityPlans context.request accounting eligible i).Blank :=
    authorityPlans_blank i
  have hkeeps : (numbered i).SameAsks (starvationPlans eligible numbered i) :=
    starvationPlans_asks i
  refine demandSupplyPlan_unblocked ?_
    (starvationPlans_unmarked (numberPlan_unmarked (hs.numbered_eq i) (authorityPlans_unmarked i)))
  rw [hkeeps.demand]
  by_cases hauth : (planned.plans i).hasAuthority = true
  · rw [(hs.numbered_of_authority hauth).demand, hblank.demand]
  · have hsame := hs.hasAuthority i
    rw [Bool.eq_false_of_not_eq_true hauth] at hsame
    have hnumbered := hs.numbered_eq i
    rw [numberPlan, if_pos (by rw [← hsame]; exact Bool.false_ne_true)] at hnumbered
    rw [← Except.ok.inj hnumbered, hblank.demand]

/-- The plans withhold what the inputs do. -/
lemma withheld_eq
    (hc : Corrected policy whole missing (askingPlans context.request accounting eligible numbered)
      planned.plans planned.correction) (i : SubjectIndex policy) :
    (askingPlans context.request accounting eligible numbered i).withheld = withheldAt context
      policy (authorityPlans context.request accounting eligible) planned.distribution.effective
      i := by
  have hblank : (authorityPlans context.request accounting eligible i).Blank :=
    authorityPlans_blank i
  cases hi : (planned.plans i).hasAuthority with
  | false =>
    rw [withheldAt, hs.unobserved hi, hs.without hi, hblank.withheld]
    rfl
  | true =>
    obtain ⟨evidence, observation, -, -, hobserved, hserved⟩ := hs.observed hi
    have hn := hs.numbered_of_authority hi
    have hsame : (numbered i).SameNumbers (starvationPlans eligible numbered i) :=
      starvationPlans_sameNumbers i
    have hkeeps : (numbered i).SameAsks (starvationPlans eligible numbered i) :=
      starvationPlans_asks i
    have hsupply := reducible_eq hs hc i
    rw [supplyAt, hobserved, hc.reducible] at hsupply
    -- what could be given is the surplus over the entitlement
    have hsurplus : (starvationPlans eligible numbered i).surplus =
        observation.servedUnits.toNat - planned.distribution.effective.subject i := by
      rw [← hserved, ← hs.entitlement hi, ← hs.surplus hi, (hc.settled i).surplus]
      exact (demandSupplyPlan_settled _ _ _ _).surplus.symm
    rw [askingPlans, demandSupplyPlan_withheld (hsame.hasAuthority.trans hn.hasAuthority)
      (hkeeps.withheld.trans (hn.withheld.trans hblank.withheld))
      (hkeeps.reducible.trans (hn.reducible.trans hblank.reducible)), hsurplus, withheldAt,
      hobserved]
    rw [askingPlans] at hsupply
    rw [hsupply]
    rfl

end Evaluation

/-- A decision attributes blocking to an obligation only where the obligation blocks exactly when
nothing is withheld, the demand is met or the policy's bounds leave room above the pool. -/
theorem attributesBlocking_iff {context : EvaluationContext} {policy : FairnessPolicy}
    {accounting : FairnessAccounting} {decision : FairnessDecision}
    (hpolicy : context.policy = some policy) (haccounting : context.accounting = some accounting)
    (h : evaluateFairness context = .ok decision) :
    AttributesBlocking policy decision ↔ ObligationBinds context policy accounting := by
  obtain ⟨policy', accounting', tree, eligible, whole, numbered, planned, states, hs, hd, hcorrect,
    hconcluded⟩ := evaluateFairness_run h
  obtain rfl : policy = policy' := Option.some.inj (hpolicy.symm.trans hd.policy_eq)
  obtain rfl : accounting = accounting' :=
    Option.some.inj (haccounting.symm.trans hd.accounting_eq)
  have hc : Corrected policy whole (!eligible.isOk)
      (askingPlans context.request accounting eligible numbered) planned.plans
      planned.correction := correctPlans_corrected hcorrect
  obtain ⟨hwithheld, hflag, hblamed⟩ := correctPlans_blocked (askingPlans_unblocked hs) hcorrect
  obtain ⟨bps, hbps, hbudget⟩ := hc.budget
  rw [budgetBps_eq_ok hs.whole_word hbps] at hbudget
  -- the four quantities of the comparison, from the inputs
  have hsupply : planned.correction.reduciblePoolUnits = ∑ i, supplyAt context policy
      (authorityPlans context.request accounting eligible) planned.distribution.effective i := by
    rw [hc.pool]
    exact Finset.sum_congr rfl fun i _ => (hc.reducible i).symm.trans (reducible_eq hs hc i)
  have hdemand : planned.correction.demandUnits = ∑ i, demandAt context policy accounting
      (authorityPlans context.request accounting eligible) planned.distribution.effective i := by
    rw [hc.demandTotal]
    exact Finset.sum_congr rfl fun i _ => (hc.demand i).symm.trans (demand_eq hs hc i)
  have hheld : ∑ i, (askingPlans context.request accounting eligible numbered i).withheld =
      ∑ i, withheldAt context policy (authorityPlans context.request accounting eligible)
        planned.distribution.effective i :=
    Finset.sum_congr rfl fun i _ => withheld_eq hs hc i
  rw [← hc.pool, ← hc.demandTotal] at hbudget
  rw [hheld] at hwithheld hflag
  have hblames : (∃ state ∈ decision.subjects, state.outcome = .blockedByStrongerObligation) →
      planned.correction.protectedObligationBlocked = true := by
    rintro ⟨state, hstate, houtcome⟩
    obtain ⟨i, rfl⟩ := hd.mem_iff.mp hstate
    exact hblamed i ((hconcluded.proposed i).outcome.symm.trans houtcome)
  have hbinds : ObligationBinds context policy accounting ↔
      (planned.correction.withheldUnits = 0 ∨ planned.correction.demandUnits ≤
          min planned.correction.reduciblePoolUnits (policyBound policy whole) ∨
        planned.correction.reduciblePoolUnits < policyBound policy whole) := by
    constructor
    · rintro ⟨covered, split, hinputs, hcondition⟩
      obtain ⟨rfl, rfl⟩ := hs.inputs.unique hinputs
      rwa [hwithheld, hdemand, hsupply, observedTotal_eq_ok hs.whole_eq]
    · intro hcondition
      rw [hwithheld, hdemand, hsupply, observedTotal_eq_ok hs.whole_eq] at hcondition
      exact ⟨_, _, hs.inputs, hcondition⟩
  rw [hbinds, AttributesBlocking, hd.correction, hs.total_served hd]
  rw [← hwithheld] at hflag
  constructor
  · rintro ⟨-, hreleased⟩
    by_contra hnot
    rw [not_or, not_or] at hnot
    have hraised := hreleased (hflag.mpr ⟨by omega, by omega⟩)
    omega
  · intro hcondition
    refine ⟨hblames, fun hraised => ?_⟩
    obtain ⟨hpos, hlt⟩ := hflag.mp hraised
    omega

/-- The two-subject policy with floors that exceed what is served: the second subject is
guaranteed twelve units, the first one eight, which are protected.  The given total may be
moved. -/
def shelteredPolicy (maxCorrectionUnits : UInt64) : FairnessPolicy :=
  { correctablePolicy with
    maxCorrectionUnits := maxCorrectionUnits
    subjects :=
      [{ id := ⟨1⟩, generation := ⟨1⟩, group := ⟨1⟩, guaranteeFloor := 8, obligationRank := 1,
         protectedObligation := true, maxReduceUnits := 100, maxAugmentUnits := 100 },
        { id := ⟨2⟩, generation := ⟨1⟩, group := ⟨1⟩, guaranteeFloor := 12, obligationRank := 2,
          maxReduceUnits := 100, maxAugmentUnits := 100 }] }

/-- The protected subject was served ten of fourteen units. -/
def shelteredContext (maxCorrectionUnits : UInt64) : EvaluationContext :=
  { correctableContext with policy := some (shelteredPolicy maxCorrectionUnits) }

theorem attributesBlocking_iff_sheltered : ∃ decision,
    evaluateFairness (shelteredContext 100) = .ok decision ∧
      decision.correction.protectedObligationBlocked = true ∧
      (AttributesBlocking (shelteredPolicy 100) decision ↔
        ObligationBinds (shelteredContext 100) (shelteredPolicy 100) {}) := by
  have hrun : (evaluateFairness (shelteredContext 100)).toOption.any
      (fun decision => decision.correction.protectedObligationBlocked) = true := by
    decide +kernel
  obtain ⟨decision, hdecision, hblocked⟩ := exists_ok_of_any hrun
  exact ⟨decision, hdecision, hblocked, attributesBlocking_iff rfl rfl hdecision⟩

/-- One unit may be moved in all; the obligation withholds another one and is named as what
blocks. -/
theorem not_attributesBlocking :
    validatePolicy (shelteredPolicy 1) = .ok () ∧
    (∀ evidence ∈ (shelteredContext 1).evidence, validateEvidence evidence = .ok ()) ∧
    ∃ decision, evaluateFairness (shelteredContext 1) = .ok decision ∧
      ¬ AttributesBlocking (shelteredPolicy 1) decision := by
  refine ⟨by decide +kernel, ?_, ?_⟩
  · intro evidence hmem
    obtain rfl := Option.some.inj hmem
    decide +kernel
  · have hrun : (evaluateFairness (shelteredContext 1)).toOption.any
        (fun decision => ¬ AttributesBlocking (shelteredPolicy 1) decision) = true := by
      decide +kernel
    obtain ⟨decision, hdecision, hnot⟩ := exists_ok_of_any hrun
    exact ⟨decision, hdecision, of_decide_eq_true hnot⟩

end FairnessGovernor
