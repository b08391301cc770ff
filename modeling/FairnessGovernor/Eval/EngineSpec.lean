/-
# What an evaluation returns

`evaluateFairness_stages` takes a successful evaluation apart once and for all: the decision's
records are made of plans, and every plan is the plan of the numbers stage with its streaks
settled.  What is said about the records is then a fact about `Numbered`.
-/
import FairnessGovernor.Eval.CorrectionSpec
import FairnessGovernor.Eval.Conservation

namespace FairnessGovernor

open Apportion

variable {policy : FairnessPolicy} {accounting : FairnessAccounting}

/-! ## The numbers stage -/

/-- What the numbers stage writes for a subject with authority. -/
structure Numbered (accounting : FairnessAccounting) (distribution : Distribution policy)
    (i : SubjectIndex policy) (p q : SubjectPlan) : Prop where
  hasAuthority : q.hasAuthority = true
  served : q.served = p.served
  entitlement : q.entitlement = distribution.effective.subject i
  baseEntitlement : q.baseEntitlement = distribution.base.subject i
  thisWindowDeficit : q.thisWindowDeficit = q.entitlement - q.served
  surplus : q.surplus = q.served - q.entitlement
  effectiveDeficit : q.effectiveDeficit = q.thisWindowDeficit +
    (accounting.find (subjectAt policy i).id).elim 0
      fun e => min e.cumulativeDeficit.toNat policy.maxCarryUnits.toNat
  carry : applyWindowCarry ((accounting.find (subjectAt policy i).id).getD {})
    ((q.entitlement : ℤ) - q.served) policy.maxCarryUnits.toNat = some q.carry
  unservedStreak : q.unservedStreak = if q.served = 0 then
    bumpStreak ((accounting.find (subjectAt policy i).id).elim 0 (·.unservedStreak)) else 0
  belowFloorStreak : q.belowFloorStreak =
    if (subjectAt policy i).guaranteeFloor > 0 ∧
      q.served < (subjectAt policy i).guaranteeFloor.toNat then
      bumpStreak ((accounting.find (subjectAt policy i).id).elim 0 (·.belowFloorStreak)) else 0
  demand : q.demand = p.demand
  reducible : q.reducible = p.reducible
  withheld : q.withheld = p.withheld
  augment : q.augment = p.augment

/-- A difference guarded by its comparison is the truncated difference. -/
lemma guarded_sub (a b : ℕ) : (if a < b then b - a else 0) = b - a := by
  split_ifs <;> omega

section Numbers

variable {distribution : Distribution policy} {i : SubjectIndex policy} {p q : SubjectPlan}

lemma numberPlan_eq_ok (h : numberPlan accounting distribution i p = .ok q) :
    (p.hasAuthority = false ∧ q = p) ∨
      (p.hasAuthority = true ∧ Numbered accounting distribution i p q) := by
  unfold numberPlan at h
  by_cases hauth : p.hasAuthority = true
  · refine .inr ⟨hauth, ?_⟩
    rw [if_neg (not_not.mpr hauth)] at h
    obtain ⟨effective, heff, h⟩ := bind_eq_ok.mp h
    obtain ⟨deviation, -, h⟩ := bind_eq_ok.mp h
    obtain ⟨net, hnet, h⟩ := bind_eq_ok.mp h
    obtain ⟨carry, hcarry, h⟩ := bind_eq_ok.mp h
    obtain rfl := Except.ok.inj h
    obtain ⟨-, rfl⟩ := checkedAdd_eq_some.mp (orFail_eq_ok.mp heff)
    obtain ⟨-, -, rfl⟩ := signedDiff_eq_ok.mp hnet
    exact ⟨hauth, rfl, rfl, rfl, guarded_sub _ _, guarded_sub _ _, rfl, orFail_eq_ok.mp hcarry,
      rfl, rfl, rfl, rfl, rfl, rfl⟩
  · left
    rw [if_pos hauth] at h
    exact ⟨by simpa using hauth, (Except.ok.inj h).symm⟩

/-- Only the numbers of a plan are written. -/
lemma numberPlan_writes (h : numberPlan accounting distribution i p = .ok q) :
    ∃ entitlement base binding groupEntitlement surplus effective deficit deviation unserved
      belowFloor carry, q = { p with
        entitlement := entitlement
        baseEntitlement := base
        floorBinding := binding
        groupEntitlement := groupEntitlement
        surplus := surplus
        effectiveDeficit := effective
        thisWindowDeficit := deficit
        deviation := deviation
        unservedStreak := unserved
        belowFloorStreak := belowFloor
        carry := carry } := by
  unfold numberPlan at h
  by_cases hauth : ¬ p.hasAuthority
  · rw [if_pos hauth] at h
    rw [← Except.ok.inj h]
    exact ⟨p.entitlement, p.baseEntitlement, p.floorBinding, p.groupEntitlement, p.surplus,
      p.effectiveDeficit, p.thisWindowDeficit, p.deviation, p.unservedStreak, p.belowFloorStreak,
      p.carry, rfl⟩
  · rw [if_neg hauth] at h
    obtain ⟨_, -, h⟩ := bind_eq_ok.mp h
    obtain ⟨_, -, h⟩ := bind_eq_ok.mp h
    obtain ⟨_, -, h⟩ := bind_eq_ok.mp h
    obtain ⟨_, -, h⟩ := bind_eq_ok.mp h
    exact ⟨_, _, _, _, _, _, _, _, _, _, _, (Except.ok.inj h).symm⟩

/-- The numbers of a subject with authority fit the signed word. -/
lemma numberPlan_range (h : numberPlan accounting distribution i p = .ok q)
    (hauth : q.hasAuthority = true) : q.entitlement ≤ kInt64Max ∧ q.served ≤ kInt64Max := by
  unfold numberPlan at h
  by_cases hp : ¬ p.hasAuthority
  · rw [if_pos hp] at h
    obtain rfl := Except.ok.inj h
    exact absurd hauth hp
  · rw [if_neg hp] at h
    obtain ⟨_, -, h⟩ := bind_eq_ok.mp h
    obtain ⟨_, -, h⟩ := bind_eq_ok.mp h
    obtain ⟨net, hnet, h⟩ := bind_eq_ok.mp h
    obtain ⟨_, -, h⟩ := bind_eq_ok.mp h
    obtain rfl := Except.ok.inj h
    obtain ⟨hentitlement, hserved, -⟩ := signedDiff_eq_ok.mp hnet
    exact ⟨hentitlement, hserved⟩

/-- Within the bounded domain the numbers stage fails only on a discarded counter. -/
lemma numberPlan_total (hcarry : BoundedCarry accounting.subjects)
    (hserved : p.served ≤ kMaxServiceUnits)
    (hentitlement : distribution.effective.subject i ≤ kMaxSubjects * kMaxServiceUnits) :
    (∃ q, numberPlan accounting distribution i p = .ok q) ∨
      numberPlan accounting distribution i p =
        fail .arithmeticOverflow "carry application overflows" ∧ p.hasAuthority = true ∧
      DiscardOverflows ((accounting.find (subjectAt policy i).id).getD {})
        ((distribution.effective.subject i : ℤ) - p.served) policy.maxCarryUnits.toNat := by
  unfold numberPlan
  by_cases hauth : p.hasAuthority = true
  · obtain ⟨hdeficit_le, hsurplus_le⟩ := hcarry.find (subjectAt policy i).id
    unfold kMaxServiceUnits kMaxSubjects at *
    -- the carried deficit and this window's deficit fit the word together
    have hcarried : (accounting.find (subjectAt policy i).id).elim 0
        (fun e => min e.cumulativeDeficit.toNat policy.maxCarryUnits.toNat) ≤ 2 ^ 48 := by
      cases hfind : accounting.find (subjectAt policy i).id with
      | none => simp
      | some entry =>
        rw [hfind] at hdeficit_le
        exact le_trans (Nat.min_le_left _ _) hdeficit_le
    have hdeficit : (if p.served < distribution.effective.subject i then
        distribution.effective.subject i - p.served else 0) ≤ 2 ^ 52 := by
      rw [guarded_sub]
      omega
    have hfit : ∀ a b, a ≤ 2 ^ 52 → b ≤ 2 ^ 48 → a + b ≤ kUInt64Max := by
      intro a b ha hb
      unfold kUInt64Max
      omega
    have hdiff : ∀ a b : ℕ, a ≤ 2 ^ 52 → b ≤ 2 ^ 52 → signedDiff a b = .ok ((a : ℤ) - b) :=
      fun a b ha hb => signedDiff_eq_ok.mpr
        ⟨by unfold kInt64Max; omega, by unfold kInt64Max; omega, rfl⟩
    rw [if_neg (not_not.mpr hauth)]
    dsimp only
    rw [checkedAdd_of_le (hfit _ _ hdeficit hcarried), hdiff _ _ (by omega) (by omega),
      hdiff _ _ (by omega) (by omega)]
    simp only [orFail, ok_bind]
    cases hcarry : applyWindowCarry ((accounting.find (subjectAt policy i).id).getD {})
        ((distribution.effective.subject i : ℤ) - p.served) policy.maxCarryUnits.toNat with
    | some carry => exact .inl ⟨_, rfl⟩
    | none =>
      exact .inr ⟨rfl, hauth, applyWindowCarry_eq_none hdeficit_le hsurplus_le
        (by omega) hcarry⟩
  · rw [if_pos hauth]
    exact .inl ⟨_, rfl⟩

end Numbers

lemma numberPlans_eq_ok {distribution : Distribution policy} {plans numbered : Plans policy}
    (h : numberPlans accounting distribution plans = .ok numbered) (i : SubjectIndex policy) :
    numberPlan accounting distribution i (plans i) = .ok (numbered i) := by
  unfold numberPlans at h
  exact collect_eq_ok.mp h i

/-! ## The stages in between -/

section Stages

variable {plans : Plans policy} {request : EvaluationRequest}
  {eligible : Except EvidenceFailure EvidenceSnapshot}

lemma authorityPlans_blank (i : SubjectIndex policy) :
    (authorityPlans request accounting eligible i).Blank := by
  cases eligible with
  | error failure => exact failedPlan_blank request failure
  | ok evidence => exact authorityPlan_blank

lemma authorityPlans_served_le (h : ∀ evidence, eligible = .ok evidence → ValidEvidence evidence)
    (i : SubjectIndex policy) :
    (authorityPlans request accounting eligible i).served ≤ kMaxServiceUnits := by
  cases eligible with
  | error failure => exact Nat.zero_le _
  | ok evidence => exact authorityPlan_served_le (h evidence rfl)

/-- Without authority nothing is recorded as served. -/
lemma authorityPlans_served_eq_zero {i : SubjectIndex policy}
    (h : ¬ (authorityPlans request accounting eligible i).hasAuthority) :
    (authorityPlans request accounting eligible i).served = 0 := by
  cases eligible with
  | error failure => rfl
  | ok evidence => exact authorityPlan_served_eq_zero h

/-- What is redistributed is what was served. -/
lemma observedTotal_eq_ok {whole : ℕ}
    (h : observedTotal (authorityPlans request accounting eligible : Plans policy) =
      .ok whole) :
    whole = ∑ i : SubjectIndex policy, (authorityPlans request accounting eligible i).served := by
  obtain ⟨-, hsum⟩ := checkedTotal_eq_some (orFail_eq_ok.mp h) (Nat.zero_le _)
  rw [hsum, Nat.zero_add, List.sum_ofFn]
  refine Finset.sum_congr rfl fun i _ => ?_
  split_ifs with hauth
  · rfl
  · exact (authorityPlans_served_eq_zero hauth).symm

lemma starvationPlans_sameNumbers (i : SubjectIndex policy) :
    (plans i).SameNumbers (starvationPlans eligible plans i) := by
  cases eligible with
  | error failure => exact .rfl'
  | ok evidence => exact starvationPlan_sameNumbers _ _

/-- Moving units leaves the numbers and the streaks alone. -/
lemma correctPlans_eq_ok {whole : ℕ} {authorityMissing : Bool}
    {result : Plans policy × CorrectionSummary}
    (h : correctPlans whole authorityMissing plans = .ok result) :
    (∀ i, (plans i).Settled (result.1 i)) ∧ result.2.authorityMissing = authorityMissing := by
  have hcorrected := correctPlans_corrected h
  exact ⟨hcorrected.settled, hcorrected.missing⟩

end Stages

/-! ## A whole evaluation -/

/-- What the evidence of an evaluation covers: the plans before their numbers. -/
def coverage (context : EvaluationContext) (policy : FairnessPolicy)
    (accounting : FairnessAccounting) : Eval (Plans policy) := do
  let eligible ← eligibility context policy
  return authorityPlans context.request accounting eligible

/-- The stages of an evaluation up to the final plans. -/
structure EvaluationStages (context : EvaluationContext) (policy : FairnessPolicy)
    (accounting : FairnessAccounting) (tree : GroupTree policy)
    (eligible : Except EvidenceFailure EvidenceSnapshot) (whole : ℕ) (numbered : Plans policy)
    (planned : Planned policy) : Prop where
  tree_eq : build policy = .ok tree
  eligible_eq : eligibility context policy = .ok eligible
  whole_eq : observedTotal (authorityPlans context.request accounting eligible : Plans policy) =
    .ok whole
  distribution_eq : distribute tree whole = .ok planned.distribution
  numbered_eq : ∀ i, numberPlan accounting planned.distribution i
    (authorityPlans context.request accounting eligible i) = .ok (numbered i)
  settled : ∀ i, (starvationPlans eligible numbered i).Settled (planned.plans i)
  missing : planned.correction.authorityMissing = !eligible.isOk

/-- The plans that ask, before any unit is moved. -/
def askingPlans {policy : FairnessPolicy} (request : EvaluationRequest)
    (accounting : FairnessAccounting) (eligible : Except EvidenceFailure EvidenceSnapshot)
    (numbered : Plans policy) : Plans policy := fun i =>
  demandSupplyPlan policy accounting request.window (subjectAt policy i)
    (starvationPlans eligible numbered i)

lemma plan_eq_ok {context : EvaluationContext} {tree : GroupTree policy}
    {eligible : Except EvidenceFailure EvidenceSnapshot} {planned : Planned policy}
    (htree : build policy = .ok tree) (heligible : eligibility context policy = .ok eligible)
    (h : plan context.request accounting tree eligible = .ok planned) :
    ∃ whole numbered,
      EvaluationStages context policy accounting tree eligible whole numbered planned ∧
      correctPlans whole (!eligible.isOk)
        (askingPlans context.request accounting eligible numbered) =
          .ok (planned.plans, planned.correction) := by
  obtain ⟨whole, hwhole, h⟩ := bind_eq_ok.mp h
  obtain ⟨distribution, hdistribution, h⟩ := bind_eq_ok.mp h
  obtain ⟨numbered, hnumbered, h⟩ := bind_eq_ok.mp h
  obtain ⟨corrected, hcorrected, h⟩ := bind_eq_ok.mp h
  obtain rfl := Except.ok.inj h
  have hc := correctPlans_corrected hcorrected
  exact ⟨whole, numbered, ⟨htree, heligible, hwhole, hdistribution, numberPlans_eq_ok hnumbered,
    fun i => (demandSupplyPlan_settled _ _ _ _).trans (hc.settled i), hc.missing⟩, hcorrected⟩

/-- What a subject is reported with. -/
structure Reported (subject : Subject) (plan : SubjectPlan) (state : SubjectFairnessState) :
    Prop where
  id : state.id = subject.id
  generation : state.generation = subject.generation
  group : state.group = subject.group
  hasAuthority : state.hasAuthority = plan.hasAuthority
  served : state.servedUnits = plan.served
  entitlement : state.entitlementUnits = plan.entitlement
  deficit : state.deficitUnits = plan.thisWindowDeficit
  surplus : state.surplusUnits = plan.surplus
  deficitAfter : state.cumulativeDeficitAfter = plan.carry.cumulativeDeficit
  surplusAfter : state.cumulativeSurplusAfter = plan.carry.cumulativeSurplus
  unservedStreak : state.unservedStreak = plan.unservedStreak
  belowFloorStreak : state.belowFloorStreak = plan.belowFloorStreak

lemma subjectState_eq_ok {subject : Subject} {plan : SubjectPlan} {state : SubjectFairnessState}
    (h : subjectState policy subject plan = .ok state) : Reported subject plan state := by
  obtain ⟨unsatisfied, -, h⟩ := bind_eq_ok.mp h
  obtain ⟨delta, -, h⟩ := bind_eq_ok.mp h
  obtain ⟨modifier, -, h⟩ := bind_eq_ok.mp h
  obtain rfl := Except.ok.inj h
  constructor <;> rfl

/-- What a subject is reported to be due, and what is proposed for it. -/
structure Proposed (plan : SubjectPlan) (state : SubjectFairnessState) : Prop where
  outcome : state.outcome = plan.outcome
  reason : state.reason = plan.reason
  baseEntitlement : state.baseEntitlementUnits = plan.baseEntitlement
  augment : state.proposedAugmentUnits = plan.augment
  reduce : state.proposedReduceUnits = plan.reduce

lemma subjectState_proposed {subject : Subject} {plan : SubjectPlan}
    {state : SubjectFairnessState} (h : subjectState policy subject plan = .ok state) :
    Proposed plan state := by
  obtain ⟨unsatisfied, -, h⟩ := bind_eq_ok.mp h
  obtain ⟨delta, -, h⟩ := bind_eq_ok.mp h
  obtain ⟨modifier, -, h⟩ := bind_eq_ok.mp h
  obtain rfl := Except.ok.inj h
  constructor <;> rfl

/-- What a group is reported to be due. -/
structure ReportedGroup (pass : PassState policy) (g : GroupIndex policy)
    (state : GroupFairnessState) : Prop where
  id : state.id = (groupAt policy g).id
  entitlement : state.entitlementUnits = pass.allocation g

lemma groupState_eq_ok {tree : GroupTree policy} {pass : PassState policy}
    {rollup : Rollup policy} {g : GroupIndex policy} {state : GroupFairnessState}
    (h : groupState tree pass rollup g = .ok state) : ReportedGroup pass g state := by
  obtain ⟨deviation, -, h⟩ := bind_eq_ok.mp h
  obtain rfl := Except.ok.inj h
  constructor <;> rfl

/-- What an evaluation returns: the records made of the final plans. -/
structure Evaluated (context : EvaluationContext) (policy : FairnessPolicy)
    (accounting : FairnessAccounting) (planned : Planned policy)
    (states : SubjectIndex policy → SubjectFairnessState) (decision : FairnessDecision) : Prop where
  policy_eq : context.policy = some policy
  accounting_eq : context.accounting = some accounting
  authority : decision.authority = decisionAuthority context policy accounting
  subjects : decision.subjects = List.ofFn states
  reported : ∀ i, Reported (subjectAt policy i) (planned.plans i) (states i)
  intents : ∃ last, correctiveIntents context.request accounting.interventionGeneration
    planned.plans = .ok ⟨last, decision.intents⟩
  correction : decision.correction = planned.correction
  digest : decision.contentDigest = decisionDigest decision

lemma Evaluated.mem_iff {context : EvaluationContext} {planned : Planned policy}
    {states : SubjectIndex policy → SubjectFairnessState} {decision : FairnessDecision}
    (hd : Evaluated context policy accounting planned states decision)
    {state : SubjectFairnessState} : state ∈ decision.subjects ↔ ∃ i, states i = state := by
  rw [hd.subjects, List.mem_ofFn]

/-- What else an evaluation returns: its outcomes, and what it proposes. -/
structure Concluded (planned : Planned policy)
    (states : SubjectIndex policy → SubjectFairnessState) (decision : FairnessDecision) :
    Prop where
  proposed : ∀ i, Proposed (planned.plans i) (states i)
  outcome : decision.outcome = aggregateOutcome (List.ofFn fun i => (planned.plans i).outcome)
  counts : decision.counts = outcomeCounts (List.ofFn fun i => (planned.plans i).outcome)
  groups : ∃ groups, decision.groups = List.ofFn groups ∧
    ∀ g, ReportedGroup planned.distribution.effective g (groups g)

/-- A successful evaluation, stage by stage. -/
theorem evaluateFairness_run {context : EvaluationContext} {decision : FairnessDecision}
    (h : evaluateFairness context = .ok decision) :
    ∃ policy accounting tree eligible whole, ∃ (numbered : Plans policy) (planned : Planned policy)
      (states : SubjectIndex policy → SubjectFairnessState),
      EvaluationStages context policy accounting tree eligible whole numbered planned ∧
      Evaluated context policy accounting planned states decision ∧
      correctPlans whole (!eligible.isOk)
        (askingPlans context.request accounting eligible numbered) =
          .ok (planned.plans, planned.correction) ∧
      Concluded planned states decision := by
  unfold evaluateFairness at h
  -- without a policy and accounting the evaluation fails at once
  cases hpolicy : context.policy with
  | none => simp [hpolicy] at h
  | some policy =>
    cases haccounting : context.accounting with
    | none => simp [hpolicy, haccounting] at h
    | some accounting =>
      rw [hpolicy, haccounting] at h
      obtain ⟨tree, htree, h⟩ := bind_eq_ok.mp h
      obtain ⟨eligible, heligible, h⟩ := bind_eq_ok.mp h
      obtain ⟨planned, hplanned, h⟩ := bind_eq_ok.mp h
      obtain ⟨states, hstates, h⟩ := bind_eq_ok.mp h
      obtain ⟨rollup, -, h⟩ := bind_eq_ok.mp h
      obtain ⟨groups, hgroups, h⟩ := bind_eq_ok.mp h
      obtain ⟨intents, hintents, h⟩ := bind_eq_ok.mp h
      obtain ⟨whole, numbered, hstages, hcorrected⟩ :=
        plan_eq_ok (ofStatus_eq_ok.mp htree) heligible hplanned
      refine ⟨policy, accounting, tree, eligible, whole, numbered, planned, states, hstages, ?_,
        hcorrected, ?_⟩
      · have hdecision := Except.ok.inj h
        exact {
          policy_eq := hpolicy
          accounting_eq := haccounting
          authority := by rw [← hdecision]
          subjects := by rw [← hdecision]
          reported := fun i => subjectState_eq_ok (collect_eq_ok.mp hstates i)
          intents := ⟨intents.generation, by rw [hintents, ← hdecision]⟩
          correction := by rw [← hdecision]
          digest := by rw [← hdecision, decisionDigest_withDigest] }
      · have hdecision := Except.ok.inj h
        exact {
          proposed := fun i => subjectState_proposed (collect_eq_ok.mp hstates i)
          outcome := by rw [← hdecision]
          counts := by rw [← hdecision]
          groups := ⟨groups, by rw [← hdecision],
            fun g => groupState_eq_ok (collect_eq_ok.mp hgroups g)⟩ }

theorem evaluateFairness_spec {context : EvaluationContext} {decision : FairnessDecision}
    (h : evaluateFairness context = .ok decision) :
    ∃ policy accounting tree eligible whole, ∃ (numbered : Plans policy) (planned : Planned policy)
      (states : SubjectIndex policy → SubjectFairnessState),
      EvaluationStages context policy accounting tree eligible whole numbered planned ∧
      Evaluated context policy accounting planned states decision ∧
      Corrected policy whole (!eligible.isOk)
        (askingPlans context.request accounting eligible numbered) planned.plans
        planned.correction ∧
      Concluded planned states decision := by
  obtain ⟨policy, accounting, tree, eligible, whole, numbered, planned, states, hs, hd, hcorrect,
    hconcluded⟩ := evaluateFairness_run h
  exact ⟨policy, accounting, tree, eligible, whole, numbered, planned, states, hs, hd,
    correctPlans_corrected hcorrect, hconcluded⟩

/-- The stages of an evaluation whose policy and accounting are known. -/
theorem evaluateFairness_stages {context : EvaluationContext} {decision : FairnessDecision}
    (hpolicy : context.policy = some policy) (haccounting : context.accounting = some accounting)
    (h : evaluateFairness context = .ok decision) :
    ∃ tree eligible whole, ∃ (numbered : Plans policy) (planned : Planned policy)
      (states : SubjectIndex policy → SubjectFairnessState),
      EvaluationStages context policy accounting tree eligible whole numbered planned ∧
      Evaluated context policy accounting planned states decision ∧
      Corrected policy whole (!eligible.isOk)
        (askingPlans context.request accounting eligible numbered) planned.plans
        planned.correction ∧
      Concluded planned states decision := by
  obtain ⟨policy', accounting', tree, eligible, whole, numbered, planned, states, hs, hd, hrest⟩ :=
    evaluateFairness_spec h
  obtain rfl : policy = policy' := Option.some.inj (hpolicy.symm.trans hd.policy_eq)
  obtain rfl : accounting = accounting' :=
    Option.some.inj (haccounting.symm.trans hd.accounting_eq)
  exact ⟨tree, eligible, whole, numbered, planned, states, hs, hd, hrest⟩

/-! ## The orders of the correction -/

section Orders

variable {plans : Plans policy}

/-- On a validated policy the identities settle every tie between demands. -/
lemma demandKey_injective (hp : ValidPolicy policy) : Function.Injective (demandKey plans) := by
  intro i j h
  refine hp.subjectAt_injective (Id.ext (UInt64.toNat_inj.mp ?_))
  exact congrArg (fun key => (ofLex (ofLex (ofLex key).2).2).2) h

/-- And between supplies. -/
lemma supplyKey_injective (hp : ValidPolicy policy) : Function.Injective (supplyKey plans) := by
  intro i j h
  refine hp.subjectAt_injective (Id.ext (UInt64.toNat_inj.mp ?_))
  exact congrArg (fun key => (ofLex (ofLex key).2).2) h

end Orders

/-! ## The final plans -/

section Final

variable {context : EvaluationContext} {tree : GroupTree policy}
  {eligible : Except EvidenceFailure EvidenceSnapshot} {whole : ℕ} {numbered : Plans policy}
  {planned : Planned policy}

namespace EvaluationStages

variable (h : EvaluationStages context policy accounting tree eligible whole numbered planned)

include h

/-- The final plan carries the numbers of the numbers stage. -/
lemma sameNumbers (i : SubjectIndex policy) : (numbered i).SameNumbers (planned.plans i) :=
  (starvationPlans_sameNumbers i).trans (h.settled i).toSameNumbers

lemma hasAuthority (i : SubjectIndex policy) : (planned.plans i).hasAuthority =
    (authorityPlans context.request accounting eligible i).hasAuthority := by
  rw [(h.sameNumbers i).hasAuthority]
  rcases numberPlan_eq_ok (h.numbered_eq i) with ⟨-, hq⟩ | ⟨hauth, hn⟩
  · rw [hq]
  · rw [hn.hasAuthority, hauth]

lemma numbered_of_authority {i : SubjectIndex policy} (hi : (planned.plans i).hasAuthority = true) :
    Numbered accounting planned.distribution i
      (authorityPlans context.request accounting eligible i) (numbered i) := by
  rw [h.hasAuthority] at hi
  rcases numberPlan_eq_ok (h.numbered_eq i) with ⟨hauth, -⟩ | ⟨-, hn⟩
  · rw [hauth] at hi
    cases hi
  · exact hn

/-- With authority, the entitlement is the subject's part of the effective distribution. -/
lemma entitlement {i : SubjectIndex policy} (hi : (planned.plans i).hasAuthority = true) :
    (planned.plans i).entitlement = planned.distribution.effective.subject i := by
  rw [(h.sameNumbers i).entitlement, (h.numbered_of_authority hi).entitlement]

lemma served {i : SubjectIndex policy} (hi : (planned.plans i).hasAuthority = true) :
    (planned.plans i).served = (authorityPlans context.request accounting eligible i).served := by
  rw [(h.sameNumbers i).served, (h.numbered_of_authority hi).served]

lemma deficit {i : SubjectIndex policy} (hi : (planned.plans i).hasAuthority = true) :
    (planned.plans i).thisWindowDeficit =
      (planned.plans i).entitlement - (planned.plans i).served := by
  have hs := h.sameNumbers i
  rw [hs.thisWindowDeficit, (h.numbered_of_authority hi).thisWindowDeficit, hs.entitlement,
    hs.served]

lemma surplus {i : SubjectIndex policy} (hi : (planned.plans i).hasAuthority = true) :
    (planned.plans i).surplus = (planned.plans i).served - (planned.plans i).entitlement := by
  have hs := h.sameNumbers i
  rw [hs.surplus, (h.numbered_of_authority hi).surplus, hs.entitlement, hs.served]

end EvaluationStages

/-! ## The plans that ask -/

section Asking

variable {request : EvaluationRequest}

/-- Nothing is written to the plan of a subject without authority before units are moved. -/
lemma askingPlans_without {distribution : Distribution policy} {i : SubjectIndex policy}
    (hnumbered : numberPlan accounting distribution i
      (authorityPlans request accounting eligible i) = .ok (numbered i))
    (hauth : (authorityPlans request accounting eligible i).hasAuthority = false) :
    askingPlans request accounting eligible numbered i =
      authorityPlans request accounting eligible i := by
  have hsame : numbered i = authorityPlans request accounting eligible i := by
    rcases numberPlan_eq_ok hnumbered with ⟨-, hq⟩ | ⟨htrue, -⟩
    · exact hq
    · rw [hauth] at htrue
      cases htrue
  have hnot : ¬ (numbered i).hasAuthority = true := by rw [hsame, hauth]; exact Bool.false_ne_true
  have hstarved : starvationPlans eligible numbered i = numbered i := by
    cases eligible with
    | error failure => rfl
    | ok evidence =>
      show starvationPlan evidence (subjectAt policy i) (numbered i) = _
      rw [starvationPlan, if_pos hnot]
  rw [askingPlans, hstarved, demandSupplyPlan, if_pos hnot, hsame]

/-- What a subject with authority asks for and can give, from its numbers. -/
structure Asks (policy : FairnessPolicy) (accounting : FairnessAccounting)
    (window : ServiceWindowId) (subject : Subject) (plan : SubjectPlan) : Prop where
  demand : plan.demand =
    if policy.fairBandUnits.toNat < plan.effectiveDeficit ∧
        isCooling policy (accounting.find subject.id) window plan.starving = false then
      min plan.effectiveDeficit (min subject.maxAugmentUnits.toNat kMaxServiceUnits)
    else 0
  reducible : plan.reducible =
    if subject.protectedObligation then
      min (min plan.surplus subject.maxReduceUnits.toNat)
        (plan.served - subject.guaranteeFloor.toNat)
    else min plan.surplus subject.maxReduceUnits.toNat

lemma demandSupplyPlan_asks {window : ServiceWindowId} {subject : Subject} {plan : SubjectPlan}
    (hauth : plan.hasAuthority = true) (hcooling : plan.cooling = false)
    (hdemand : plan.demand = 0) (hreducible : plan.reducible = 0) :
    Asks policy accounting window subject
      (demandSupplyPlan policy accounting window subject plan) := by
  unfold demandSupplyPlan
  rw [if_neg (not_not.mpr hauth)]
  constructor
  · dsimp only
    rw [hcooling, hdemand, Bool.false_or]
    cases isCooling policy (accounting.find subject.id) window plan.starving <;> simp
  · dsimp only
    rw [hreducible]
    by_cases hsurplus : plan.surplus > 0
    · rw [if_pos hsurplus]
      split_ifs <;> omega
    · rw [if_neg hsurplus]
      split_ifs <;> omega

lemma numberPlan_cooling {distribution : Distribution policy} {i : SubjectIndex policy}
    {p q : SubjectPlan} (h : numberPlan accounting distribution i p = .ok q) :
    q.cooling = p.cooling := by
  obtain ⟨_, _, _, _, _, _, _, _, _, _, _, rfl⟩ := numberPlan_writes h
  rfl

/-- Taking in the streaks of an observation asks for nothing. -/
lemma starvationPlans_asks {plans : Plans policy} (i : SubjectIndex policy) :
    (plans i).SameAsks (starvationPlans eligible plans i) := by
  cases eligible with
  | error failure => exact .rfl'
  | ok evidence => exact starvationPlan_asks _ _

end Asking

section Moves

variable {missing : Bool}

/-- The final plan of a subject with authority asks within its numbers. -/
lemma EvaluationStages.asks
    (h : EvaluationStages context policy accounting tree eligible whole numbered planned)
    (hc : Corrected policy whole missing
      (askingPlans context.request accounting eligible numbered) planned.plans planned.correction)
    {i : SubjectIndex policy} (hi : (planned.plans i).hasAuthority = true) :
    Asks policy accounting context.request.window (subjectAt policy i) (planned.plans i) := by
  have hblank : (authorityPlans context.request accounting eligible i).Blank :=
    authorityPlans_blank i
  have hn := h.numbered_of_authority hi
  have hkeeps : (numbered i).SameAsks (starvationPlans eligible numbered i) :=
    starvationPlans_asks i
  have hsame : (numbered i).SameNumbers (starvationPlans eligible numbered i) :=
    starvationPlans_sameNumbers i
  have hsettled := hc.settled i
  have hasks : Asks policy accounting context.request.window (subjectAt policy i)
      (askingPlans context.request accounting eligible numbered i) :=
    demandSupplyPlan_asks (hsame.hasAuthority.trans hn.hasAuthority)
      (hkeeps.cooling.trans ((numberPlan_cooling (h.numbered_eq i)).trans hblank.cooling))
      (hkeeps.demand.trans (hn.demand.trans hblank.demand))
      (hkeeps.reducible.trans (hn.reducible.trans hblank.reducible))
  constructor
  · rw [hc.demand, hasks.demand, hsettled.effectiveDeficit, hsettled.starving]
  · rw [hc.reducible, hasks.reducible, hsettled.surplus, hsettled.served]

/-- The final plan of a subject without authority is the one it was given. -/
lemma EvaluationStages.without
    (h : EvaluationStages context policy accounting tree eligible whole numbered planned)
    {i : SubjectIndex policy} (hi : (planned.plans i).hasAuthority = false) :
    askingPlans context.request accounting eligible numbered i =
      authorityPlans context.request accounting eligible i :=
  askingPlans_without (h.numbered_eq i) ((h.hasAuthority i).symm.trans hi)

end Moves

end Final

/-! ## What an evaluation reads of the accounting -/

section Accounting

variable {accounting' : FairnessAccounting}

/-- The accountings agree on what an evaluation reads of them. -/
structure ReadsAlike (policy : FairnessPolicy) (accounting accounting' : FairnessAccounting) :
    Prop where
  generation : accounting'.generation = accounting.generation
  interventionGeneration :
    accounting'.interventionGeneration = accounting.interventionGeneration
  entries : ∀ i, accounting'.find (subjectAt policy i).id = accounting.find (subjectAt policy i).id

lemma plan_congr (h : ReadsAlike policy accounting accounting') (request : EvaluationRequest)
    (tree : GroupTree policy) (eligible : Except EvidenceFailure EvidenceSnapshot) :
    plan request accounting' tree eligible = plan request accounting tree eligible := by
  have hauthority : authorityPlans request accounting' eligible =
      (authorityPlans request accounting eligible : Plans policy) := by
    cases eligible with
    | error failure => rfl
    | ok evidence =>
      funext i
      simp only [authorityPlans, authorityPlan, h.entries i]
  have hnumber : ∀ distribution (plans : Plans policy),
      numberPlans accounting' distribution plans = numberPlans accounting distribution plans := by
    intro distribution plans
    simp only [numberPlans, numberPlan, h.entries]
  have hdemand : ∀ i plan, demandSupplyPlan policy accounting' request.window (subjectAt policy i) plan =
      demandSupplyPlan policy accounting request.window (subjectAt policy i) plan := by
    intro i plan
    simp only [demandSupplyPlan, h.entries i]
  simp only [plan, hauthority, hnumber, hdemand]

/-- An evaluation reads no more of the accounting. -/
lemma evaluateFairness_congr {context : EvaluationContext} (hpolicy : context.policy = some policy)
    (haccounting : context.accounting = some accounting)
    (h : ReadsAlike policy accounting accounting') :
    evaluateFairness { context with accounting := some accounting' } = evaluateFairness context := by
  have hauthority : decisionAuthority { context with accounting := some accounting' } policy
      accounting' = decisionAuthority context policy accounting := by
    unfold decisionAuthority
    rw [h.generation]
  have heligible : eligibility { context with accounting := some accounting' } policy =
      eligibility context policy := rfl
  have hevaluates : evaluateWith { context with accounting := some accounting' } policy accounting' =
      evaluateWith context policy accounting := by
    unfold evaluateWith
    simp only [hauthority, heligible, plan_congr h, h.interventionGeneration]
  unfold evaluateFairness
  simp only [hpolicy, haccounting]
  rw [← hpolicy]
  exact hevaluates

end Accounting

end FairnessGovernor
