/-
# The corrective plan of a decision

The plan conserves units: what the intents grant is what they take.  It keeps within every
bound: the policy's total and basis points, the reducible pool, the demand, each subject's caps
and numbers, and the guarantee floor of a protected subject.
-/
import FairnessGovernor.Eval.Bounds
import FairnessGovernor.Eval.Redistribution

namespace FairnessGovernor

open Apportion

/-! ## What the intents move -/

/-- The intents of one direction that name a subject. -/
def FairnessDecision.intentsFor (decision : FairnessDecision) (direction : CorrectionDirection)
    (id : SubjectId) : List CorrectiveIntent :=
  decision.intents.filter fun intent => intent.direction = direction ∧ intent.subject = id

/-- The units that the intents of one direction move for a subject. -/
def FairnessDecision.movedFor (decision : FairnessDecision) (direction : CorrectionDirection)
    (id : SubjectId) : ℕ :=
  ((decision.intentsFor direction id).map (·.units)).sum

/-- The units that the intents of one direction move. -/
def FairnessDecision.moved (decision : FairnessDecision) (direction : CorrectionDirection) : ℕ :=
  ((decision.intents.filter fun intent => intent.direction = direction).map (·.units)).sum

/-- The carried deficit of a subject that an evaluation recognizes. -/
def carriedFor (policy : FairnessPolicy) (accounting : FairnessAccounting) (id : SubjectId) : ℕ :=
  (accounting.find id).elim 0 fun e => min e.cumulativeDeficit.toNat policy.maxCarryUnits.toNat

/-- The bounds of what a plan moves for one subject. -/
structure BoundedFor (policy : FairnessPolicy) (accounting : FairnessAccounting)
    (decision : FairnessDecision) (subject : Subject) (state : SubjectFairnessState) : Prop where
  augment_once : (decision.intentsFor .augment subject.id).length ≤ 1
  reduce_once : (decision.intentsFor .reduce subject.id).length ≤ 1
  augment_le_cap : decision.movedFor .augment subject.id ≤ subject.maxAugmentUnits.toNat
  augment_le_deficit : decision.movedFor .augment subject.id ≤
    (state.entitlementUnits - state.servedUnits) + carriedFor policy accounting subject.id
  reduce_le_cap : decision.movedFor .reduce subject.id ≤ subject.maxReduceUnits.toNat
  reduce_le_surplus : decision.movedFor .reduce subject.id ≤
    state.servedUnits - state.entitlementUnits
  keeps_floor : subject.protectedObligation = true →
    subject.guaranteeFloor.toNat ≤ state.servedUnits →
    subject.guaranteeFloor.toNat ≤ state.servedUnits - decision.movedFor .reduce subject.id
  below_floor : subject.protectedObligation = true →
    state.servedUnits < subject.guaranteeFloor.toNat → decision.movedFor .reduce subject.id = 0

/-- The corrective plan conserves units and keeps within its bounds. -/
structure ConservingPlan (policy : FairnessPolicy) (accounting : FairnessAccounting)
    (decision : FairnessDecision) : Prop where
  augment_total : decision.moved .augment = decision.correction.augmentUnits
  reduce_total : decision.moved .reduce = decision.correction.reduceUnits
  balanced : decision.correction.augmentUnits = decision.correction.reduceUnits
  le_policy : decision.correction.augmentUnits ≤ policy.maxCorrectionUnits.toNat
  le_pool : decision.correction.augmentUnits ≤ decision.correction.reduciblePoolUnits
  le_demand : decision.correction.augmentUnits ≤ decision.correction.demandUnits
  le_bps : decision.correction.augmentUnits * kBasisPointScale ≤
    policy.maxCorrectionBps.toNat * decision.total (·.servedUnits)
  subjects : ∀ subject ∈ policy.subjects, ∃ state ∈ decision.subjects, state.id = subject.id ∧
    BoundedFor policy accounting decision subject state

/-! ## The intents of an evaluation -/

section Evaluation

variable {context : EvaluationContext} {policy : FairnessPolicy}
  {accounting : FairnessAccounting} {decision : FairnessDecision} {tree : GroupTree policy}
  {eligible : Except EvidenceFailure EvidenceSnapshot} {whole : ℕ} {numbered : Plans policy}
  {planned : Planned policy} {states : SubjectIndex policy → SubjectFairnessState}
  {missing : Bool} {asking : Plans policy}

lemma Evaluated.issued (hd : Evaluated context policy accounting planned states decision) :
    ∃ augments reduces, decision.intents = augments ++ reduces ∧
      Issued (fun i => augmentIntent context.request (subjectAt policy i) (planned.plans i))
        accounting.interventionGeneration
        ((demandOrder planned.plans).filter fun i => (planned.plans i).augment ≠ 0) augments ∧
      Issued (fun i => reduceIntent context.request (subjectAt policy i) (planned.plans i))
        accounting.interventionGeneration
        ((supplyOrder planned.plans).filter fun i => (planned.plans i).reduce ≠ 0) reduces := by
  obtain ⟨last, hintents⟩ := hd.intents
  exact correctiveIntents_eq_ok hintents

/-- The intents of one direction sum to the units the plans move in it. -/
lemma Evaluated.moved_eq (hd : Evaluated context policy accounting planned states decision)
    (hc : Corrected policy whole missing asking planned.plans planned.correction) :
    decision.moved .augment = planned.correction.authorizedBudgetUnits ∧
      decision.moved .reduce = planned.correction.authorizedBudgetUnits := by
  obtain ⟨augments, reduces, hintents, haugments, hreduces⟩ := hd.issued
  have hdirection : (∀ intent ∈ augments, intent.direction = .augment) ∧
      ∀ intent ∈ reduces, intent.direction = .reduce := by
    constructor
    · intro intent hintent
      obtain ⟨_, -, _, -, rfl⟩ := haugments.mem hintent
      rfl
    · intro intent hintent
      obtain ⟨_, -, _, -, rfl⟩ := hreduces.mem hintent
      rfl
  unfold FairnessDecision.moved
  rw [hintents]
  constructor
  · have hother : reduces.filter (fun intent => intent.direction = .augment) = [] :=
      List.filter_eq_nil_iff.mpr fun intent hintent => by simp [hdirection.2 intent hintent]
    rw [List.filter_append, hother, List.append_nil, List.filter_eq_self.mpr fun intent hintent =>
      by simp [hdirection.1 intent hintent], haugments.sum_units fun _ _ => rfl,
      sum_map_filter_ne_zero, hc.sum_demandOrder_augment, hc.sum_augment]
  · have hother : augments.filter (fun intent => intent.direction = .reduce) = [] :=
      List.filter_eq_nil_iff.mpr fun intent hintent => by simp [hdirection.1 intent hintent]
    rw [List.filter_append, hother, List.nil_append, List.filter_eq_self.mpr fun intent hintent =>
      by simp [hdirection.2 intent hintent], hreduces.sum_units fun _ _ => rfl,
      sum_map_filter_ne_zero, hc.sum_supplyOrder_reduce, hc.sum_reduce]

/-- A subject is named by at most one intent of each direction, with the units of its plan. -/
lemma Evaluated.movedFor_eq (hp : ValidPolicy policy)
    (hd : Evaluated context policy accounting planned states decision)
    (hc : Corrected policy whole missing asking planned.plans planned.correction)
    (j : SubjectIndex policy) :
    ((decision.intentsFor .augment (subjectAt policy j).id).length ≤ 1 ∧
      decision.movedFor .augment (subjectAt policy j).id = (planned.plans j).augment) ∧
    (decision.intentsFor .reduce (subjectAt policy j).id).length ≤ 1 ∧
      decision.movedFor .reduce (subjectAt policy j).id = (planned.plans j).reduce := by
  obtain ⟨augments, reduces, hintents, haugments, hreduces⟩ := hd.issued
  have hname : ∀ i, decide ((subjectAt policy i).id = (subjectAt policy j).id) = decide (i = j) :=
    fun i => decide_eq_decide.mpr ⟨hp.subjectAt_injective, fun h => by rw [h]⟩
  unfold FairnessDecision.movedFor FairnessDecision.intentsFor
  rw [hintents]
  constructor
  · -- the reductions have the other direction, and an order names a subject once
    have hother : reduces.filter (fun intent => intent.direction = .augment ∧
        intent.subject = (subjectAt policy j).id) = [] := by
      refine List.filter_eq_nil_iff.mpr fun intent hintent => ?_
      obtain ⟨_, -, _, -, rfl⟩ := hreduces.mem hintent
      simp [reduceIntent]
    rw [List.filter_append, hother, List.append_nil]
    refine (haugments.filter (Q := fun i => i = j) fun i generation => ?_).one
      (nodup_demandOrder _) (fun hnot => ?_) fun _ _ => rfl
    · rw [← hname i]
      simp [augmentIntent]
    · rw [hc.augment]
      exact takes_of_notMem (hc.demandOrder_eq ▸ hnot)
  · have hother : augments.filter (fun intent => intent.direction = .reduce ∧
        intent.subject = (subjectAt policy j).id) = [] := by
      refine List.filter_eq_nil_iff.mpr fun intent hintent => ?_
      obtain ⟨_, -, _, -, rfl⟩ := haugments.mem hintent
      simp [augmentIntent]
    rw [List.filter_append, hother, List.nil_append]
    refine (hreduces.filter (Q := fun i => i = j) fun i generation => ?_).one
      (nodup_supplyOrder _) (fun hnot => ?_) fun _ _ => rfl
    · rw [← hname i]
      simp [reduceIntent]
    · rw [hc.reduce]
      exact takes_of_notMem (hc.supplyOrder_eq ▸ hnot)

/-! ## The bounds -/

/-- The effective deficit of a final plan, from its numbers. -/
lemma EvaluationStages.effectiveDeficit
    (h : EvaluationStages context policy accounting tree eligible whole numbered planned)
    {i : SubjectIndex policy} (hi : (planned.plans i).hasAuthority = true) :
    (planned.plans i).effectiveDeficit =
      ((planned.plans i).entitlement - (planned.plans i).served) +
        carriedFor policy accounting (subjectAt policy i).id := by
  have hs := h.sameNumbers i
  have hn := h.numbered_of_authority hi
  rw [hs.effectiveDeficit, hn.effectiveDeficit, hn.thisWindowDeficit, hs.entitlement, hs.served]
  rfl

/-- What a plan moves for one subject is within the subject's bounds. -/
lemma boundedFor (hp : ValidPolicy policy)
    (hs : EvaluationStages context policy accounting tree eligible whole numbered planned)
    (hd : Evaluated context policy accounting planned states decision)
    (hc : Corrected policy whole missing (askingPlans context.request accounting eligible numbered)
      planned.plans planned.correction) (j : SubjectIndex policy) :
    BoundedFor policy accounting decision (subjectAt policy j) (states j) := by
  obtain ⟨⟨haug_once, haug⟩, hred_once, hred⟩ := hd.movedFor_eq hp hc j
  have hserved := (hd.reported j).served
  have hentitlement := (hd.reported j).entitlement
  -- without authority nothing is moved; with it the bounds are those of what was asked for
  by_cases hauth : (planned.plans j).hasAuthority = true
  · have hasks := hs.asks hc hauth
    have hdeficit := hs.effectiveDeficit hauth
    have hsurplus := hs.surplus hauth
    have haug_le := hc.augment_le j
    have hred_le := hc.reduce_le j
    have hdemand : (planned.plans j).demand ≤ (planned.plans j).effectiveDeficit ∧
        (planned.plans j).demand ≤ (subjectAt policy j).maxAugmentUnits.toNat := by
      rw [hasks.demand]
      split_ifs <;> omega
    have hreducible : (planned.plans j).reducible ≤ (planned.plans j).surplus ∧
        (planned.plans j).reducible ≤ (subjectAt policy j).maxReduceUnits.toNat ∧
        ((subjectAt policy j).protectedObligation = true → (planned.plans j).reducible ≤
          (planned.plans j).served - (subjectAt policy j).guaranteeFloor.toNat) := by
      rw [hasks.reducible]
      split_ifs with hprotected
      · exact ⟨by omega, by omega, fun _ => by omega⟩
      · exact ⟨by omega, by omega, fun h => absurd h hprotected⟩
    obtain ⟨hsur, hcap, hfloor⟩ := hreducible
    refine ⟨haug_once, hred_once, ?_, ?_, ?_, ?_, fun hprotected hmet => ?_,
      fun hprotected hbelow => ?_⟩
    · omega
    · omega
    · omega
    · omega
    · have := hfloor hprotected
      omega
    · have := hfloor hprotected
      omega
  · rw [Bool.not_eq_true] at hauth
    rw [hc.augment_eq_zero hauth] at haug
    rw [hc.reduce_eq_zero hauth] at hred
    exact ⟨haug_once, hred_once, by omega, by omega, by omega, by omega, fun _ hmet => by omega,
      fun _ _ => hred⟩

/-- What can be taken is at most what was served. -/
lemma sum_reducible_le
    (hs : EvaluationStages context policy accounting tree eligible whole numbered planned)
    (hc : Corrected policy whole missing (askingPlans context.request accounting eligible numbered)
      planned.plans planned.correction) :
    ∑ i, (askingPlans context.request accounting eligible numbered i).reducible ≤ whole := by
  rw [observedTotal_eq_ok hs.whole_eq]
  refine Finset.sum_le_sum fun i _ => ?_
  by_cases hauth : (planned.plans i).hasAuthority = true
  · rw [← hc.reducible, (hs.asks hc hauth).reducible, ← hs.served hauth]
    have hsurplus := hs.surplus hauth
    split_ifs <;> omega
  · rw [Bool.not_eq_true] at hauth
    have hblank : (authorityPlans context.request accounting eligible i).Blank :=
      authorityPlans_blank i
    rw [hs.without hauth, hblank.reducible]
    exact Nat.zero_le _

/-- What was observed is far below the word. -/
lemma EvaluationStages.whole_bounded
    (hs : EvaluationStages context policy accounting tree eligible whole numbered planned)
    (hp : ValidPolicy policy)
    (hevidence : ∀ evidence ∈ context.evidence, validateEvidence evidence = .ok ()) :
    whole ≤ kMaxSubjects * kMaxServiceUnits := by
  rw [observedTotal_eq_ok hs.whole_eq]
  exact sum_subjects_le hp.subjects_le (authorityPlans_served_le fun e he =>
    .of_ok (hevidence e (Eligible.of_ok (he ▸ hs.eligible_eq)).staged))

/-- The budget is within the basis-point bound of what was served. -/
lemma authorized_le_bps (hp : ValidPolicy policy)
    (hwhole : whole ≤ kMaxSubjects * kMaxServiceUnits)
    (hs : EvaluationStages context policy accounting tree eligible whole numbered planned)
    (hc : Corrected policy whole missing (askingPlans context.request accounting eligible numbered)
      planned.plans planned.correction) :
    planned.correction.authorizedBudgetUnits * kBasisPointScale ≤
      policy.maxCorrectionBps.toNat * whole := by
  obtain ⟨bps, hbps, hbudget⟩ := hc.budget
  have hpool := sum_reducible_le hs hc
  by_cases hlt : policy.maxCorrectionBps < 100000
  · rw [budgetBps_of_lt hwhole hlt] at hbps
    have hle : planned.correction.authorizedBudgetUnits ≤
        whole * policy.maxCorrectionBps.toNat / kBasisPointScale := by
      have := Except.ok.inj hbps
      omega
    calc planned.correction.authorizedBudgetUnits * kBasisPointScale
        ≤ whole * policy.maxCorrectionBps.toNat / kBasisPointScale * kBasisPointScale :=
          Nat.mul_le_mul_right _ hle
      _ ≤ whole * policy.maxCorrectionBps.toNat := Nat.div_mul_le_self _ _
      _ = policy.maxCorrectionBps.toNat * whole := Nat.mul_comm _ _
  · -- no basis-point bound: the pool itself is within what was served
    have hmax : policy.maxCorrectionBps.toNat = 100000 := by
      have hle := UInt32.le_iff_toNat_le.mp hp.maxCorrectionBps_le
      rw [UInt32.lt_iff_toNat_lt] at hlt
      have hconst : (100000 : UInt32).toNat = 100000 := rfl
      omega
    have hle : planned.correction.authorizedBudgetUnits ≤ whole := by omega
    rw [hmax, kBasisPointScale]
    omega

end Evaluation

/-- The corrective plan of every decision conserves units and keeps within its bounds. -/
theorem conservingPlan {context : EvaluationContext} {policy : FairnessPolicy}
    {accounting : FairnessAccounting} {decision : FairnessDecision}
    (hpolicy : context.policy = some policy) (haccounting : context.accounting = some accounting)
    (hvalid : validatePolicy policy = .ok ())
    (hevidence : ∀ evidence ∈ context.evidence, validateEvidence evidence = .ok ())
    (h : evaluateFairness context = .ok decision) : ConservingPlan policy accounting decision := by
  obtain ⟨tree, eligible, whole, numbered, planned, states, hs, hd, hc, -⟩ :=
    evaluateFairness_stages hpolicy haccounting h
  have hp := ValidPolicy.of_ok hvalid
  -- The units the plan moves are counted from its reports; every other field is one that the
  -- correction stage leaves.
  obtain ⟨haugment, hreduce⟩ := hd.moved_eq hc
  obtain ⟨bps, -, hbudget⟩ := hc.budget
  have hwhole := hs.whole_bounded hp hevidence
  constructor
  · rw [haugment, hd.correction, hc.augmentUnits]
  · rw [hreduce, hd.correction, hc.reduceUnits]
  · rw [hd.correction, hc.augmentUnits, hc.reduceUnits]
  · rw [hd.correction, hc.augmentUnits, hbudget]
    omega
  · rw [hd.correction, hc.augmentUnits, hc.pool, hbudget]
    omega
  · rw [hd.correction, hc.augmentUnits, hc.demandTotal, hbudget]
    omega
  · rw [hs.total_served hd, hd.correction, hc.augmentUnits]
    exact authorized_le_bps hp hwhole hs hc
  · intro subject hsubject
    obtain ⟨j, rfl⟩ := exists_subjectAt hsubject
    refine ⟨states j, ?_, (hd.reported j).id, boundedFor hp hs hd hc j⟩
    rw [hd.subjects]
    exact List.mem_ofFn.mpr ⟨j, rfl⟩

/-- The two-subject policy, where both subjects may be corrected. -/
def correctablePolicy : FairnessPolicy :=
  { pairPolicy with
    subjects := pairPolicy.subjects.map fun subject =>
      { subject with maxReduceUnits := 100, maxAugmentUnits := 100 } }

/-- The evaluation of the first window of that policy, where the one subject was served ten units
and the other four. -/
def correctableContext : EvaluationContext :=
  { pairContext [{ id := ⟨1⟩, generation := ⟨1⟩, servedUnits := 10 },
      { id := ⟨2⟩, generation := ⟨1⟩, servedUnits := 4 }] with policy := some correctablePolicy }

theorem conservingPlan_correctable : ∃ decision,
    evaluateFairness correctableContext = .ok decision ∧ decision.intents.length = 2 ∧
      ConservingPlan correctablePolicy {} decision := by
  have hrun : (evaluateFairness correctableContext).toOption.any
      (fun decision => decision.intents.length = 2) = true := by
    decide +kernel
  have hvalid : validatePolicy correctablePolicy = .ok () := by decide +kernel
  have hevidence : ∀ evidence ∈ correctableContext.evidence, validateEvidence evidence = .ok () := by
    intro evidence hmem
    obtain rfl := Option.some.inj hmem
    decide +kernel
  obtain ⟨decision, hdecision, hlength⟩ := exists_ok_of_any hrun
  exact ⟨decision, hdecision, of_decide_eq_true hlength,
    conservingPlan rfl rfl hvalid hevidence hdecision⟩

end FairnessGovernor
