/-
# Plans for a partly covered population

A snapshot may speak for some of the governed subjects only.  The subjects it does not speak for
are `UNKNOWN` or `STALE`, but units are moved between the others all the same: nothing is planned
exactly when everybody is covered, or when there is nothing to move.
-/
import FairnessGovernor.Eval.Demand

namespace FairnessGovernor

open Apportion

/-- A decision about a population of which a part is `UNKNOWN` or `STALE` plans nothing. -/
def PlansNothingUncovered (decision : FairnessDecision) : Prop :=
  0 < decision.counts.unknown + decision.counts.stale →
    decision.intents = [] ∧ decision.correction.authorizedBudgetUnits = 0

instance (decision : FairnessDecision) : Decidable (PlansNothingUncovered decision) :=
  inferInstanceAs (Decidable (_ → _))

/-- Somebody is not covered, and others can give and ask for units within the policy's bounds. -/
def MovesUncovered (context : EvaluationContext) (policy : FairnessPolicy)
    (accounting : FairnessAccounting) : Prop :=
  ∃ covered split, Inputs context policy accounting covered split ∧
    (∃ i, (covered i).hasAuthority = false) ∧
    (∃ i, 0 < supplyAt context policy covered split i) ∧
    (∃ i, 0 < demandAt context policy accounting covered split i) ∧
    0 < policyBound policy (∑ i, (covered i).served)

section Evaluation

variable {context : EvaluationContext} {policy : FairnessPolicy}
  {accounting : FairnessAccounting} {decision : FairnessDecision} {tree : GroupTree policy}
  {eligible : Except EvidenceFailure EvidenceSnapshot} {whole : ℕ} {numbered : Plans policy}
  {planned : Planned policy} {states : SubjectIndex policy → SubjectFairnessState}
  {missing : Bool} {covered : Plans policy} {split : PassState policy}

/-- Units are moved when somebody gives, somebody asks, and the policy allows it. -/
lemma movable_pos : 0 < movable context policy accounting covered split ↔
    (∃ i, 0 < supplyAt context policy covered split i) ∧
      (∃ i, 0 < demandAt context policy accounting covered split i) ∧
      0 < policyBound policy (∑ i, (covered i).served) := by
  have hsum : ∀ f : SubjectIndex policy → ℕ, 0 < ∑ i, f i ↔ ∃ i, 0 < f i := by
    intro f
    rw [Nat.pos_iff_ne_zero, ne_eq, Finset.sum_eq_zero_iff]
    simp [Nat.pos_iff_ne_zero]
  rw [movable, lt_min_iff, lt_min_iff, hsum, hsum]

/-- The counts show whether somebody is not covered. -/
lemma uncovered_counts (hr : Concluded planned states decision) :
    0 < decision.counts.unknown + decision.counts.stale ↔
      ∃ i, (planned.plans i).outcome.absent := by
  rw [hr.counts]
  show 0 < List.count Outcome.unknown _ + List.count Outcome.stale _ ↔ _
  rw [Nat.add_pos_iff_pos_or_pos, List.count_pos_iff, List.count_pos_iff, List.mem_ofFn,
    List.mem_ofFn]
  constructor
  · rintro (⟨i, hi⟩ | ⟨i, hi⟩)
    · exact ⟨i, .inl hi⟩
    · exact ⟨i, .inr hi⟩
  · rintro ⟨i, hi | hi⟩
    · exact .inl ⟨i, hi⟩
    · exact .inr ⟨i, hi⟩

/-- Without authorized units there are no intents. -/
lemma intents_eq_nil (hd : Evaluated context policy accounting planned states decision)
    (hc : Corrected policy whole missing (askingPlans context.request accounting eligible numbered)
      planned.plans planned.correction) (h : planned.correction.authorizedBudgetUnits = 0) :
    decision.intents = [] := by
  have haugment := hc.sum_augment
  have hreduce := hc.sum_reduce
  rw [h, Finset.sum_eq_zero_iff] at haugment hreduce
  refine List.eq_nil_iff_forall_not_mem.mpr fun intent hintent => ?_
  obtain ⟨i, -, hmoved⟩ := hd.named hintent
  rcases hmoved with hmoved | hmoved
  · exact hmoved (haugment i (Finset.mem_univ i))
  · exact hmoved (hreduce i (Finset.mem_univ i))

end Evaluation

/-- Nothing is planned for a partly covered population exactly when there is nothing to move in
it. -/
theorem plansNothingUncovered_iff {context : EvaluationContext} {policy : FairnessPolicy}
    {accounting : FairnessAccounting} {decision : FairnessDecision}
    (hpolicy : context.policy = some policy) (haccounting : context.accounting = some accounting)
    (hvalid : validatePolicy policy = .ok ())
    (hevidence : ∀ evidence ∈ context.evidence, validateEvidence evidence = .ok ())
    (h : evaluateFairness context = .ok decision) :
    PlansNothingUncovered decision ↔ ¬ MovesUncovered context policy accounting := by
  obtain ⟨tree, eligible, whole, numbered, planned, states, hs, hd, hc, hr⟩ :=
    evaluateFairness_stages hpolicy haccounting h
  have hp := ValidPolicy.of_ok hvalid
  have hauthorized := authorized_eq hs hc ((hs.whole_bounded hp hevidence).trans (by decide))
  -- the counters count the subjects without authority
  have huncovered : (0 < decision.counts.unknown + decision.counts.stale) ↔
      ∃ i : SubjectIndex policy,
        (authorityPlans context.request accounting eligible i).hasAuthority = false := by
    rw [uncovered_counts hr]
    refine exists_congr fun i => ?_
    rw [hs.absent_iff hc, hs.hasAuthority]
  rw [PlansNothingUncovered, huncovered, hd.correction]
  constructor
  · rintro hnothing ⟨covered, split, hinputs, hsomebody, hmovable⟩
    obtain ⟨rfl, rfl⟩ := hs.inputs.unique hinputs
    have hzero := (hnothing hsomebody).2
    rw [hauthorized] at hzero
    have hpos := movable_pos.mpr hmovable
    omega
  · intro hnot hsomebody
    have hzero : planned.correction.authorizedBudgetUnits = 0 := by
      by_contra hne
      rw [hauthorized] at hne
      have hmovable := movable_pos.mp (Nat.pos_of_ne_zero hne)
      exact hnot ⟨_, _, hs.inputs, hsomebody, hmovable⟩
    exact ⟨intents_eq_nil hd hc hzero, hzero⟩

theorem plansNothingUncovered_iff_correctable : ∃ decision,
    evaluateFairness correctableContext = .ok decision ∧
      (PlansNothingUncovered decision ↔ ¬ MovesUncovered correctableContext correctablePolicy {}) := by
  have hrun : (evaluateFairness correctableContext).toOption.any (fun _ => true) = true := by
    decide +kernel
  have hevidence : ∀ evidence ∈ correctableContext.evidence, validateEvidence evidence = .ok () := by
    intro evidence hmem
    obtain rfl := Option.some.inj hmem
    decide +kernel
  obtain ⟨decision, hdecision, -⟩ := exists_ok_of_any hrun
  exact ⟨decision, hdecision,
    plansNothingUncovered_iff rfl rfl (by decide +kernel) hevidence hdecision⟩

/-- Three subjects of one group that may be corrected. -/
def triplePolicy : FairnessPolicy :=
  { correctablePolicy with
    subjects := correctablePolicy.subjects ++
      [{ id := ⟨3⟩, generation := ⟨1⟩, group := ⟨1⟩, maxReduceUnits := 100, maxAugmentUnits := 100 }] }

/-- The evaluation of a window in which the third subject was not observed. -/
def tripleContext : EvaluationContext :=
  { pairContext [{ id := ⟨1⟩, generation := ⟨1⟩, servedUnits := 10 },
      { id := ⟨2⟩, generation := ⟨1⟩, servedUnits := 1 }] with policy := some triplePolicy }

/-- Units are moved between the two observed subjects while the third is `UNKNOWN`. -/
theorem not_plansNothingUncovered :
    validatePolicy triplePolicy = .ok () ∧
    (∀ evidence ∈ tripleContext.evidence, validateEvidence evidence = .ok ()) ∧
    ∃ decision, evaluateFairness tripleContext = .ok decision ∧
      ¬ PlansNothingUncovered decision := by
  refine ⟨by decide +kernel, ?_, ?_⟩
  · intro evidence hmem
    obtain rfl := Option.some.inj hmem
    decide +kernel
  · have hrun : (evaluateFairness tripleContext).toOption.any
        (fun decision => ¬ PlansNothingUncovered decision) = true := by
      decide +kernel
    obtain ⟨decision, hdecision, hnot⟩ := exists_ok_of_any hrun
    exact ⟨decision, hdecision, of_decide_eq_true hnot⟩

end FairnessGovernor
