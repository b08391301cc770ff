/-
# Entitlement as a redistribution of observed service

The whole is what the subjects with authority were served, but it is split among all governed
subjects.  The entitlements of the subjects with authority sum to what they were served exactly
when the split leaves nothing to the others.
-/
import FairnessGovernor.Eval.EngineSpec

namespace FairnessGovernor

/-! ## Sums over the subjects with authority -/

/-- The subjects of a decision that evidence speaks for with authority. -/
def FairnessDecision.authoritative (decision : FairnessDecision) : List SubjectFairnessState :=
  decision.subjects.filter (·.hasAuthority)

/-- A sum over the subjects with authority. -/
def FairnessDecision.total (decision : FairnessDecision) (f : SubjectFairnessState → ℕ) : ℕ :=
  (decision.authoritative.map f).sum

/-- Entitlement redistributes observed service exactly: what is owed to one subject is owed by
another. -/
def Redistributes (decision : FairnessDecision) : Prop :=
  decision.total (·.entitlementUnits) = decision.total (·.servedUnits) ∧
    decision.total (·.deficitUnits) = decision.total (·.surplusUnits)

instance (decision : FairnessDecision) : Decidable (Redistributes decision) :=
  inferInstanceAs (Decidable (_ ∧ _))

lemma sum_filter_ofFn {α : Type} {n : ℕ} (states : Fin n → α) (p : α → Bool) (f : α → ℕ) :
    (((List.ofFn states).filter p).map f).sum =
      ∑ i, if p (states i) then f (states i) else 0 := by
  induction n with
  | zero => simp
  | succ n ih =>
    rw [List.ofFn_succ, Fin.sum_univ_succ, ← ih fun i => states i.succ, List.filter_cons]
    split_ifs with hp
    · rw [List.map_cons, List.sum_cons]
    · rw [Nat.zero_add]

/-- The split of the observed service among all governed subjects leaves nothing to a subject
without authority. -/
def LeavesNothing (context : EvaluationContext) (policy : FairnessPolicy)
    (accounting : FairnessAccounting) : Prop :=
  ∃ covered tree split, coverage context policy accounting = .ok covered ∧
    build policy = .ok tree ∧
    distributePass tree true (∑ i, (covered i).served) = .ok split ∧
    ∀ i, (covered i).hasAuthority = false → split.subject i = 0

section Evaluation

variable {context : EvaluationContext} {policy : FairnessPolicy}
  {accounting : FairnessAccounting} {decision : FairnessDecision} {tree : GroupTree policy}
  {eligible : Except EvidenceFailure EvidenceSnapshot} {whole : ℕ} {numbered : Plans policy}
  {planned : Planned policy} {states : SubjectIndex policy → SubjectFairnessState}

lemma Evaluated.total_eq (hd : Evaluated context policy accounting planned states decision)
    {f : SubjectFairnessState → ℕ} {g : SubjectPlan → ℕ}
    (hfg : ∀ i, (planned.plans i).hasAuthority = true → f (states i) = g (planned.plans i)) :
    decision.total f = ∑ i, if (planned.plans i).hasAuthority then g (planned.plans i) else 0 := by
  rw [FairnessDecision.total, FairnessDecision.authoritative, hd.subjects, sum_filter_ofFn]
  refine Finset.sum_congr rfl fun i _ => ?_
  rw [(hd.reported i).hasAuthority]
  split_ifs with hauth
  · exact hfg i hauth
  · rfl

/-- What the subjects with authority were served is the whole. -/
lemma EvaluationStages.total_served
    (h : EvaluationStages context policy accounting tree eligible whole numbered planned)
    (hd : Evaluated context policy accounting planned states decision) :
    decision.total (·.servedUnits) = whole := by
  rw [hd.total_eq fun i _ => (hd.reported i).served, observedTotal_eq_ok h.whole_eq]
  refine Finset.sum_congr rfl fun i _ => ?_
  split_ifs with hauth
  · exact h.served hauth
  · rw [h.hasAuthority] at hauth
    exact (authorityPlans_served_eq_zero hauth).symm

/-- What is due to the subjects with authority, and what the split leaves to the others. -/
lemma EvaluationStages.total_entitlement
    (h : EvaluationStages context policy accounting tree eligible whole numbered planned)
    (hd : Evaluated context policy accounting planned states decision)
    (hsum : ∑ i, planned.distribution.effective.subject i = whole) :
    decision.total (·.entitlementUnits) + (∑ i, if (planned.plans i).hasAuthority then 0
      else planned.distribution.effective.subject i) = whole := by
  rw [hd.total_eq fun i _ => (hd.reported i).entitlement, ← Finset.sum_add_distrib, ← hsum]
  refine Finset.sum_congr rfl fun i _ => ?_
  split_ifs with hauth
  · rw [h.entitlement hauth, Nat.add_zero]
  · rw [Nat.zero_add]

/-- Owed minus owing is entitled minus served. -/
lemma EvaluationStages.total_deficit
    (h : EvaluationStages context policy accounting tree eligible whole numbered planned)
    (hd : Evaluated context policy accounting planned states decision) :
    decision.total (·.entitlementUnits) + decision.total (·.surplusUnits) =
      decision.total (·.servedUnits) + decision.total (·.deficitUnits) := by
  rw [hd.total_eq fun i _ => (hd.reported i).entitlement,
    hd.total_eq fun i _ => (hd.reported i).surplus, hd.total_eq fun i _ => (hd.reported i).served,
    hd.total_eq fun i _ => (hd.reported i).deficit, ← Finset.sum_add_distrib,
    ← Finset.sum_add_distrib]
  refine Finset.sum_congr rfl fun i _ => ?_
  split_ifs with hauth
  · rw [h.surplus hauth, h.deficit hauth]
    omega
  · rfl

/-- The whole fits its word. -/
lemma EvaluationStages.whole_le
    (h : EvaluationStages context policy accounting tree eligible whole numbered planned) :
    whole ≤ kUInt64Max := by
  obtain ⟨hle, hsum⟩ := checkedTotal_eq_some (orFail_eq_ok.mp h.whole_eq) (Nat.zero_le _)
  omega

/-- On a validated policy an evaluation splits the whole over the tree of the policy. -/
lemma EvaluationStages.split
    (h : EvaluationStages context policy accounting tree eligible whole numbered planned)
    (hp : ValidPolicy policy) :
    IsTreeOf tree ∧ PassSpec tree true whole planned.distribution.effective := by
  have ht := IsTreeOf.of_build h.tree_eq
  exact ⟨ht, (hp.distribute_spec ht h.whole_le h.distribution_eq).2⟩

/-- The coverage of an evaluation is its plans before their numbers. -/
lemma EvaluationStages.coverage_eq
    (h : EvaluationStages context policy accounting tree eligible whole numbered planned) :
    coverage context policy accounting =
      .ok (authorityPlans context.request accounting eligible) := by
  rw [coverage, h.eligible_eq, ok_bind]
  rfl

lemma EvaluationStages.leavesNothing_iff
    (h : EvaluationStages context policy accounting tree eligible whole numbered planned) :
    LeavesNothing context policy accounting ↔
      (∑ i, if (planned.plans i).hasAuthority then 0
        else planned.distribution.effective.subject i) = 0 := by
  have hwhole := observedTotal_eq_ok h.whole_eq
  have hcoverage := h.coverage_eq
  obtain ⟨-, heffective⟩ := distribute_eq_ok.mp h.distribution_eq
  rw [Finset.sum_eq_zero_iff]
  constructor
  · rintro ⟨covered, tree', split', hcovered, htree', hsplit', hzero⟩ i -
    obtain rfl := Except.ok.inj (hcoverage.symm.trans hcovered)
    obtain rfl : tree = tree' := Except.ok.inj (h.tree_eq.symm.trans htree')
    rw [← hwhole] at hsplit'
    obtain rfl := Except.ok.inj (heffective.symm.trans hsplit')
    split_ifs with hauth
    · rfl
    · exact hzero i (by simpa [h.hasAuthority] using hauth)
  · intro hzero
    refine ⟨_, tree, _, hcoverage, h.tree_eq, hwhole ▸ heffective, fun i hi => ?_⟩
    have hz := hzero i (Finset.mem_univ i)
    rw [h.hasAuthority, hi, if_neg Bool.false_ne_true] at hz
    exact hz

end Evaluation

/-- A decision redistributes observed service exactly when the split of that service leaves
nothing to a subject without authority. -/
theorem redistributes_iff {context : EvaluationContext} {policy : FairnessPolicy}
    {accounting : FairnessAccounting} {decision : FairnessDecision}
    (hpolicy : context.policy = some policy) (haccounting : context.accounting = some accounting)
    (hvalid : validatePolicy policy = .ok ()) (h : evaluateFairness context = .ok decision) :
    Redistributes decision ↔ LeavesNothing context policy accounting := by
  obtain ⟨tree, eligible, whole, numbered, planned, states, hs, hd, -⟩ :=
    evaluateFairness_stages hpolicy haccounting h
  have hp := ValidPolicy.of_ok hvalid
  obtain ⟨ht, hspec⟩ := hs.split hp
  have hserved := hs.total_served hd
  have hentitled := hs.total_entitlement hd (hspec.conserves hp ht).subjects
  have hdeficit := hs.total_deficit hd
  rw [hs.leavesNothing_iff, Redistributes]
  omega

/-- Two subjects of equal weight in one group. -/
def pairPolicy : FairnessPolicy :=
  { id := ⟨1⟩
    generation := ⟨1⟩
    epoch := ⟨1⟩
    maxCorrectionUnits := 100
    groups := [{ id := ⟨1⟩, generation := ⟨1⟩ }]
    subjects :=
      [{ id := ⟨1⟩, generation := ⟨1⟩, group := ⟨1⟩ },
        { id := ⟨2⟩, generation := ⟨1⟩, group := ⟨1⟩ }] }

/-- A first window's evidence, with the given observations. -/
def pairEvidence (observations : List SubjectObservation) : EvidenceSnapshot :=
  { id := ⟨1⟩
    generation := ⟨1⟩
    window := ⟨1⟩
    windowGeneration := ⟨1⟩
    epoch := ⟨1⟩
    observations := observations }

/-- The request for that evidence. -/
def pairRequest : EvaluationRequest :=
  { policyId := ⟨1⟩
    policyGeneration := ⟨1⟩
    epoch := ⟨1⟩
    evidenceId := ⟨1⟩
    evidenceGeneration := ⟨1⟩
    window := ⟨1⟩
    windowGeneration := ⟨1⟩ }

/-- The evaluation of the first window on fresh accounting. -/
def pairContext (observations : List SubjectObservation) : EvaluationContext :=
  { policy := some pairPolicy
    accounting := some {}
    evidence := some (pairEvidence observations)
    request := pairRequest
    currentEpoch := ⟨1⟩ }

theorem redistributes_iff_pair :
    ∃ decision, evaluateFairness (pairContext
        [{ id := ⟨1⟩, generation := ⟨1⟩, servedUnits := 10 },
          { id := ⟨2⟩, generation := ⟨1⟩, servedUnits := 4 }]) = .ok decision ∧
      (Redistributes decision ↔ LeavesNothing (pairContext
        [{ id := ⟨1⟩, generation := ⟨1⟩, servedUnits := 10 },
          { id := ⟨2⟩, generation := ⟨1⟩, servedUnits := 4 }]) pairPolicy {}) := by
  have hrun : (evaluateFairness (pairContext
      [{ id := ⟨1⟩, generation := ⟨1⟩, servedUnits := 10 },
        { id := ⟨2⟩, generation := ⟨1⟩, servedUnits := 4 }])).toOption.any (fun _ => true) = true := by
    decide +kernel
  obtain ⟨decision, hdecision, -⟩ := exists_ok_of_any hrun
  exact ⟨decision, hdecision, redistributes_iff rfl rfl (by decide +kernel) hdecision⟩

/-- Evidence for one of the two subjects: it served all ten units and is entitled to five. -/
theorem not_redistributes_uncovered :
    validatePolicy pairPolicy = .ok () ∧
    validateEvidence (pairEvidence [{ id := ⟨1⟩, generation := ⟨1⟩, servedUnits := 10 }]) =
      .ok () ∧
    ∃ decision, evaluateFairness (pairContext
        [{ id := ⟨1⟩, generation := ⟨1⟩, servedUnits := 10 }]) = .ok decision ∧
      ¬ Redistributes decision := by
  refine ⟨by decide +kernel, by decide +kernel, ?_⟩
  have hrun : (evaluateFairness (pairContext
      [{ id := ⟨1⟩, generation := ⟨1⟩, servedUnits := 10 }])).toOption.any
      (fun decision => ¬ Redistributes decision) = true := by
    decide +kernel
  obtain ⟨decision, hdecision, hnot⟩ := exists_ok_of_any hrun
  exact ⟨decision, hdecision, of_decide_eq_true hnot⟩

end FairnessGovernor
