/-
# What the inputs ask for

The correction stage moves units between subjects by their demand and their supply.  Here both
are computed from the inputs alone: the entitlement a subject is split, the observation that
speaks for it and its accounting entry.  So is what is granted and taken, which is what the
subjects that come first leave of the budget.
-/
import FairnessGovernor.Eval.CorrectivePlan
import FairnessGovernor.Eval.Absence
import FairnessGovernor.Lib.Sorting

namespace FairnessGovernor

open Apportion Sorting

/-! ## One subject -/

/-- Whether a window starves a subject, by its durable and its observed streaks. -/
def starvesIn (accounting : FairnessAccounting) (subject : Subject)
    (observation : SubjectObservation) : Bool :=
  let entry := accounting.find subject.id
  let unserved :=
    max (if observation.servedUnits.toNat = 0 then bumpStreak (entry.elim 0 (·.unservedStreak))
      else 0) observation.unservedStreak
  let belowFloor :=
    max (if subject.guaranteeFloor > 0 ∧
        observation.servedUnits.toNat < subject.guaranteeFloor.toNat then
      bumpStreak (entry.elim 0 (·.belowFloorStreak)) else 0) observation.belowFloorStreak
  decide (subject.starvationWindows > 0 ∧ unserved ≥ subject.starvationWindows) ||
    decide (subject.guaranteeStarvationWindows > 0 ∧ subject.guaranteeFloor > 0 ∧
      belowFloor ≥ subject.guaranteeStarvationWindows)

/-- What a subject asks for: its recognized deficit up to its cap, if the deficit is above the
fair band and the subject is not cooling down. -/
def demandOf (policy : FairnessPolicy) (accounting : FairnessAccounting)
    (window : ServiceWindowId) (subject : Subject) (observation : SubjectObservation)
    (entitlement : ℕ) : ℕ :=
  let deficit := (entitlement - observation.servedUnits.toNat) +
    carriedFor policy accounting subject.id
  if policy.fairBandUnits.toNat < deficit ∧
      isCooling policy (accounting.find subject.id) window
        (starvesIn accounting subject observation) = false then
    min deficit (min subject.maxAugmentUnits.toNat kMaxServiceUnits)
  else 0

/-- What a subject can give: its surplus up to its cap, if it is protected only what it was
served above its floor. -/
def supplyOf (subject : Subject) (observation : SubjectObservation) (entitlement : ℕ) : ℕ :=
  let cap := min (observation.servedUnits.toNat - entitlement) subject.maxReduceUnits.toNat
  if subject.protectedObligation then
    min cap (observation.servedUnits.toNat - subject.guaranteeFloor.toNat)
  else cap

/-! ## All subjects -/

/-- What an evaluation starts from: whom the evidence covers, and how the observed service is
split among the governed subjects. -/
structure Inputs (context : EvaluationContext) (policy : FairnessPolicy)
    (accounting : FairnessAccounting) (covered : Plans policy) (split : PassState policy) :
    Prop where
  coverage : coverage context policy accounting = .ok covered
  split : ∃ tree, build policy = .ok tree ∧
    distributePass tree true (∑ i, (covered i).served) = .ok split

section Inputs

variable (context : EvaluationContext) (policy : FairnessPolicy)
  (accounting : FairnessAccounting) (covered : Plans policy) (split : PassState policy)

/-- The observation that speaks for a subject with authority. -/
def observationFor (i : SubjectIndex policy) : Option SubjectObservation :=
  if (covered i).hasAuthority then
    context.evidence.bind fun evidence => evidence.find (subjectAt policy i).id
  else none

/-- What each subject asks for. -/
def demandAt (i : SubjectIndex policy) : ℕ :=
  (observationFor context policy covered i).elim 0 fun observation =>
    demandOf policy accounting context.request.window (subjectAt policy i) observation
      (split.subject i)

/-- What each subject can give. -/
def supplyAt (i : SubjectIndex policy) : ℕ :=
  (observationFor context policy covered i).elim 0 fun observation =>
    supplyOf (subjectAt policy i) observation (split.subject i)

/-- Whether a window starves each subject. -/
def starvesAt (i : SubjectIndex policy) : Bool :=
  (observationFor context policy covered i).elim false
    fun observation => starvesIn accounting (subjectAt policy i) observation

/-- The bounds of the policy on what a plan may move. -/
def policyBound (policy : FairnessPolicy) (whole : ℕ) : ℕ :=
  min policy.maxCorrectionUnits.toNat
    (if policy.maxCorrectionBps < 100000 then
      whole * policy.maxCorrectionBps.toNat / kBasisPointScale
    else kMaxServiceUnits * kMaxSubjects)

/-- The units that are moved: what can be given, what is asked for, and the policy's bounds. -/
def movable : ℕ :=
  min (∑ i, supplyAt context policy covered split i)
    (min (∑ i, demandAt context policy accounting covered split i)
      (policyBound policy (∑ i, (covered i).served)))

end Inputs

/-! ## The plans ask for what the inputs do -/

/-- The basis-point budget is exact whenever it is computed at all. -/
lemma budgetBps_eq_ok {policy : FairnessPolicy} {whole bps : ℕ} (hwhole : whole ≤ kUInt64Max)
    (h : budgetBps policy whole = .ok bps) :
    min policy.maxCorrectionUnits.toNat bps = policyBound policy whole := by
  unfold budgetBps at h
  unfold policyBound
  split_ifs at h ⊢ with hlt
  · obtain ⟨hok, heq⟩ := ite_fail_eq_ok.mp h
    have hbps := policy.maxCorrectionBps.toNat_lt
    unfold kUInt64Max at hwhole
    rw [not_not] at hok
    rw [← Except.ok.inj heq, mulDiv_value (by omega) (by omega) (by decide) hok]
  · rw [← Except.ok.inj h]

section Evaluation

variable {context : EvaluationContext} {policy : FairnessPolicy}
  {accounting : FairnessAccounting} {decision : FairnessDecision} {tree : GroupTree policy}
  {eligible : Except EvidenceFailure EvidenceSnapshot} {whole : ℕ} {numbered : Plans policy}
  {planned : Planned policy} {states : SubjectIndex policy → SubjectFairnessState}
  {missing : Bool} {covered : Plans policy} {split : PassState policy}

/-- The inputs of an evaluation that succeeds. -/
lemma EvaluationStages.inputs
    (h : EvaluationStages context policy accounting tree eligible whole numbered planned) :
    Inputs context policy accounting (authorityPlans context.request accounting eligible)
      planned.distribution.effective := by
  constructor
  · rw [coverage, h.eligible_eq, ok_bind]
    rfl
  · refine ⟨tree, h.tree_eq, ?_⟩
    rw [← observedTotal_eq_ok h.whole_eq]
    exact (distribute_eq_ok.mp h.distribution_eq).2

lemma Inputs.unique {covered' : Plans policy} {split' : PassState policy}
    (h : Inputs context policy accounting covered split)
    (h' : Inputs context policy accounting covered' split') : covered' = covered ∧ split' = split := by
  obtain ⟨tree, htree, hsplit⟩ := h.split
  obtain ⟨tree', htree', hsplit'⟩ := h'.split
  obtain rfl := Except.ok.inj (h.coverage.symm.trans h'.coverage)
  obtain rfl := Except.ok.inj (htree.symm.trans htree')
  exact ⟨rfl, (Except.ok.inj (hsplit.symm.trans hsplit')).symm⟩

/-- The observation of a subject with authority. -/
lemma EvaluationStages.observed
    (h : EvaluationStages context policy accounting tree eligible whole numbered planned)
    {i : SubjectIndex policy} (hi : (planned.plans i).hasAuthority = true) :
    ∃ evidence observation, eligible = .ok evidence ∧
      evidence.find (subjectAt policy i).id = some observation ∧
      observationFor context policy (authorityPlans context.request accounting eligible) i =
        some observation ∧
      (planned.plans i).served = observation.servedUnits.toNat := by
  have hcovered := h.hasAuthority i
  rw [hi] at hcovered
  cases eligible with
  | error failure => cases hcovered
  | ok evidence =>
    obtain ⟨observation, hspeaks, hserved⟩ := authorityPlan_speaks hcovered.symm
    refine ⟨evidence, observation, rfl, hspeaks.found, ?_, (h.served hi).trans hserved⟩
    rw [observationFor, if_pos hcovered.symm, (Eligible.of_ok h.eligible_eq).staged]
    exact hspeaks.found

/-- What was observed fits the word that sums it up. -/
lemma EvaluationStages.whole_word
    (h : EvaluationStages context policy accounting tree eligible whole numbered planned) :
    whole ≤ kUInt64Max := by
  obtain ⟨hle, heq⟩ := checkedTotal_eq_some (orFail_eq_ok.mp h.whole_eq) (Nat.zero_le _)
  rw [heq]
  exact hle

/-- A subject without authority has no observation that speaks for it. -/
lemma EvaluationStages.unobserved
    (h : EvaluationStages context policy accounting tree eligible whole numbered planned)
    {i : SubjectIndex policy} (hi : (planned.plans i).hasAuthority = false) :
    observationFor context policy (authorityPlans context.request accounting eligible) i = none := by
  rw [h.hasAuthority] at hi
  rw [observationFor, if_neg (by rw [hi]; exact Bool.false_ne_true)]

section Stages

variable
  (hs : EvaluationStages context policy accounting tree eligible whole numbered planned)

include hs

/-- The plans starve whom the inputs starve. -/
lemma starving_eq {i : SubjectIndex policy} (hi : (planned.plans i).hasAuthority = true) :
    (planned.plans i).starving = starvesAt context policy accounting
      (authorityPlans context.request accounting eligible) i := by
  obtain ⟨evidence, observation, heligible, hfind, hobserved, hserved⟩ := hs.observed hi
  have hn := hs.numbered_of_authority hi
  have hsame := hs.sameNumbers i
  have hstarving : (planned.plans i).starving =
      (starvationPlan evidence (subjectAt policy i) (numbered i)).starving := by
    rw [(hs.settled i).starving, heligible]
    rfl
  rw [hstarving, (starvationPlan_observed hn.hasAuthority hfind).2.2, hn.unservedStreak,
    hn.belowFloorStreak, ← hsame.served, hserved, starvesAt, hobserved]
  rfl

variable
  (hc : Corrected policy whole missing (askingPlans context.request accounting eligible numbered)
    planned.plans planned.correction)

include hc

/-- The plans ask for what the inputs ask for. -/
lemma demand_eq (i : SubjectIndex policy) :
    (planned.plans i).demand = demandAt context policy accounting
      (authorityPlans context.request accounting eligible) planned.distribution.effective i := by
  cases hi : (planned.plans i).hasAuthority with
  | false =>
    have hblank : (authorityPlans context.request accounting eligible i).Blank :=
      authorityPlans_blank i
    rw [demandAt, hs.unobserved hi, hc.demand, hs.without hi, hblank.demand]
    rfl
  | true =>
    obtain ⟨evidence, observation, -, -, hobserved, hserved⟩ := hs.observed hi
    have hstarving := starving_eq hs hi
    rw [starvesAt, hobserved] at hstarving
    rw [(hs.asks hc hi).demand, hs.effectiveDeficit hi, hs.entitlement hi, hserved, hstarving,
      demandAt, hobserved]
    rfl

/-- The plans can give what the inputs can. -/
lemma reducible_eq (i : SubjectIndex policy) :
    (planned.plans i).reducible = supplyAt context policy
      (authorityPlans context.request accounting eligible) planned.distribution.effective i := by
  cases hi : (planned.plans i).hasAuthority with
  | false =>
    have hblank : (authorityPlans context.request accounting eligible i).Blank :=
      authorityPlans_blank i
    rw [supplyAt, hs.unobserved hi, hc.reducible, hs.without hi, hblank.reducible]
    rfl
  | true =>
    obtain ⟨evidence, observation, -, -, hobserved, hserved⟩ := hs.observed hi
    rw [(hs.asks hc hi).reducible, hs.surplus hi, hs.entitlement hi, hserved, supplyAt, hobserved]
    rfl

/-- The authorized units are what the inputs let a plan move. -/
lemma authorized_eq (hwhole : whole ≤ kUInt64Max) :
    planned.correction.authorizedBudgetUnits = movable context policy accounting
      (authorityPlans context.request accounting eligible) planned.distribution.effective := by
  obtain ⟨bps, hbps, hbudget⟩ := hc.budget
  have hsupply : ∑ i, (askingPlans context.request accounting eligible numbered i).reducible =
      ∑ i, supplyAt context policy (authorityPlans context.request accounting eligible)
        planned.distribution.effective i :=
    Finset.sum_congr rfl fun i _ => (hc.reducible i).symm.trans (reducible_eq hs hc i)
  have hdemand : ∑ i, (askingPlans context.request accounting eligible numbered i).demand =
      ∑ i, demandAt context policy accounting
        (authorityPlans context.request accounting eligible) planned.distribution.effective i :=
    Finset.sum_congr rfl fun i _ => (hc.demand i).symm.trans (demand_eq hs hc i)
  rw [hbudget, hsupply, hdemand, movable, ← observedTotal_eq_ok hs.whole_eq,
    budgetBps_eq_ok hwhole hbps]

end Stages

end Evaluation

end FairnessGovernor
