/-
# What each planning stage does to a plan

A later stage leaves the numbers of the earlier ones alone.  `SameNumbers` and `Settled` say so
for a whole stage at once, so that a fact about the numbers is proved where they are written.
-/
import FairnessGovernor.Eval.Plan

namespace FairnessGovernor

/-! ## Eligibility -/

/-- The snapshot is the one the request names, and nothing stands against it. -/
structure Eligible (context : EvaluationContext) (policy : FairnessPolicy)
    (evidence : EvidenceSnapshot) : Prop where
  staged : context.evidence = some evidence
  policyId : context.request.policyId = policy.id
  policyGeneration : context.request.policyGeneration = policy.generation
  epoch_valid : context.currentEpoch.valid
  policy_epoch : policy.epoch = context.currentEpoch
  request_epoch : context.request.epoch = context.currentEpoch
  evidenceId : evidence.id = context.request.evidenceId
  evidenceGeneration : evidence.generation = context.request.evidenceGeneration
  evidence_epoch : evidence.epoch = context.currentEpoch
  window : evidence.window = context.request.window
  windowGeneration : evidence.windowGeneration = context.request.windowGeneration
  window_fresh : context.lastCommittedWindow.valid → context.request.window.valid →
    context.lastCommittedWindow.value < context.request.window.value

variable {context : EvaluationContext} {policy : FairnessPolicy} {evidence : EvidenceSnapshot}

lemma Eligible.of_ok (h : eligibility context policy = .ok (.ok evidence)) :
    Eligible context policy evidence := by
  unfold eligibility at h
  dsimp only at h
  split_ifs at h with hpolicy hepoch
  · cases h
  · cases h
  rw [not_or, not_not, not_not] at hpolicy
  rw [not_or, not_or, not_not, not_not, not_not] at hepoch
  cases hevidence : context.evidence with
  | none =>
    rw [hevidence] at h
    cases h
  | some e =>
    rw [hevidence] at h
    dsimp only at h
    cases hfail : snapshotFailure context policy e with
    | some failure =>
      rw [hfail] at h
      cases h
    | none =>
      rw [hfail] at h
      obtain ⟨aged, -, h⟩ := bind_eq_ok.mp h
      obtain rfl : e = evidence := by
        cases aged with
        | some failure => cases h
        | none => cases h; rfl
      unfold snapshotFailure at hfail
      dsimp only at hfail
      -- every check but the last ones on the current window was passed
      split_ifs at hfail with h1 h2 h3 h4 <;>
        (rw [not_or, not_not, not_not] at h1 h3
         rw [not_not] at h2
         refine ⟨hevidence, hpolicy.1, hpolicy.2, hepoch.1, hepoch.2.1, hepoch.2.2, h1.1, h1.2,
           h2, h3.1, h3.2, fun hlast hwindow => ?_⟩
         rw [not_and, not_and, UInt64.not_le] at h4
         exact h4 hlast hwindow)

/-- On validated evidence the age is computed within the signed word. -/
lemma eligibility_ok (hevidence : ∀ e ∈ context.evidence, ValidEvidence e) :
    ∃ eligible, eligibility context policy = .ok eligible := by
  unfold eligibility
  dsimp only
  split_ifs
  · exact ⟨_, rfl⟩
  · exact ⟨_, rfl⟩
  · cases hstaged : context.evidence with
    | none => exact ⟨_, rfl⟩
    | some e =>
      dsimp only
      cases snapshotFailure context policy e with
      | some failure => exact ⟨_, rfl⟩
      | none =>
        have hcaptured := (hevidence e hstaged).captured_nonneg
        obtain ⟨aged, haged⟩ : ∃ aged, ageFailure policy e context.request.nowNs = .ok aged := by
          unfold ageFailure
          split_ifs with hlimit hfuture
          · exact ⟨_, rfl⟩
          · -- neither time is negative, so their difference is within the word
            have hnow := context.request.nowNs.toInt_lt
            have hle : e.capturedAtNs.toInt ≤ context.request.nowNs.toInt := by
              rw [gt_iff_lt, Int64.lt_iff_toInt_lt, not_lt] at hfuture
              exact hfuture
            rw [isub_eq_ok.mpr ⟨by unfold kInt64Max; omega, rfl⟩]
            exact ⟨_, rfl⟩
          · exact ⟨_, rfl⟩
        simp only [haged, ok_bind]
        exact ⟨_, rfl⟩

/-! ## Authority -/

/-- A plan that no numbers were written to. -/
structure SubjectPlan.Blank (plan : SubjectPlan) : Prop where
  entitlement : plan.entitlement = 0
  baseEntitlement : plan.baseEntitlement = 0
  thisWindowDeficit : plan.thisWindowDeficit = 0
  effectiveDeficit : plan.effectiveDeficit = 0
  surplus : plan.surplus = 0
  demand : plan.demand = 0
  reducible : plan.reducible = 0
  withheld : plan.withheld = 0
  augment : plan.augment = 0
  cooling : plan.cooling = false

lemma failedPlan_blank (request : EvaluationRequest) (failure : EvidenceFailure) :
    (failedPlan request failure).Blank := by
  constructor <;> rfl

section Authority

variable {request : EvaluationRequest} {accounting : FairnessAccounting} {subject : Subject}

/-- The snapshot speaks for a subject with authority exactly when its observation of it is
current in every reference. -/
structure Speaks (accounting : FairnessAccounting) (evidence : EvidenceSnapshot)
    (subject : Subject) (observation : SubjectObservation) : Prop where
  found : evidence.find subject.id = some observation
  generation : observation.generation = subject.generation
  entry_generation : ∀ entry ∈ accounting.find subject.id, entry.generation = subject.generation

/-- A plan either starts without authority and without numbers, or an observation speaks for its
subject and says what was served. -/
lemma authorityPlan_cases :
    (∃ outcome reason, (outcome = .unknown ∨ outcome = .stale) ∧
      authorityPlan request accounting evidence subject =
        { outcome := outcome, reason := reason }) ∨
    ∃ observation, Speaks accounting evidence subject observation ∧
      authorityPlan request accounting evidence subject =
        { hasAuthority := true
          outcome := .fair
          reason := .withinFairBand
          served := observation.servedUnits.toNat
          observedPriority := observation.priority
          observedQos := observation.qos } := by
  unfold authorityPlan
  split
  · left
    refine ⟨_, _, ?_, rfl⟩
    split_ifs
    · exact .inl rfl
    · exact .inr rfl
  · next observation hfind =>
    split_ifs with hgeneration hpriority hqos hentry
    · exact .inl ⟨_, _, .inr rfl, rfl⟩
    · exact .inl ⟨_, _, .inr rfl, rfl⟩
    · exact .inl ⟨_, _, .inr rfl, rfl⟩
    · exact .inl ⟨_, _, .inr rfl, rfl⟩
    · refine .inr ⟨observation, ⟨hfind, not_not.mp hgeneration, fun entry hmem => ?_⟩, rfl⟩
      by_contra hne
      exact hentry ⟨entry, hmem, hne⟩

lemma authorityPlan_blank : (authorityPlan request accounting evidence subject).Blank := by
  rcases authorityPlan_cases with ⟨_, _, -, hplan⟩ | ⟨_, -, hplan⟩ <;>
    (rw [hplan]; constructor <;> rfl)

/-- What authority means. -/
lemma authorityPlan_speaks
    (h : (authorityPlan request accounting evidence subject).hasAuthority = true) :
    ∃ observation, Speaks accounting evidence subject observation ∧
      (authorityPlan request accounting evidence subject).served =
        observation.servedUnits.toNat := by
  rcases authorityPlan_cases with ⟨_, _, -, hplan⟩ | ⟨observation, hspeaks, hplan⟩
  · rw [hplan] at h
    cases h
  · exact ⟨observation, hspeaks, by rw [hplan]⟩

/-- Without authority nothing is recorded as served. -/
lemma authorityPlan_served_eq_zero
    (h : ¬ (authorityPlan request accounting evidence subject).hasAuthority) :
    (authorityPlan request accounting evidence subject).served = 0 := by
  rcases authorityPlan_cases with ⟨_, _, -, hplan⟩ | ⟨_, -, hplan⟩
  · rw [hplan]
  · rw [hplan] at h
    exact absurd rfl h

lemma authorityPlan_served_le (hevidence : ValidEvidence evidence) :
    (authorityPlan request accounting evidence subject).served ≤ kMaxServiceUnits := by
  rcases authorityPlan_cases with ⟨_, _, -, hplan⟩ | ⟨observation, hspeaks, hplan⟩
  · rw [hplan]
    exact Nat.zero_le _
  · rw [hplan]
    exact (hevidence.observation_valid _ (List.mem_of_find?_eq_some hspeaks.found)).served_le

end Authority

/-! ## What the later stages keep -/

/-- The stage that turned `p` into `q` left the numbers alone. -/
structure SubjectPlan.SameNumbers (p q : SubjectPlan) : Prop where
  hasAuthority : q.hasAuthority = p.hasAuthority
  served : q.served = p.served
  entitlement : q.entitlement = p.entitlement
  baseEntitlement : q.baseEntitlement = p.baseEntitlement
  thisWindowDeficit : q.thisWindowDeficit = p.thisWindowDeficit
  effectiveDeficit : q.effectiveDeficit = p.effectiveDeficit
  surplus : q.surplus = p.surplus
  carry : q.carry = p.carry

/-- The stage left the numbers and the streaks alone. -/
structure SubjectPlan.Settled (p q : SubjectPlan) : Prop extends SubjectPlan.SameNumbers p q where
  unservedStreak : q.unservedStreak = p.unservedStreak
  belowFloorStreak : q.belowFloorStreak = p.belowFloorStreak
  starving : q.starving = p.starving

/-- The stage asked for nothing. -/
structure SubjectPlan.SameAsks (p q : SubjectPlan) : Prop where
  cooling : q.cooling = p.cooling
  demand : q.demand = p.demand
  reducible : q.reducible = p.reducible
  withheld : q.withheld = p.withheld

/-- The stage left everything alone but the outcome. -/
structure SubjectPlan.Decided (p q : SubjectPlan) : Prop extends SubjectPlan.Settled p q where
  demand : q.demand = p.demand
  reducible : q.reducible = p.reducible
  withheld : q.withheld = p.withheld
  augment : q.augment = p.augment
  reduce : q.reduce = p.reduce

lemma SubjectPlan.SameNumbers.rfl' {p : SubjectPlan} : p.SameNumbers p := by
  constructor <;> rfl

lemma SubjectPlan.Settled.rfl' {p : SubjectPlan} : p.Settled p :=
  ⟨.rfl', rfl, rfl, rfl⟩

lemma SubjectPlan.SameAsks.rfl' {p : SubjectPlan} : p.SameAsks p := by
  constructor <;> rfl

lemma SubjectPlan.Decided.rfl' {p : SubjectPlan} : p.Decided p :=
  ⟨.rfl', rfl, rfl, rfl, rfl, rfl⟩

lemma SubjectPlan.SameNumbers.trans {p q r : SubjectPlan} (h₁ : p.SameNumbers q)
    (h₂ : q.SameNumbers r) : p.SameNumbers r where
  hasAuthority := h₂.hasAuthority.trans h₁.hasAuthority
  served := h₂.served.trans h₁.served
  entitlement := h₂.entitlement.trans h₁.entitlement
  baseEntitlement := h₂.baseEntitlement.trans h₁.baseEntitlement
  thisWindowDeficit := h₂.thisWindowDeficit.trans h₁.thisWindowDeficit
  effectiveDeficit := h₂.effectiveDeficit.trans h₁.effectiveDeficit
  surplus := h₂.surplus.trans h₁.surplus
  carry := h₂.carry.trans h₁.carry

lemma SubjectPlan.Settled.trans {p q r : SubjectPlan} (h₁ : p.Settled q) (h₂ : q.Settled r) :
    p.Settled r where
  toSameNumbers := h₁.toSameNumbers.trans h₂.toSameNumbers
  unservedStreak := h₂.unservedStreak.trans h₁.unservedStreak
  belowFloorStreak := h₂.belowFloorStreak.trans h₁.belowFloorStreak
  starving := h₂.starving.trans h₁.starving

/-- The stage writes the streaks, whether they starve the subject, and the reason. -/
lemma starvationPlan_writes (subject : Subject) (plan : SubjectPlan) :
    ∃ unservedStreak belowFloorStreak starving reason,
      starvationPlan evidence subject plan = { plan with
        unservedStreak := unservedStreak
        belowFloorStreak := belowFloorStreak
        starving := starving
        reason := reason } := by
  unfold starvationPlan
  by_cases hauth : ¬ plan.hasAuthority
  · rw [if_pos hauth]
    exact ⟨plan.unservedStreak, plan.belowFloorStreak, plan.starving, plan.reason, rfl⟩
  · rw [if_neg hauth]
    cases evidence.find subject.id with
    | none => exact ⟨plan.unservedStreak, plan.belowFloorStreak, plan.starving, plan.reason, rfl⟩
    | some observation => exact ⟨_, _, _, _, rfl⟩

/-- Without an observation that speaks for the subject the stage does nothing. -/
lemma starvationPlan_unobserved {subject : Subject} {plan : SubjectPlan}
    (h : plan.hasAuthority = true → evidence.find subject.id = none) :
    starvationPlan evidence subject plan = plan := by
  unfold starvationPlan
  by_cases hauth : plan.hasAuthority = true
  · rw [if_neg (not_not.mpr hauth), h hauth]
  · rw [if_pos hauth]

/-- With one, the larger streaks count, and each of them may starve the subject. -/
lemma starvationPlan_observed {subject : Subject} {plan : SubjectPlan}
    {observation : SubjectObservation} (hauth : plan.hasAuthority = true)
    (hfind : evidence.find subject.id = some observation) :
    (starvationPlan evidence subject plan).unservedStreak =
        max plan.unservedStreak observation.unservedStreak ∧
      (starvationPlan evidence subject plan).belowFloorStreak =
        max plan.belowFloorStreak observation.belowFloorStreak ∧
      (starvationPlan evidence subject plan).starving =
        (decide (subject.starvationWindows > 0 ∧
            max plan.unservedStreak observation.unservedStreak ≥ subject.starvationWindows) ||
          decide (subject.guaranteeStarvationWindows > 0 ∧ subject.guaranteeFloor > 0 ∧
            max plan.belowFloorStreak observation.belowFloorStreak ≥
              subject.guaranteeStarvationWindows)) := by
  unfold starvationPlan
  rw [if_neg (not_not.mpr hauth), hfind]
  exact ⟨rfl, rfl, rfl⟩

lemma starvationPlan_sameNumbers (subject : Subject) (plan : SubjectPlan) :
    plan.SameNumbers (starvationPlan evidence subject plan) := by
  obtain ⟨_, _, _, _, hwrites⟩ := starvationPlan_writes subject plan
  rw [hwrites]
  constructor <;> rfl

lemma starvationPlan_asks (subject : Subject) (plan : SubjectPlan) :
    plan.SameAsks (starvationPlan evidence subject plan) := by
  obtain ⟨_, _, _, _, hwrites⟩ := starvationPlan_writes subject plan
  rw [hwrites]
  constructor <;> rfl

/-- `std::max` of two streaks. -/
lemma le_max_streak (durable observed : UInt32) : durable ≤ max durable observed := by
  rw [UInt32.le_iff_toNat_le]
  show _ ≤ (if durable ≤ observed then observed else durable : UInt32).toNat
  split_ifs with hle
  · exact UInt32.le_iff_toNat_le.mp hle
  · exact Nat.le_refl _

/-- An observed streak is taken in, never the durable one waived; a subject that was not served
long enough starves. -/
lemma starvationPlan_unserved (subject : Subject) (plan : SubjectPlan) :
    plan.unservedStreak ≤ (starvationPlan evidence subject plan).unservedStreak ∧
      (plan.hasAuthority = true → (evidence.find subject.id).isSome → 0 < subject.starvationWindows →
        subject.starvationWindows ≤ plan.unservedStreak →
        (starvationPlan evidence subject plan).starving = true) := by
  by_cases hauth : plan.hasAuthority = true
  · cases hfind : evidence.find subject.id with
    | none =>
      rw [starvationPlan_unobserved fun _ => hfind]
      exact ⟨UInt32.le_refl _, fun _ hsome => by cases hsome⟩
    | some observation =>
      obtain ⟨hunserved, -, hstarving⟩ := starvationPlan_observed hauth hfind
      have hle := le_max_streak plan.unservedStreak observation.unservedStreak
      rw [hunserved, hstarving]
      refine ⟨hle, fun _ _ hpos hlong => ?_⟩
      rw [Bool.or_eq_true, decide_eq_true_iff]
      exact .inl ⟨hpos, UInt32.le_trans hlong hle⟩
  · rw [starvationPlan_unobserved fun h => absurd h hauth]
    exact ⟨UInt32.le_refl _, fun h => absurd h hauth⟩

/-- The stage writes the cooldown, the demand, and what can be given and is withheld. -/
lemma demandSupplyPlan_writes (accounting : FairnessAccounting) (window : ServiceWindowId)
    (subject : Subject) (plan : SubjectPlan) :
    ∃ cooling demand reducible withheld,
      demandSupplyPlan policy accounting window subject plan = { plan with
        cooling := cooling
        demand := demand
        reducible := reducible
        withheld := withheld } := by
  unfold demandSupplyPlan
  by_cases hauth : ¬ plan.hasAuthority
  · rw [if_pos hauth]
    exact ⟨plan.cooling, plan.demand, plan.reducible, plan.withheld, rfl⟩
  · rw [if_neg hauth]
    exact ⟨_, _, _, _, rfl⟩

lemma demandSupplyPlan_settled (accounting : FairnessAccounting) (window : ServiceWindowId)
    (subject : Subject) (plan : SubjectPlan) :
    plan.Settled (demandSupplyPlan policy accounting window subject plan) := by
  obtain ⟨_, _, _, _, hwrites⟩ := demandSupplyPlan_writes accounting window subject plan
  rw [hwrites]
  exact ⟨by constructor <;> rfl, rfl, rfl, rfl⟩

lemma assignOutcome_decided (subject : Subject) (plan : SubjectPlan) :
    plan.Decided (assignOutcome policy subject plan) := by
  unfold assignOutcome
  split_ifs <;>
    first
      | exact .rfl'
      | exact ⟨⟨⟨rfl, rfl, rfl, rfl, rfl, rfl, rfl, rfl⟩, rfl, rfl, rfl⟩, rfl, rfl, rfl, rfl, rfl⟩

end FairnessGovernor
