/-
# Planning one subject

Everything `evaluate_fairness` computes for a subject on its own: whether the evidence speaks
for it with authority, its numbers against its entitlement, its starvation streaks, what it
demands and what it can give, and the outcome it is assigned.  Each function below is the body
of one of the source's loops over the subjects.
-/
import FairnessGovernor.Eval.Distributor
import FairnessGovernor.Model.Outcome

namespace FairnessGovernor

/-! ## Global evidence eligibility -/

/-- Why a request has no evidence authority. -/
structure EvidenceFailure where
  outcome : Outcome
  reason : ReasonCode
  code : StatusCode
deriving DecidableEq

/-- The checks of a snapshot against the request and the windows, in order. -/
def snapshotFailure (context : EvaluationContext) (policy : FairnessPolicy)
    (evidence : EvidenceSnapshot) : Option EvidenceFailure :=
  let request := context.request
  if evidence.id ≠ request.evidenceId ∨ evidence.generation ≠ request.evidenceGeneration then
    some ⟨.stale, .evidenceStaleGeneration, .staleEvidence⟩
  else if evidence.epoch ≠ context.currentEpoch then
    some ⟨.stale, .evidenceStaleEpoch, .staleEpoch⟩
  else if evidence.window ≠ request.window ∨
      evidence.windowGeneration ≠ request.windowGeneration then
    some ⟨.stale, .evidenceStaleWindow, .staleEvidence⟩
  else if context.lastCommittedWindow.valid ∧ request.window.valid ∧
      request.window.value ≤ context.lastCommittedWindow.value then
    some ⟨.stale, .evidenceStaleWindow, .staleEvidence⟩
  else if context.currentWindow.valid ∧ request.window.valid then
    if request.window.value > context.currentWindow.value then
      some ⟨.stale, .evidenceStaleWindow, .evidenceMissing⟩
    else if context.currentWindow.value.toNat - request.window.value.toNat >
        policy.maxEvidenceAgeWindows.toNat then
      some ⟨.stale, .evidenceStaleAge, .staleEvidence⟩
    else none
  else none

/-- The check of a snapshot's age on the request's clock. -/
def ageFailure (policy : FairnessPolicy) (evidence : EvidenceSnapshot) (nowNs : Int64) :
    Eval (Option EvidenceFailure) :=
  if policy.maxEvidenceAgeNs > 0 then
    if evidence.capturedAtNs > nowNs then
      .ok (some ⟨.stale, .evidenceStaleAge, .staleEvidence⟩)
    else do
      let age ← isub nowNs.toInt evidence.capturedAtNs.toInt
      return if age.toNat > policy.maxEvidenceAgeNs.toNat then
        some ⟨.stale, .evidenceStaleAge, .staleEvidence⟩ else none
  else .ok none

/-- Global evidence eligibility: the snapshot that has authority for the request, or why there
is none. -/
def eligibility (context : EvaluationContext) (policy : FairnessPolicy) :
    Eval (Except EvidenceFailure EvidenceSnapshot) :=
  let request := context.request
  if request.policyId ≠ policy.id ∨ request.policyGeneration ≠ policy.generation then
    .ok (.error ⟨.stale, .policyGenerationMismatch, .policyGenerationMismatch⟩)
  else if ¬ context.currentEpoch.valid ∨ policy.epoch ≠ context.currentEpoch ∨
      request.epoch ≠ context.currentEpoch then
    .ok (.error ⟨.stale, .evidenceStaleEpoch, .staleEpoch⟩)
  else
    match context.evidence with
    | none => .ok (.error ⟨.unknown, .evidenceAbsent, .evidenceMissing⟩)
    | some evidence =>
      match snapshotFailure context policy evidence with
      | some failure => .ok (.error failure)
      | none => do
        let aged ← ageFailure policy evidence request.nowNs
        return match aged with
          | some failure => .error failure
          | none => .ok evidence

/-! ## Plans -/

/-- Everything the planner needs about one subject. -/
structure SubjectPlan where
  hasAuthority : Bool := false
  outcome : Outcome := .unknown
  reason : ReasonCode := .evidenceAbsent
  served : ℕ := 0
  entitlement : ℕ := 0
  baseEntitlement : ℕ := 0
  groupEntitlement : ℕ := 0
  floorBinding : Bool := false
  thisWindowDeficit : ℕ := 0
  effectiveDeficit : ℕ := 0
  surplus : ℕ := 0
  deviation : ℤ := 0
  unservedStreak : UInt32 := 0
  belowFloorStreak : UInt32 := 0
  starving : Bool := false
  cooling : Bool := false
  demand : ℕ := 0
  reducible : ℕ := 0
  withheld : ℕ := 0
  augment : ℕ := 0
  reduce : ℕ := 0
  blocked : Bool := false
  carry : CarryOutcome := {}
  observedPriority : PriorityClassRef := {}
  observedQos : QosClassRef := {}
deriving Inhabited

/-- The plan of every subject when the request has no evidence authority. -/
def failedPlan (request : EvaluationRequest) (failure : EvidenceFailure) : SubjectPlan :=
  { outcome :=
      if failure.outcome = .unknown ∧ request.treatMissingAsUnknown then .unknown else .stale
    reason := failure.reason }

/-- The plan of a subject before its numbers: whether the snapshot speaks for it. -/
def authorityPlan (request : EvaluationRequest) (accounting : FairnessAccounting)
    (evidence : EvidenceSnapshot) (subject : Subject) : SubjectPlan :=
  match evidence.find subject.id with
  | none =>
    { outcome := if request.treatMissingAsUnknown then .unknown else .stale
      reason := .evidenceAbsent }
  | some observation =>
    if observation.generation ≠ subject.generation then
      { outcome := .stale, reason := .subjectGenerationMismatch }
    else if subject.priority.present ∧ observation.priority ≠ subject.priority then
      { outcome := .stale, reason := .priorityReferenceMismatch }
    else if subject.qos.present ∧ observation.qos ≠ subject.qos then
      { outcome := .stale, reason := .priorityReferenceMismatch }
    else if ∃ entry ∈ accounting.find subject.id, entry.generation ≠ subject.generation then
      { outcome := .stale, reason := .subjectGenerationMismatch }
    else
      { hasAuthority := true
        outcome := .fair
        reason := .withinFairBand
        served := observation.servedUnits.toNat
        observedPriority := observation.priority
        observedQos := observation.qos }

/-- `kStreakSaturation`. -/
def kStreakSaturation : UInt32 := 1000000

/-- `bump_streak`. -/
def bumpStreak (value : UInt32) : UInt32 :=
  if value ≥ kStreakSaturation then kStreakSaturation else value + 1

section Subject

variable {policy : FairnessPolicy}

/-- The per-subject authoritative numbers. -/
def numberPlan (accounting : FairnessAccounting) (distribution : Distribution policy)
    (i : SubjectIndex policy) (plan : SubjectPlan) : Eval SubjectPlan :=
  if ¬ plan.hasAuthority then .ok plan
  else do
    let subject := subjectAt policy i
    let node := (byId policy subject.group).or (List.finRange _).head?
    let entitlement := distribution.effective.subject i
    let entry := accounting.find subject.id
    let carriedDeficit :=
      entry.elim 0 fun e => min e.cumulativeDeficit.toNat policy.maxCarryUnits.toNat
    let thisWindowDeficit := if plan.served < entitlement then entitlement - plan.served else 0
    let thisWindowSurplus := if plan.served > entitlement then plan.served - entitlement else 0
    let effectiveDeficit ← orFail .arithmeticOverflow "effective deficit overflows"
      (checkedAdd thisWindowDeficit carriedDeficit)
    let deviation ← signedDiff plan.served entitlement
    let net ← signedDiff entitlement plan.served
    let carry ← orFail .arithmeticOverflow "carry application overflows"
      (applyWindowCarry (entry.getD {}) net policy.maxCarryUnits.toNat)
    return { plan with
      entitlement := entitlement
      baseEntitlement := distribution.base.subject i
      floorBinding := distribution.effective.floorBinding i
      groupEntitlement := node.elim 0 distribution.effective.allocation
      surplus := thisWindowSurplus
      effectiveDeficit := effectiveDeficit
      thisWindowDeficit := thisWindowDeficit
      deviation := deviation
      unservedStreak :=
        if plan.served = 0 then bumpStreak (entry.elim 0 (·.unservedStreak)) else 0
      belowFloorStreak :=
        if subject.guaranteeFloor > 0 ∧ plan.served < subject.guaranteeFloor.toNat then
          bumpStreak (entry.elim 0 (·.belowFloorStreak))
        else 0
      carry := carry }

end Subject

/-- The larger of the durable and the observed streaks, and whether they starve the subject. -/
def starvationPlan (evidence : EvidenceSnapshot) (subject : Subject) (plan : SubjectPlan) :
    SubjectPlan :=
  if ¬ plan.hasAuthority then plan
  else
    match evidence.find subject.id with
    | none => plan
    | some observation =>
      let unservedStreak := max plan.unservedStreak observation.unservedStreak
      let belowFloorStreak := max plan.belowFloorStreak observation.belowFloorStreak
      let unservedStarving : Bool :=
        subject.starvationWindows > 0 ∧ unservedStreak ≥ subject.starvationWindows
      let floorStarving : Bool :=
        subject.guaranteeStarvationWindows > 0 ∧ subject.guaranteeFloor > 0 ∧
          belowFloorStreak ≥ subject.guaranteeStarvationWindows
      { plan with
        unservedStreak := unservedStreak
        belowFloorStreak := belowFloorStreak
        starving := unservedStarving || floorStarving
        reason :=
          if unservedStarving then .starvationUnserved
          else if floorStarving then .starvationBelowFloor
          else plan.reason }

/-- A subject cools down for a while after a correction, unless it starves. -/
def isCooling (policy : FairnessPolicy) (entry : Option SubjectAccounting)
    (window : ServiceWindowId) (starving : Bool) : Bool :=
  policy.cooldownWindows > 0 ∧ (∃ e ∈ entry, e.lastCorrectionWindow.valid ∧ window.valid ∧
    window.value ≥ e.lastCorrectionWindow.value ∧
    window.value.toNat - e.lastCorrectionWindow.value.toNat < policy.cooldownWindows.toNat) ∧
    ¬ starving

/-- What a subject demands and what it can give, within its caps and its floor. -/
def demandSupplyPlan (policy : FairnessPolicy) (accounting : FairnessAccounting)
    (window : ServiceWindowId) (subject : Subject) (plan : SubjectPlan) : SubjectPlan :=
  if ¬ plan.hasAuthority then plan
  else
    let cooling :=
      plan.cooling || isCooling policy (accounting.find subject.id) window plan.starving
    let demandSide : Bool := plan.effectiveDeficit > policy.fairBandUnits.toNat
    let cap := min plan.surplus subject.maxReduceUnits.toNat
    let headroom :=
      if plan.served > subject.guaranteeFloor.toNat then
        plan.served - subject.guaranteeFloor.toNat else 0
    let allowed := if subject.protectedObligation then min cap headroom else cap
    { plan with
      cooling := cooling
      demand :=
        if demandSide && !cooling then
          min plan.effectiveDeficit (min subject.maxAugmentUnits.toNat kMaxServiceUnits)
        else plan.demand
      reducible := if plan.surplus > 0 then allowed else plan.reducible
      withheld := if plan.surplus > 0 then cap - allowed else plan.withheld }

/-- The outcome and reason of a subject. -/
def assignOutcome (policy : FairnessPolicy) (subject : Subject) (plan : SubjectPlan) :
    SubjectPlan :=
  if ¬ plan.hasAuthority then plan
  else if plan.starving then
    if plan.blocked then
      { plan with outcome := .blockedByStrongerObligation, reason := .protectedObligationHeld }
    else { plan with outcome := .starvationRisk }
  else if plan.effectiveDeficit > policy.fairBandUnits.toNat then
    if plan.blocked then
      { plan with outcome := .blockedByStrongerObligation, reason := .protectedObligationHeld }
    else if plan.augment > 0 then
      { plan with
        outcome :=
          if plan.effectiveDeficit ≥ policy.correctionThresholdUnits.toNat then
            .correctionRequired else .underServed
        reason :=
          if plan.floorBinding then .guaranteeFloorDeficit else .weightedShareDeficit }
    else
      { plan with
        outcome := .underServed
        reason :=
          if plan.cooling then .correctiveCooldown
          else if subject.maxAugmentUnits = 0 then .policyBoundReached
          else if plan.effectiveDeficit > plan.demand then .subjectCapReached
          else .correctiveBudgetExhausted }
  else if plan.surplus > policy.fairBandUnits.toNat then
    { plan with
      outcome := .overServed
      reason := if plan.floorBinding then .guaranteeFloorSurplus else .weightedShareSurplus }
  else { plan with outcome := .fair, reason := .withinFairBand }

end FairnessGovernor
