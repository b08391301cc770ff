/-
# The pure fairness evaluation

`evaluateFairness` strings the stages of `evaluate_fairness` together: eligibility, the plans
with their authority, the whole and its distribution, the per-subject numbers, demand and
supply, the correction budget and its grants, outcomes, and the decision's records.
-/
import FairnessGovernor.Eval.Plan
import FairnessGovernor.Lib.Apportion

namespace FairnessGovernor

open Apportion

/-! ## Notes -/

/-- `kMaxNotes`. -/
def kMaxNotes : ℕ := 64
/-- `kMaxNoteDetail`. -/
def kMaxNoteDetail : ℕ := 192

/-- `add_note`. -/
def addNote (notes : List DiagnosticNote) (code : StatusCode) (reason : ReasonCode)
    (id : SubjectId) (detail : String) : List DiagnosticNote :=
  if notes.length ≥ kMaxNotes then notes
  else notes ++ [{ code := code, reason := reason, subject := id,
                   detail := (detail.take kMaxNoteDetail).toString }]

/-- The notes on the evidence: why it has no authority, or the subjects it names in vain. -/
def evidenceNotes (policy : FairnessPolicy) :
    Except EvidenceFailure EvidenceSnapshot → List DiagnosticNote
  | .error failure =>
    addNote [] failure.code failure.reason {} "no evidence authority for this request"
  | .ok evidence => evidence.observations.foldl (fun notes observation =>
      if policy.subjects.any (fun subject => subject.id = observation.id) then notes
      else addNote notes .notFound .none observation.id
        "evidence names a subject that the policy does not govern; ignored") []

section Stages

variable {policy : FairnessPolicy}

/-- One plan for every subject. -/
abbrev Plans (policy : FairnessPolicy) := SubjectIndex policy → SubjectPlan

/-! ## Authority and the whole -/

/-- The plans before their numbers. -/
def authorityPlans (request : EvaluationRequest) (accounting : FairnessAccounting)
    (eligible : Except EvidenceFailure EvidenceSnapshot) : Plans policy :=
  match eligible with
  | .error failure => fun _ => failedPlan request failure
  | .ok evidence => fun i => authorityPlan request accounting evidence (subjectAt policy i)

/-- The observed service that is redistributed. -/
def observedTotal (plans : Plans policy) : Eval ℕ :=
  orFail .arithmeticOverflow "total observed service overflows"
    (checkedTotal (List.ofFn fun i => if (plans i).hasAuthority then (plans i).served else 0) 0)

/-- The plans after the streaks of the observations were taken in. -/
def starvationPlans (eligible : Except EvidenceFailure EvidenceSnapshot) (plans : Plans policy) :
    Plans policy :=
  match eligible with
  | .error _ => plans
  | .ok evidence => fun i => starvationPlan evidence (subjectAt policy i) (plans i)

/-! ## The correction budget -/

/-- What can be taken, what is asked for, and what a protected obligation holds back. -/
structure CorrectionTotals where
  pool : ℕ
  demandTotal : ℕ
  withheldTotal : ℕ

/-- The totals over all plans. -/
def correctionTotals (plans : Plans policy) : Eval CorrectionTotals := do
  let total := fun f => orFail .arithmeticOverflow "correction totals overflow"
    (checkedTotal (List.ofFn fun i => f (plans i)) 0)
  let pool ← total (·.reducible)
  let demandTotal ← total (·.demand)
  let withheldTotal ← total (·.withheld)
  return ⟨pool, demandTotal, withheldTotal⟩

/-- The part of the whole that the basis-point bound lets a plan move. -/
def budgetBps (policy : FairnessPolicy) (whole : ℕ) : Eval ℕ :=
  if policy.maxCorrectionBps < 100000 then
    let computed := mulDiv whole policy.maxCorrectionBps.toNat kBasisPointScale
    if ¬ computed.ok then fail .arithmeticOverflow "basis point budget overflows"
    else .ok computed.value
  else .ok (kMaxServiceUnits * kMaxSubjects)

/-- The units a plan may move. -/
def authorizedUnits (policy : FairnessPolicy) (totals : CorrectionTotals) (bps : ℕ) : ℕ :=
  min totals.pool (min totals.demandTotal (min policy.maxCorrectionUnits.toNat bps))

/-! ## Grants and reductions -/

/-- Starvation first, then the largest recognized deficit, then the stronger obligation, then
identity. -/
def demandBefore (plans : Plans policy) (a b : SubjectIndex policy) : Bool :=
  if (plans a).starving ≠ (plans b).starving then (plans a).starving
  else if (plans a).demand ≠ (plans b).demand then (plans a).demand > (plans b).demand
  else if (subjectAt policy a).obligationRank ≠ (subjectAt policy b).obligationRank then
    (subjectAt policy a).obligationRank > (subjectAt policy b).obligationRank
  else (subjectAt policy a).id.value < (subjectAt policy b).id.value

/-- The order in which augmentation is granted. -/
def demandOrder (plans : Plans policy) : List (SubjectIndex policy) :=
  stdSort (demandBefore plans)
    ((List.finRange _).filter fun i => (plans i).hasAuthority ∧ (plans i).demand > 0)

/-- The largest reducible surplus first, then the weaker obligation, then identity. -/
def supplyBefore (plans : Plans policy) (a b : SubjectIndex policy) : Bool :=
  if (plans a).reducible ≠ (plans b).reducible then (plans a).reducible > (plans b).reducible
  else if (subjectAt policy a).obligationRank ≠ (subjectAt policy b).obligationRank then
    (subjectAt policy a).obligationRank < (subjectAt policy b).obligationRank
  else (subjectAt policy a).id.value < (subjectAt policy b).id.value

/-- The order in which reductions are taken. -/
def supplyOrder (plans : Plans policy) : List (SubjectIndex policy) :=
  stdSort (supplyBefore plans)
    ((List.finRange _).filter fun i => (plans i).hasAuthority ∧ (plans i).reducible > 0)

/-- The authorized units, granted in demand order. -/
def grantPlans (plans : Plans policy) (authorized : ℕ) : Eval (Plans policy) := do
  let remaining := left (fun i => (plans i).demand) (demandOrder plans) authorized
  let augmentTotal ← usub authorized remaining
  if augmentTotal ≠ authorized then
    fail .internal "augmentation did not consume the authorized budget"
  else .ok fun i => { plans i with
    augment := takes (fun i => (plans i).demand) (demandOrder plans) authorized i }

/-- The authorized units, taken in supply order. -/
def reducePlans (plans : Plans policy) (authorized : ℕ) : Eval (Plans policy) :=
  if left (fun i => (plans i).reducible) (supplyOrder plans) authorized ≠ 0 then
    fail .internal "reductions did not cover the authorized budget"
  else .ok fun i => { plans i with
    reduce := takes (fun i => (plans i).reducible) (supplyOrder plans) authorized i }

/-! ## Unsatisfied demand -/

/-- The recognized deficit that stays after everything the governor may propose, summed. -/
def unsatisfiedDemand (policy : FairnessPolicy) (plans : Plans policy) : Eval ℕ :=
  (List.finRange _).foldlM (fun unsatisfied i =>
    if ¬ (plans i).hasAuthority ∨ (plans i).cooling ∨
        (plans i).effectiveDeficit ≤ policy.fairBandUnits.toNat then .ok unsatisfied
    else do
      let unmet ← usub (plans i).effectiveDeficit (plans i).augment
      orFail .arithmeticOverflow "unsatisfied demand overflows" (checkedAdd unsatisfied unmet)) 0

/-- Only the part of a shortfall that the subject's own cap does not explain is attributed to
the withheld budget. -/
def blockPlans (plans : Plans policy) (blocked : Bool) : Eval (Plans policy) :=
  collect fun i =>
    if i ∈ demandOrder plans then do
      let plan := plans i
      let subjectCap := (subjectAt policy i).maxAugmentUnits.toNat
      let capUnmet :=
        if plan.effectiveDeficit > subjectCap then plan.effectiveDeficit - subjectCap else 0
      let unmet ← usub plan.effectiveDeficit plan.augment
      return { plan with blocked := blocked && decide (unmet > capUnmet) }
    else .ok (plans i)

/-! ## The records of the decision -/

/-- `static_cast<std::int32_t>` of an unsigned word. -/
def toInt32 (a : UInt32) : Eval ℤ := if a.toNat < 2 ^ 31 then .ok a.toNat else .error .wraps

/-- The modifier a subject is reported with, and whether the policy bound clips it. -/
def appliedModifier (policy : FairnessPolicy) (subject : Subject) : Eval (Int32 × Bool) := do
  let bound ← toInt32 policy.maxPriorityModifierBps
  return if subject.priorityModifierBps.toInt > bound then (Int32.ofInt bound, true)
    else if subject.priorityModifierBps.toInt < -bound then (Int32.ofInt (-bound), true)
    else (subject.priorityModifierBps, false)

/-- The recognized deficit a subject is left with. -/
def unsatisfiedUnits (policy : FairnessPolicy) (plan : SubjectPlan) : Eval ℕ :=
  if plan.effectiveDeficit > policy.fairBandUnits.toNat then
    usub plan.effectiveDeficit plan.augment
  else .ok 0

/-- The state a subject is reported in. -/
def subjectState (policy : FairnessPolicy) (subject : Subject) (plan : SubjectPlan) :
    Eval SubjectFairnessState := do
  let unsatisfied ← unsatisfiedUnits policy plan
  let delta ← signedDiff plan.entitlement plan.baseEntitlement
  let modifier ← appliedModifier policy subject
  return {
    id := subject.id
    generation := subject.generation
    group := subject.group
    label := subject.label
    outcome := plan.outcome
    reason := plan.reason
    hasAuthority := plan.hasAuthority
    isProtectedObligation := subject.protectedObligation
    obligationRank := subject.obligationRank
    guaranteeFloorUnits := subject.guaranteeFloor.toNat
    servedUnits := plan.served
    entitlementUnits := plan.entitlement
    baseEntitlementUnits := plan.baseEntitlement
    groupEntitlementUnits := plan.groupEntitlement
    deviationUnits := plan.deviation
    deficitUnits := plan.thisWindowDeficit
    surplusUnits := plan.surplus
    cumulativeDeficitAfter := plan.carry.cumulativeDeficit
    cumulativeSurplusAfter := plan.carry.cumulativeSurplus
    unservedStreak := plan.unservedStreak
    belowFloorStreak := plan.belowFloorStreak
    starvationLimitWindows := subject.starvationWindows
    guaranteeStarvationLimitWindows := subject.guaranteeStarvationWindows
    proposedAugmentUnits := plan.augment
    proposedReduceUnits := plan.reduce
    unsatisfiedDemandUnits := unsatisfied
    expectedPriority := subject.priority
    observedPriority := plan.observedPriority
    priorityDeltaUnits := delta
    appliedModifierBps := modifier.1
    modifierClipped := modifier.2 }

/-- What the group rollups have summed up so far. -/
structure Rollup (policy : FairnessPolicy) where
  served : GroupIndex policy → ℕ := fun _ => 0
  withheld : GroupIndex policy → ℕ := fun _ => 0

/-- `if (condition) total += units;` -/
def addWhen (condition : Prop) [Decidable condition] (total units : ℕ) : Eval ℕ :=
  if condition then uadd total units else .ok total

/-- Adds one subject to every group from `cursor` up to its root.  The source loops until it
reaches the root; the first argument bounds the length of the way up. -/
def rollUp (tree : GroupTree policy) (plan : SubjectPlan) :
    ℕ → GroupIndex policy → Rollup policy → Eval (Rollup policy)
  | 0, _, _ => .error .tooDeep
  | steps + 1, cursor, rollup => do
    let served ← addWhen plan.hasAuthority (rollup.served cursor) plan.served
    let withheld ← addWhen (plan.withheld > 0) (rollup.withheld cursor) plan.withheld
    let rollup : Rollup policy :=
      { served := Function.update rollup.served cursor served
        withheld := Function.update rollup.withheld cursor withheld }
    match tree.parentNode cursor with
    | none => .ok rollup
    | some parent => rollUp tree plan steps parent rollup

/-- Adds one subject to its group and everything above it. -/
def rollUpSubject (tree : GroupTree policy) (plans : Plans policy) (i : SubjectIndex policy)
    (rollup : Rollup policy) : Eval (Rollup policy) :=
  match byId policy (subjectAt policy i).group with
  | none => .ok rollup
  | some node => rollUp tree (plans i) kMaxGroupDepth node rollup

/-- The rollups of all subjects. -/
def groupRollups (tree : GroupTree policy) (plans : Plans policy) : Eval (Rollup policy) :=
  (List.finRange _).foldlM (fun rollup i => rollUpSubject tree plans i rollup) {}

/-- The state a group is reported in. -/
def groupState (tree : GroupTree policy) (pass : PassState policy) (rollup : Rollup policy)
    (g : GroupIndex policy) : Eval GroupFairnessState := do
  let group := groupAt policy g
  let deviation ← signedDiff (rollup.served g) (pass.allocation g)
  return {
    id := group.id
    generation := group.generation
    parent := group.parent
    depth := tree.depth g
    entitlementUnits := pass.allocation g
    servedUnits := rollup.served g
    deviationUnits := deviation
    isProtectedObligation := group.protectedObligation
    obligationRank := group.obligationRank
    guaranteeFloorUnits := group.guaranteeFloor.toNat
    withheldCorrection := rollup.withheld g > 0
    label := group.label }

/-! ## Corrective intents -/

/-- `intervention_id`. -/
def interventionId (window subject : UInt64) (direction : UInt8) (attempt : UInt32) : UInt64 :=
  let digest := fnv1a64 (ByteWriter.u64 window ++ ByteWriter.u64 subject ++
    ByteWriter.u8 direction ++ ByteWriter.u32 attempt)
  if digest = 0 then 1 else digest

/-- The intents so far and the intervention generation they have reached. -/
structure IntentState where
  generation : InterventionGeneration
  intents : List CorrectiveIntent := []

/-- A new intent gets the next intervention generation. -/
def pushIntent (state : IntentState) (make : InterventionGeneration → CorrectiveIntent) :
    Eval IntentState :=
  if state.intents.length ≥ kMaxCorrectiveIntents then
    fail .limitExceeded "corrective intent count exceeds the bound"
  else .ok
    { generation := state.generation.next
      intents := state.intents ++ [make state.generation.next] }

/-- The intent to augment a subject. -/
def augmentIntent (request : EvaluationRequest) (subject : Subject) (plan : SubjectPlan)
    (generation : InterventionGeneration) : CorrectiveIntent :=
  { id := ⟨interventionId request.window.value subject.id.value
      CorrectionDirection.augment.toUInt8 request.attempt⟩
    generation := generation
    direction := .augment
    subject := subject.id
    subjectGeneration := subject.generation
    group := subject.group
    units := plan.augment
    bound := if plan.augment < plan.demand then .budgetExhausted else .demandSatisfied
    reason := plan.reason
    fromStarvation := plan.starving
    fromProtectedObligation := subject.protectedObligation
    obligationRank := subject.obligationRank }

/-- The intent to reduce a subject. -/
def reduceIntent (request : EvaluationRequest) (subject : Subject) (plan : SubjectPlan)
    (generation : InterventionGeneration) : CorrectiveIntent :=
  { id := ⟨interventionId request.window.value subject.id.value
      CorrectionDirection.reduce.toUInt8 request.attempt⟩
    generation := generation
    direction := .reduce
    subject := subject.id
    subjectGeneration := subject.generation
    group := subject.group
    units := plan.reduce
    bound :=
      if plan.reduce = plan.reducible then
        if plan.withheld > 0 then .protectedObligation else .demandSatisfied
      else if plan.reduce < plan.reducible then .budgetExhausted
      else .policyTotalBudget
    reason := .weightedShareSurplus
    fromStarvation := false
    fromProtectedObligation := subject.protectedObligation
    obligationRank := subject.obligationRank }

/-- The bounded corrective intents: the augmentations, then the reductions. -/
def correctiveIntents (request : EvaluationRequest) (generation : InterventionGeneration)
    (plans : Plans policy) : Eval IntentState := do
  let augmented ← (demandOrder plans).foldlM (fun state i =>
    if (plans i).augment = 0 then .ok state
    else pushIntent state (augmentIntent request (subjectAt policy i) (plans i)))
    { generation := generation }
  (supplyOrder plans).foldlM (fun state i =>
    if (plans i).reduce = 0 then .ok state
    else pushIntent state (reduceIntent request (subjectAt policy i) (plans i))) augmented

/-! ## Aggregation -/

/-- The number of subjects with each outcome. -/
def outcomeCounts (outcomes : List Outcome) : OutcomeCounts :=
  { fair := outcomes.count .fair
    overServed := outcomes.count .overServed
    underServed := outcomes.count .underServed
    starvationRisk := outcomes.count .starvationRisk
    correctionRequired := outcomes.count .correctionRequired
    blockedByStrongerObligation := outcomes.count .blockedByStrongerObligation
    unknown := outcomes.count .unknown
    stale := outcomes.count .stale }

/-- The worst outcome. -/
def aggregateOutcome (outcomes : List Outcome) : Outcome :=
  outcomes.foldl (fun aggregate outcome =>
    if outcomeRank outcome > outcomeRank aggregate then outcome else aggregate) .fair

end Stages

/-! ## The evaluation -/

/-- The identities and generations that justify a decision. -/
def decisionAuthority (context : EvaluationContext) (policy : FairnessPolicy)
    (accounting : FairnessAccounting) : AuthorityVector :=
  { policyId := policy.id
    policyGeneration := policy.generation
    epoch := context.currentEpoch
    evidenceId := context.request.evidenceId
    evidenceGeneration := context.request.evidenceGeneration
    window := context.request.window
    windowGeneration := context.request.windowGeneration
    accountingGeneration := accounting.generation
    requestId := context.request.requestId
    attempt := context.request.attempt }

/-- What the planning stages hand to the records of the decision. -/
structure Planned (policy : FairnessPolicy) where
  plans : Plans policy
  distribution : Distribution policy
  correction : CorrectionSummary

/-- The stages up to the per-subject numbers. -/
def numberPlans {policy : FairnessPolicy} (accounting : FairnessAccounting)
    (distribution : Distribution policy) (plans : Plans policy) : Eval (Plans policy) :=
  collect fun i => numberPlan accounting distribution i (plans i)

/-- The stages that move units: from the plans with demand and supply to their outcomes. -/
def correctPlans {policy : FairnessPolicy} (whole : ℕ) (authorityMissing : Bool)
    (plans : Plans policy) : Eval (Plans policy × CorrectionSummary) := do
  let totals ← correctionTotals plans
  let bps ← budgetBps policy whole
  let authorized := authorizedUnits policy totals bps
  let granted ← grantPlans plans authorized
  let reduced ← reducePlans granted authorized
  let unsatisfied ← unsatisfiedDemand policy reduced
  let blocked : Bool :=
    unsatisfied > 0 ∧ totals.withheldTotal > 0 ∧ authorized < totals.demandTotal
  let held ← blockPlans reduced blocked
  return (fun i => assignOutcome policy (subjectAt policy i) (held i), {
    reduciblePoolUnits := totals.pool
    demandUnits := totals.demandTotal
    authorizedBudgetUnits := authorized
    augmentUnits := authorized
    reduceUnits := authorized
    withheldUnits := totals.withheldTotal
    unsatisfiedDemandUnits := unsatisfied
    boundedByPolicyTotal :=
      policy.maxCorrectionUnits.toNat < min totals.pool totals.demandTotal ∧
        policy.maxCorrectionUnits.toNat ≤ bps
    boundedByPolicyBps :=
      bps < min totals.pool totals.demandTotal ∧ bps < policy.maxCorrectionUnits.toNat
    protectedObligationBlocked := blocked
    authorityMissing := authorityMissing })

/-- The stages after eligibility, up to the outcomes. -/
def plan {policy : FairnessPolicy} (request : EvaluationRequest)
    (accounting : FairnessAccounting) (tree : GroupTree policy)
    (eligible : Except EvidenceFailure EvidenceSnapshot) : Eval (Planned policy) := do
  let authority := authorityPlans request accounting eligible
  let whole ← observedTotal authority
  let distribution ← distribute tree whole
  let numbered ← numberPlans accounting distribution authority
  let starved := starvationPlans eligible numbered
  let asking : Plans policy := fun i =>
    demandSupplyPlan policy accounting request.window (subjectAt policy i) (starved i)
  let corrected ← correctPlans whole (!eligible.isOk) asking
  return { plans := corrected.1, distribution := distribution, correction := corrected.2 }

/-- `evaluate_fairness`, once the policy and the accounting are there. -/
def evaluateWith (context : EvaluationContext) (policy : FairnessPolicy)
    (accounting : FairnessAccounting) : Eval FairnessDecision := do
  let tree ← ofStatus (build policy)
  let eligible ← eligibility context policy
  let planned ← plan context.request accounting tree eligible
  let pass := planned.distribution.effective
  let subjects ← collect fun i => subjectState policy (subjectAt policy i) (planned.plans i)
  let rollup ← groupRollups tree planned.plans
  let groups ← collect fun g => groupState tree pass rollup g
  let intents ← correctiveIntents context.request accounting.interventionGeneration planned.plans
  let outcomes := List.ofFn fun i => (planned.plans i).outcome
  let decision : FairnessDecision :=
    { authority := decisionAuthority context policy accounting
      outcome := aggregateOutcome outcomes
      counts := outcomeCounts outcomes
      subjects := List.ofFn subjects
      groups := List.ofFn groups
      intents := intents.intents
      correction := planned.correction
      notes :=
        let notes := evidenceNotes policy eligible
        if pass.overcommit then
          addNote notes .policyOvercommit .overcommitDetected {}
            "declared guarantee floors exceed the whole being distributed"
        else notes }
  return { decision with contentDigest := decisionDigest decision }

/-- `evaluate_fairness`. -/
def evaluateFairness (context : EvaluationContext) : Eval FairnessDecision :=
  match context.policy, context.accounting with
  | some policy, some accounting => evaluateWith context policy accounting
  | _, _ => fail .invalidArgument "policy and accounting are required"

end FairnessGovernor
