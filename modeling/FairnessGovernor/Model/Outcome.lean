/-
# Outcomes, corrective intent and the decision

The vocabulary of a decision, the request it answers and the context it is computed in, and
the digest that binds a decision's content.  The units in a decision are the evaluator's own
quantities, numbers and not words; the digest writes each as the word that holds it.
-/
import FairnessGovernor.Model.Accounting
import FairnessGovernor.Model.Evidence

namespace FairnessGovernor

/-- The authoritative fairness outcome vocabulary. -/
inductive Outcome
  | fair | overServed | underServed | starvationRisk | correctionRequired
  | blockedByStrongerObligation | unknown | stale
deriving DecidableEq, Inhabited

/-- The underlying value of an `Outcome`. -/
def Outcome.toUInt8 : Outcome → UInt8
  | fair => 0
  | overServed => 1
  | underServed => 2
  | starvationRisk => 3
  | correctionRequired => 4
  | blockedByStrongerObligation => 5
  | unknown => 6
  | stale => 7

/-- `outcome_rank`: UNKNOWN and STALE dominate every positive outcome. -/
def outcomeRank : Outcome → ℕ
  | .fair => 0
  | .overServed => 1
  | .underServed => 2
  | .starvationRisk => 3
  | .correctionRequired => 4
  | .blockedByStrongerObligation => 5
  | .unknown => 6
  | .stale => 7

/-- Why a subject is not simply FAIR. -/
inductive ReasonCode
  | none | withinFairBand | weightedShareDeficit | weightedShareSurplus | guaranteeFloorDeficit
  | guaranteeFloorSurplus | starvationUnserved | starvationBelowFloor | evidenceAbsent
  | evidenceStaleGeneration | evidenceStaleWindow | evidenceStaleEpoch | evidenceStaleAge
  | subjectGenerationMismatch | policyGenerationMismatch | priorityReferenceMismatch
  | correctiveBudgetExhausted | correctiveCooldown | protectedObligationHeld
  | subjectCapReached | policyBoundReached | noCorrectionAvailable | overcommitDetected
deriving DecidableEq, Inhabited

/-- The underlying value of a `ReasonCode`. -/
def ReasonCode.toUInt16 : ReasonCode → UInt16
  | none => 0
  | withinFairBand => 1
  | weightedShareDeficit => 2
  | weightedShareSurplus => 3
  | guaranteeFloorDeficit => 4
  | guaranteeFloorSurplus => 5
  | starvationUnserved => 6
  | starvationBelowFloor => 7
  | evidenceAbsent => 8
  | evidenceStaleGeneration => 9
  | evidenceStaleWindow => 10
  | evidenceStaleEpoch => 11
  | evidenceStaleAge => 12
  | subjectGenerationMismatch => 13
  | policyGenerationMismatch => 14
  | priorityReferenceMismatch => 15
  | correctiveBudgetExhausted => 16
  | correctiveCooldown => 17
  | protectedObligationHeld => 18
  | subjectCapReached => 19
  | policyBoundReached => 20
  | noCorrectionAvailable => 21
  | overcommitDetected => 22

/-- Which policy bound limited a corrective intent. -/
inductive CorrectionBound
  | none | subjectAugmentCap | subjectReduceCap | policyTotalBudget | policyBasisPoints
  | protectedObligation | cooldown | budgetExhausted | demandSatisfied | authorityMissing
deriving DecidableEq, Inhabited

/-- The underlying value of a `CorrectionBound`. -/
def CorrectionBound.toUInt8 : CorrectionBound → UInt8
  | none => 0
  | subjectAugmentCap => 1
  | subjectReduceCap => 2
  | policyTotalBudget => 3
  | policyBasisPoints => 4
  | protectedObligation => 5
  | cooldown => 6
  | budgetExhausted => 7
  | demandSatisfied => 8
  | authorityMissing => 9

/-- Direction of a corrective fairness intent. -/
inductive CorrectionDirection
  | augment | reduce
deriving DecidableEq, Inhabited

/-- The underlying value of a `CorrectionDirection`. -/
def CorrectionDirection.toUInt8 : CorrectionDirection → UInt8
  | augment => 0
  | reduce => 1

/-- Exactly which generations, epoch and incarnation justified a decision. -/
structure AuthorityVector where
  policyId : FairnessPolicyId := {}
  policyGeneration : FairnessPolicyGeneration := {}
  epoch : FabricEpoch := {}
  evidenceId : EvidenceSnapshotId := {}
  evidenceGeneration : EvidenceSnapshotGeneration := {}
  window : ServiceWindowId := {}
  windowGeneration : ServiceWindowGeneration := {}
  accountingGeneration : UInt64 := 0
  governor : Incarnation := {}
  requestId : UInt64 := 0
  attempt : UInt32 := 0
deriving DecidableEq, Inhabited

/-- Per-subject authoritative fairness state and explanation. -/
structure SubjectFairnessState where
  id : SubjectId := {}
  generation : SubjectGeneration := {}
  group : FairnessGroupId := {}
  outcome : Outcome := .unknown
  reason : ReasonCode := .none
  hasAuthority : Bool := false
  isProtectedObligation : Bool := false
  obligationRank : UInt32 := 0
  groupEntitlementUnits : ℕ := 0
  entitlementUnits : ℕ := 0
  baseEntitlementUnits : ℕ := 0
  guaranteeFloorUnits : ℕ := 0
  priorityDeltaUnits : ℤ := 0
  appliedModifierBps : Int32 := 0
  modifierClipped : Bool := false
  servedUnits : ℕ := 0
  deviationUnits : ℤ := 0
  deficitUnits : ℕ := 0
  surplusUnits : ℕ := 0
  cumulativeDeficitAfter : ℕ := 0
  cumulativeSurplusAfter : ℕ := 0
  unservedStreak : UInt32 := 0
  belowFloorStreak : UInt32 := 0
  starvationLimitWindows : UInt32 := 0
  guaranteeStarvationLimitWindows : UInt32 := 0
  proposedAugmentUnits : ℕ := 0
  proposedReduceUnits : ℕ := 0
  unsatisfiedDemandUnits : ℕ := 0
  expectedPriority : PriorityClassRef := {}
  observedPriority : PriorityClassRef := {}
  label : ByteBuffer := []
deriving DecidableEq, Inhabited

/-- Aggregate state of one fairness group. -/
structure GroupFairnessState where
  id : FairnessGroupId := {}
  generation : FairnessGroupGeneration := {}
  parent : FairnessGroupId := {}
  depth : ℕ := 0
  entitlementUnits : ℕ := 0
  servedUnits : ℕ := 0
  deviationUnits : ℤ := 0
  isProtectedObligation : Bool := false
  obligationRank : UInt32 := 0
  guaranteeFloorUnits : ℕ := 0
  withheldCorrection : Bool := false
  label : ByteBuffer := []
deriving DecidableEq, Inhabited

/-- One bounded corrective fairness intent. -/
structure CorrectiveIntent where
  id : InterventionId := {}
  generation : InterventionGeneration := {}
  direction : CorrectionDirection := .augment
  subject : SubjectId := {}
  subjectGeneration : SubjectGeneration := {}
  group : FairnessGroupId := {}
  units : ℕ := 0
  bound : CorrectionBound := .none
  reason : ReasonCode := .none
  fromStarvation : Bool := false
  fromProtectedObligation : Bool := false
  obligationRank : UInt32 := 0
deriving DecidableEq, Inhabited

/-- Summary of the bounded corrective plan. -/
structure CorrectionSummary where
  reduciblePoolUnits : ℕ := 0
  demandUnits : ℕ := 0
  authorizedBudgetUnits : ℕ := 0
  augmentUnits : ℕ := 0
  reduceUnits : ℕ := 0
  withheldUnits : ℕ := 0
  unsatisfiedDemandUnits : ℕ := 0
  cooldownSuppressed : ℕ := 0
  boundedByPolicyTotal : Bool := false
  boundedByPolicyBps : Bool := false
  protectedObligationBlocked : Bool := false
  authorityMissing : Bool := false
deriving DecidableEq, Inhabited

/-- Bounded diagnostic notes attached to a decision. -/
structure DiagnosticNote where
  code : StatusCode := .ok
  reason : ReasonCode := .none
  subject : SubjectId := {}
  detail : String := ""
deriving DecidableEq, Inhabited

/-- Count of subjects per outcome. -/
structure OutcomeCounts where
  fair : ℕ := 0
  overServed : ℕ := 0
  underServed : ℕ := 0
  starvationRisk : ℕ := 0
  correctionRequired : ℕ := 0
  blockedByStrongerObligation : ℕ := 0
  unknown : ℕ := 0
  stale : ℕ := 0
deriving DecidableEq, Inhabited

/-- The authoritative fairness decision. -/
structure FairnessDecision where
  authority : AuthorityVector := {}
  outcome : Outcome := .unknown
  counts : OutcomeCounts := {}
  subjects : List SubjectFairnessState := []
  groups : List GroupFairnessState := []
  intents : List CorrectiveIntent := []
  correction : CorrectionSummary := {}
  notes : List DiagnosticNote := []
  contentDigest : UInt64 := 0
deriving DecidableEq, Inhabited

/-! ## The request and its context -/

/-- Exact request identity for an authoritative evaluation. -/
structure EvaluationRequest where
  policyId : FairnessPolicyId := {}
  policyGeneration : FairnessPolicyGeneration := {}
  epoch : FabricEpoch := {}
  evidenceId : EvidenceSnapshotId := {}
  evidenceGeneration : EvidenceSnapshotGeneration := {}
  window : ServiceWindowId := {}
  windowGeneration : ServiceWindowGeneration := {}
  nowNs : Int64 := 0
  requestId : UInt64 := 0
  attempt : UInt32 := 0
  treatMissingAsUnknown : Bool := true
deriving Inhabited

/-- Everything the engine needs; `none` is the source's null pointer. -/
structure EvaluationContext where
  policy : Option FairnessPolicy := none
  accounting : Option FairnessAccounting := none
  evidence : Option EvidenceSnapshot := none
  request : EvaluationRequest := {}
  currentEpoch : FabricEpoch := {}
  currentWindow : ServiceWindowId := {}
  lastCommittedWindow : ServiceWindowId := {}
deriving Inhabited

/-! ## The digest of a decision -/

section Digest

open ByteWriter

/-- What the digest covers of the authority vector: everything but the incarnation. -/
def AuthorityVector.digestBytes (a : AuthorityVector) : ByteBuffer :=
  u64 a.policyId.value ++ u64 a.policyGeneration.value ++ u64 a.epoch.value ++
  u64 a.evidenceId.value ++ u64 a.evidenceGeneration.value ++ u64 a.window.value ++
  u64 a.windowGeneration.value ++ u64 a.accountingGeneration ++ u64 a.requestId ++ u32 a.attempt

/-- What the digest covers of a subject state. -/
def SubjectFairnessState.digestBytes (s : SubjectFairnessState) : ByteBuffer :=
  u64 s.id.value ++ u64 s.generation.value ++ u64 s.group.value ++ u8 s.outcome.toUInt8 ++
  u16 s.reason.toUInt16 ++ flag s.hasAuthority ++ quantity s.entitlementUnits ++
  quantity s.baseEntitlementUnits ++ quantity s.groupEntitlementUnits ++ quantity s.servedUnits ++
  signedQuantity s.deviationUnits ++ quantity s.deficitUnits ++ quantity s.surplusUnits ++
  quantity s.cumulativeDeficitAfter ++ quantity s.cumulativeSurplusAfter ++ u32 s.unservedStreak ++
  u32 s.belowFloorStreak ++ quantity s.proposedAugmentUnits ++ quantity s.proposedReduceUnits ++
  quantity s.unsatisfiedDemandUnits ++ signedQuantity s.priorityDeltaUnits ++
  u32 s.appliedModifierBps.toUInt32

/-- What the digest covers of a group state. -/
def GroupFairnessState.digestBytes (s : GroupFairnessState) : ByteBuffer :=
  u64 s.id.value ++ u64 s.generation.value ++ quantity s.entitlementUnits ++ quantity s.servedUnits ++
  signedQuantity s.deviationUnits ++ flag s.withheldCorrection

/-- What the digest covers of an intent. -/
def CorrectiveIntent.digestBytes (i : CorrectiveIntent) : ByteBuffer :=
  u64 i.id.value ++ u64 i.generation.value ++ u8 i.direction.toUInt8 ++ u64 i.subject.value ++
  quantity i.units ++ u8 i.bound.toUInt8 ++ u16 i.reason.toUInt16 ++ flag i.fromStarvation

/-- What the digest covers of the correction summary. -/
def CorrectionSummary.digestBytes (c : CorrectionSummary) : ByteBuffer :=
  quantity c.reduciblePoolUnits ++ quantity c.demandUnits ++ quantity c.authorizedBudgetUnits ++
  quantity c.augmentUnits ++ quantity c.reduceUnits ++ quantity c.withheldUnits ++
  quantity c.unsatisfiedDemandUnits ++ flag c.protectedObligationBlocked ++ flag c.authorityMissing

/-- `codec::decision_digest`. -/
def decisionDigest (decision : FairnessDecision) : UInt64 :=
  checksum64 (decision.authority.digestBytes ++ u8 decision.outcome.toUInt8 ++
    decision.subjects.flatMap SubjectFairnessState.digestBytes ++
    decision.groups.flatMap GroupFairnessState.digestBytes ++
    decision.intents.flatMap CorrectiveIntent.digestBytes ++ decision.correction.digestBytes)

end Digest

/-- The digest does not bind the digest field itself. -/
lemma decisionDigest_withDigest (decision : FairnessDecision) (digest : UInt64) :
    decisionDigest { decision with contentDigest := digest } = decisionDigest decision := rfl

/-- The digest does not bind the incarnation either. -/
lemma decisionDigest_stamp (decision : FairnessDecision) (governor : Incarnation) :
    decisionDigest { decision with
      authority := { decision.authority with governor := governor } } =
      decisionDigest decision := rfl

end FairnessGovernor
