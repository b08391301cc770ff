/-
# Explanations

A decision is explained in lines of text: its outcome, the authority it was taken under, its
counts and its correction, a line for each group, subject, intent and note, and its digest.  A line
is a word and fields, each a name and a value.  The text is bounded: what goes over the bound is
cut off, and a notice says so.
-/
import FairnessGovernor.Lib.Rendering
import FairnessGovernor.Scenario.Parse

namespace FairnessGovernor

open Rendering

/-! ## Names -/

/-- `to_string(Outcome)`. -/
def Outcome.text : Outcome → String
  | fair => "FAIR"
  | overServed => "OVER_SERVED"
  | underServed => "UNDER_SERVED"
  | starvationRisk => "STARVATION_RISK"
  | correctionRequired => "CORRECTION_REQUIRED"
  | blockedByStrongerObligation => "BLOCKED_BY_STRONGER_OBLIGATION"
  | unknown => "UNKNOWN"
  | stale => "STALE"

/-- `to_string(ReasonCode)`. -/
def ReasonCode.text : ReasonCode → String
  | none => "NONE"
  | withinFairBand => "WITHIN_FAIR_BAND"
  | weightedShareDeficit => "WEIGHTED_SHARE_DEFICIT"
  | weightedShareSurplus => "WEIGHTED_SHARE_SURPLUS"
  | guaranteeFloorDeficit => "GUARANTEE_FLOOR_DEFICIT"
  | guaranteeFloorSurplus => "GUARANTEE_FLOOR_SURPLUS"
  | starvationUnserved => "STARVATION_UNSERVED"
  | starvationBelowFloor => "STARVATION_BELOW_FLOOR"
  | evidenceAbsent => "EVIDENCE_ABSENT"
  | evidenceStaleGeneration => "EVIDENCE_STALE_GENERATION"
  | evidenceStaleWindow => "EVIDENCE_STALE_WINDOW"
  | evidenceStaleEpoch => "EVIDENCE_STALE_EPOCH"
  | evidenceStaleAge => "EVIDENCE_STALE_AGE"
  | subjectGenerationMismatch => "SUBJECT_GENERATION_MISMATCH"
  | policyGenerationMismatch => "POLICY_GENERATION_MISMATCH"
  | priorityReferenceMismatch => "PRIORITY_REFERENCE_MISMATCH"
  | correctiveBudgetExhausted => "CORRECTIVE_BUDGET_EXHAUSTED"
  | correctiveCooldown => "CORRECTIVE_COOLDOWN"
  | protectedObligationHeld => "PROTECTED_OBLIGATION_HELD"
  | subjectCapReached => "SUBJECT_CAP_REACHED"
  | policyBoundReached => "POLICY_BOUND_REACHED"
  | noCorrectionAvailable => "NO_CORRECTION_AVAILABLE"
  | overcommitDetected => "OVERCOMMIT_DETECTED"

/-- `to_string(CorrectionBound)`. -/
def CorrectionBound.text : CorrectionBound → String
  | none => "NONE"
  | subjectAugmentCap => "SUBJECT_AUGMENT_CAP"
  | subjectReduceCap => "SUBJECT_REDUCE_CAP"
  | policyTotalBudget => "POLICY_TOTAL_BUDGET"
  | policyBasisPoints => "POLICY_BASIS_POINTS"
  | protectedObligation => "PROTECTED_OBLIGATION"
  | cooldown => "COOLDOWN"
  | budgetExhausted => "BUDGET_EXHAUSTED"
  | demandSatisfied => "DEMAND_SATISFIED"
  | authorityMissing => "AUTHORITY_MISSING"

/-- `to_string(CorrectionDirection)`. -/
def CorrectionDirection.text : CorrectionDirection → String
  | augment => "AUGMENT"
  | reduce => "REDUCE"

/-! ## Bounded text -/

/-- `kMaxExplanationBytes`. -/
def kMaxExplanationBytes : ℕ := 2 ^ 20

/-- What stands in the place of what was cut off. -/
def truncationNotice : ByteBuffer := ascii "\n[explanation truncated]\n"

/-- `BoundedText`. -/
structure BoundedText where
  limit : ℕ
  size : ℕ := 0
  truncated : Bool := false
  buffer : ByteBuffer := []

namespace BoundedText

/-- `BoundedText::append`. -/
def append (text : BoundedText) (more : ByteBuffer) : BoundedText :=
  if text.truncated then text
  else if text.size + more.length > text.limit then
    { text with
      buffer := text.buffer ++ more.take (text.limit - text.size) ++ truncationNotice
      truncated := true
      size := text.limit }
  else { text with buffer := text.buffer ++ more, size := text.size + more.length }

/-- `BoundedText::line`. -/
def line (text : BoundedText) (more : ByteBuffer) : BoundedText :=
  (text.append more).append (ascii "\n")

end BoundedText

/-! ## Fields -/

/-- A name and a value. -/
abbrev Field := ByteBuffer × ByteBuffer

/-- `append_u64`. -/
def appendU64 (name : String) (value : UInt64) : Field := (ascii name, toDecimal value)

/-- A quantity of the evaluator, written as the word that holds it. -/
def appendQuantity (name : String) (value : ℕ) : Field := appendU64 name (.ofNat value)

/-- `append_i64`. -/
def appendI64 (name : String) (value : ℤ) : Field :=
  (ascii name, (if value < 0 then ascii "-" else []) ++ toDecimal (.ofNat value.natAbs))

/-- `append_u64` of a flag. -/
def appendFlag (name : String) (value : Bool) : Field := appendU64 name (if value then 1 else 0)

/-- An identity with its generation. -/
def appendPair (name : String) (id generation : UInt64) : Field :=
  (ascii name, toDecimal id ++ ascii ":" ++ toDecimal generation)

/-- What one of the enumerations is called. -/
def appendName (name text : String) : Field := (ascii name, ascii text)

/-- A line: a word, its fields, and what follows them. -/
def fieldLine (word : String) (values : List Field) (rest : ByteBuffer) : ByteBuffer :=
  ascii word ++ fields 32 61 values ++ rest

/-- A reference to a class of priority, if there is one. -/
def appendReference (name : String) (reference : PriorityClassRef) : ByteBuffer :=
  optionalField 32 61 (ascii name)
    (if reference.present then some (toDecimal reference.id.value) else none)

/-- A text at the end of a line, unless it is empty. -/
def appendText (name : String) (text : ByteBuffer) : ByteBuffer :=
  if text = [] then [] else ascii " " ++ ascii name ++ ascii "=" ++ text

/-! ## Lines -/

def Outcome.line (outcome : Outcome) : ByteBuffer := ascii "outcome " ++ ascii outcome.text

def AuthorityVector.values (authority : AuthorityVector) : List Field :=
  [appendPair "policy" authority.policyId.value authority.policyGeneration.value,
    appendU64 "epoch" authority.epoch.value,
    appendPair "evidence" authority.evidenceId.value authority.evidenceGeneration.value,
    appendPair "window" authority.window.value authority.windowGeneration.value,
    appendU64 "accounting_generation" authority.accountingGeneration,
    appendU64 "governor_boot" authority.governor.boot.value,
    appendU64 "governor_ordinal" authority.governor.ordinal,
    appendU64 "request" authority.requestId,
    appendU64 "attempt" authority.attempt.toUInt64]

def OutcomeCounts.values (counts : OutcomeCounts) : List Field :=
  [appendQuantity "fair" counts.fair,
    appendQuantity "over_served" counts.overServed,
    appendQuantity "under_served" counts.underServed,
    appendQuantity "starvation_risk" counts.starvationRisk,
    appendQuantity "correction_required" counts.correctionRequired,
    appendQuantity "blocked_by_stronger_obligation" counts.blockedByStrongerObligation,
    appendQuantity "unknown" counts.unknown,
    appendQuantity "stale" counts.stale]

def CorrectionSummary.values (summary : CorrectionSummary) : List Field :=
  [appendQuantity "pool" summary.reduciblePoolUnits,
    appendQuantity "demand" summary.demandUnits,
    appendQuantity "authorized" summary.authorizedBudgetUnits,
    appendQuantity "augment" summary.augmentUnits,
    appendQuantity "reduce" summary.reduceUnits,
    appendQuantity "withheld" summary.withheldUnits,
    appendQuantity "unsatisfied" summary.unsatisfiedDemandUnits,
    appendQuantity "cooldown_suppressed" summary.cooldownSuppressed,
    appendFlag "bounded_by_total" summary.boundedByPolicyTotal,
    appendFlag "bounded_by_bps" summary.boundedByPolicyBps,
    appendFlag "protected_blocked" summary.protectedObligationBlocked,
    appendFlag "authority_missing" summary.authorityMissing]

def GroupFairnessState.values (group : GroupFairnessState) : List Field :=
  [appendPair "id" group.id.value group.generation.value,
    appendU64 "parent" group.parent.value,
    appendQuantity "depth" group.depth,
    appendQuantity "entitlement" group.entitlementUnits,
    appendQuantity "served" group.servedUnits,
    appendI64 "deviation" group.deviationUnits,
    appendQuantity "floor" group.guaranteeFloorUnits,
    appendFlag "protected" group.isProtectedObligation,
    appendU64 "obligation_rank" group.obligationRank.toUInt64,
    appendFlag "withheld_correction" group.withheldCorrection]

def GroupFairnessState.line (group : GroupFairnessState) : ByteBuffer :=
  fieldLine "group" group.values (appendText "label" group.label)

def SubjectFairnessState.values (subject : SubjectFairnessState) : List Field :=
  [appendPair "id" subject.id.value subject.generation.value,
    appendName "outcome" subject.outcome.text,
    appendName "reason" subject.reason.text,
    appendFlag "authority" subject.hasAuthority,
    appendU64 "group" subject.group.value,
    appendQuantity "group_entitlement" subject.groupEntitlementUnits,
    appendQuantity "entitlement" subject.entitlementUnits,
    appendQuantity "base_entitlement" subject.baseEntitlementUnits,
    appendQuantity "floor" subject.guaranteeFloorUnits,
    appendI64 "priority_delta" subject.priorityDeltaUnits,
    appendI64 "modifier_bps" subject.appliedModifierBps.toInt,
    appendFlag "modifier_clipped" subject.modifierClipped,
    appendQuantity "served" subject.servedUnits,
    appendI64 "deviation" subject.deviationUnits,
    appendQuantity "deficit" subject.deficitUnits,
    appendQuantity "surplus" subject.surplusUnits,
    appendQuantity "carry_deficit" subject.cumulativeDeficitAfter,
    appendQuantity "carry_surplus" subject.cumulativeSurplusAfter,
    appendU64 "unserved_streak" subject.unservedStreak.toUInt64,
    appendU64 "unserved_limit" subject.starvationLimitWindows.toUInt64,
    appendU64 "below_floor_streak" subject.belowFloorStreak.toUInt64,
    appendU64 "below_floor_limit" subject.guaranteeStarvationLimitWindows.toUInt64,
    appendFlag "protected" subject.isProtectedObligation,
    appendU64 "obligation_rank" subject.obligationRank.toUInt64,
    appendQuantity "augment" subject.proposedAugmentUnits,
    appendQuantity "reduce" subject.proposedReduceUnits,
    appendQuantity "unsatisfied" subject.unsatisfiedDemandUnits]

def SubjectFairnessState.line (subject : SubjectFairnessState) : ByteBuffer :=
  fieldLine "subject" subject.values
    (appendReference "priority_ref" subject.expectedPriority ++
      (appendReference "observed_priority_ref" subject.observedPriority ++
        appendText "label" subject.label))

def CorrectiveIntent.values (intent : CorrectiveIntent) : List Field :=
  [appendPair "id" intent.id.value intent.generation.value,
    appendName "direction" intent.direction.text,
    appendU64 "subject" intent.subject.value,
    appendU64 "group" intent.group.value,
    appendQuantity "units" intent.units,
    appendName "bound" intent.bound.text,
    appendName "reason" intent.reason.text,
    appendFlag "starvation" intent.fromStarvation,
    appendFlag "protected" intent.fromProtectedObligation,
    appendU64 "obligation_rank" intent.obligationRank.toUInt64]

def CorrectiveIntent.line (intent : CorrectiveIntent) : ByteBuffer :=
  fieldLine "intent" intent.values []

def DiagnosticNote.values (note : DiagnosticNote) : List Field :=
  [appendName "code" note.code.text,
    appendName "reason" note.reason.text,
    appendU64 "subject" note.subject.value]

def DiagnosticNote.line (note : DiagnosticNote) : ByteBuffer :=
  fieldLine "note" note.values (appendText "detail" (textBytes note.detail))

/-! ## The explanation -/

/-- `ExplainOptions`. -/
structure ExplainOptions where
  includeSubjects : Bool := true
  includeGroups : Bool := true
  includeIntents : Bool := true
  includeNotes : Bool := true
  maxBytes : UInt64 := .ofNat kMaxExplanationBytes

/-- The lines of an explanation. -/
def explanationLines (decision : FairnessDecision) (options : ExplainOptions) : List ByteBuffer :=
  [decision.outcome.line,
    fieldLine "authority" decision.authority.values [],
    fieldLine "counts" decision.counts.values [],
    fieldLine "correction" decision.correction.values []] ++
  ((if options.includeGroups then decision.groups.map GroupFairnessState.line else []) ++
  ((if options.includeSubjects then decision.subjects.map SubjectFairnessState.line else []) ++
  ((if options.includeIntents then decision.intents.map CorrectiveIntent.line else []) ++
  ((if options.includeNotes then decision.notes.map DiagnosticNote.line else []) ++
  [ascii "digest=" ++ toDecimal decision.contentDigest]))))

/-- `explain`. -/
def explain (decision : FairnessDecision) (options : ExplainOptions) : ByteBuffer :=
  ((explanationLines decision options).foldl BoundedText.line
    { limit := options.maxBytes.toNat }).buffer

/-- `summarize`. -/
def summarize (decision : FairnessDecision) : ByteBuffer :=
  ascii decision.outcome.text ++ fields 32 61
    [appendQuantity "fair" decision.counts.fair,
      appendQuantity "under" decision.counts.underServed,
      appendQuantity "over" decision.counts.overServed,
      appendQuantity "starve" decision.counts.starvationRisk,
      appendQuantity "correct" decision.counts.correctionRequired,
      appendQuantity "blocked" decision.counts.blockedByStrongerObligation,
      appendQuantity "unknown" decision.counts.unknown,
      appendQuantity "stale" decision.counts.stale,
      appendQuantity "augment" decision.correction.augmentUnits,
      appendQuantity "reduce" decision.correction.reduceUnits]

/-- `format_result`. -/
def formatResult (decision : FairnessDecision) : ByteBuffer :=
  explain decision {} ++ ascii "summary " ++ summarize decision ++ ascii "\n"

end FairnessGovernor
