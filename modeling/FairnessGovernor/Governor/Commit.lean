/-
# Committing a decision

`commit` first checks the decision against the governor (`checkDecision`), then computes the
accounting after it (`applyDecision`), and only then crosses the durable boundary.  The first
two are pure; a failure of any of the three leaves the governor as it was.
-/
import FairnessGovernor.Governor.State

namespace FairnessGovernor

/-! ## The checks -/

/-- The sums of the augmentations and of the reductions. -/
def intentTotals : List CorrectiveIntent → ℕ → ℕ → Except Status (ℕ × ℕ)
  | [], augment, reduce => .ok (augment, reduce)
  | intent :: rest, augment, reduce =>
    match intent.direction with
    | .augment =>
      match checkedAdd augment intent.units with
      | none => .error ⟨.arithmeticOverflow, "intent total overflows"⟩
      | some total => intentTotals rest total reduce
    | .reduce =>
      match checkedAdd reduce intent.units with
      | none => .error ⟨.arithmeticOverflow, "intent total overflows"⟩
      | some total => intentTotals rest augment total

/-- The checks of a corrective plan. -/
def checkCorrection (decision : FairnessDecision) : Except Status Unit := do
  rejectIf (decision.correction.augmentUnits ≠ decision.correction.reduceUnits) .conflict
    "corrective plan does not conserve units"
  let totals ← intentTotals decision.intents 0 0
  rejectIf (totals.1 ≠ decision.correction.augmentUnits ∨
      totals.2 ≠ decision.correction.reduceUnits) .conflict
    "corrective intents do not match the declared plan"
  rejectIf (decision.intents.length > kMaxCorrectiveIntents) .limitExceeded
    "corrective intent count exceeds the bound"

/-- Everything a decision is checked for before it is applied. -/
def Governor.checkDecision (g : Governor) (decision : FairnessDecision) : Except Status Unit := do
  let authority := decision.authority
  rejectIf g.stopping .shuttingDown "governor is shutting down"
  rejectIf (authority.governor ≠ g.incarnation) .staleIncarnation
    "decision was produced by another incarnation"
  rejectIf (authority.epoch ≠ g.epoch) .staleEpoch
    "decision was taken in a superseded fabric epoch"
  rejectIf (authority.policyId ≠ g.policy.id ∨ authority.policyGeneration ≠ g.policy.generation)
    .policyGenerationMismatch "decision was taken against a superseded policy generation"
  rejectIf (authority.accountingGeneration ≠ g.accounting.generation) .staleGeneration
    "decision was taken against a superseded accounting generation"
  rejectIf (¬ authority.window.valid ∨ ¬ authority.windowGeneration.valid) .invalidArgument
    "decision does not name a service window"
  rejectIf (g.accounting.lastWindow.valid ∧
      authority.window.value ≤ g.accounting.lastWindow.value) .staleGeneration
    "service window was already committed"
  rejectIf (decision.subjects.length ≠ g.policy.subjects.length) .conflict
    "decision does not cover the installed policy population"
  rejectIf (decisionDigest decision ≠ decision.contentDigest) .conflict
    "decision content digest does not match its contents"
  checkCorrection decision

/-! ## The accounting after a decision -/

/-- `static_cast<std::int64_t>(entitlement) - static_cast<std::int64_t>(served)`. -/
def netUnits (state : SubjectFairnessState) : ℤ :=
  (Int64.ofNat state.entitlementUnits - Int64.ofNat state.servedUnits).toInt

/-- The entry of a subject after a window in which it was reported with authority. -/
def applyState (maxCarry : ℕ) (state : SubjectFairnessState) (entry : SubjectAccounting) :
    Except Status SubjectAccounting :=
  match applyWindowCarry entry (netUnits state) maxCarry with
  | none => .error ⟨.arithmeticOverflow, "carry application overflows"⟩
  | some carry =>
    match checkedAdd entry.windowsObserved.toNat 1,
      checkedAdd entry.totalServedUnits.toNat state.servedUnits with
    | some windows, some total => .ok { entry with
        cumulativeDeficit := UInt64.ofNat carry.cumulativeDeficit
        cumulativeSurplus := UInt64.ofNat carry.cumulativeSurplus
        discardedDeficit := UInt64.ofNat carry.discardedDeficit
        discardedSurplus := UInt64.ofNat carry.discardedSurplus
        unservedStreak := state.unservedStreak
        belowFloorStreak := state.belowFloorStreak
        windowsObserved := UInt64.ofNat windows
        totalServedUnits := UInt64.ofNat total }
    | _, _ => .error ⟨.arithmeticOverflow, "accounting counters overflow"⟩

/-- Updates the entry of a subject where it stands; without one a fresh entry is appended. -/
def updateEntry (id : SubjectId) (generation : SubjectGeneration)
    (update : SubjectAccounting → Except Status SubjectAccounting) :
    List SubjectAccounting → Except Status (List SubjectAccounting)
  | [] => do
    let created ← update { id := id, generation := generation }
    return [created]
  | entry :: rest =>
    if entry.id = id then do
      let updated ← update entry
      return updated :: rest
    else do
      let rest ← updateEntry id generation update rest
      return entry :: rest

/-- One subject of the decision; without authority it is skipped. -/
def applySubject (policy : FairnessPolicy) (entries : List SubjectAccounting)
    (state : SubjectFairnessState) : Except Status (List SubjectAccounting) :=
  if ¬ state.hasAuthority then .ok entries
  else do
    rejectIf (¬ ∃ subject ∈ policy.findSubject state.id, subject.generation = state.generation)
      .conflict "decision names a subject the policy does not govern"
    updateEntry state.id state.generation (applyState policy.maxCarryUnits.toNat state) entries

/-- A newer intent is remembered as the last correction. -/
def stampCorrection (window : ServiceWindowId) (intent : CorrectiveIntent)
    (entry : SubjectAccounting) : SubjectAccounting :=
  if intent.generation.value > entry.lastCorrectionGeneration.value then
    { entry with lastCorrectionWindow := window, lastCorrectionGeneration := intent.generation }
  else entry

/-- Changes the entry of a subject, if there is one. -/
def modifyEntry (id : SubjectId) (change : SubjectAccounting → SubjectAccounting) :
    List SubjectAccounting → List SubjectAccounting
  | [] => []
  | entry :: rest =>
    if entry.id = id then change entry :: rest else entry :: modifyEntry id change rest

/-- The intents are recorded in the entries of their subjects. -/
def recordIntents (window : ServiceWindowId) (intents : List CorrectiveIntent)
    (entries : List SubjectAccounting) : List SubjectAccounting :=
  intents.foldl (fun entries intent =>
    modifyEntry intent.subject (stampCorrection window intent) entries) entries

/-- The highest intervention generation. -/
def highestIntervention (intents : List CorrectiveIntent) (generation : InterventionGeneration) :
    InterventionGeneration :=
  intents.foldl (fun highest intent =>
    if intent.generation.value > highest.value then intent.generation else highest) generation

/-- The accounting after the decision. -/
def Governor.applyDecision (g : Governor) (decision : FairnessDecision) :
    Except Status FairnessAccounting := do
  let entries ← decision.subjects.foldlM (applySubject g.policy) g.accounting.subjects
  match checkedAdd g.accounting.generation.toNat 1 with
  | none => .error ⟨.arithmeticOverflow, "accounting generation exhausted"⟩
  | some next => .ok {
      policyId := g.policy.id
      policyGeneration := g.policy.generation
      epoch := g.epoch
      generation := UInt64.ofNat next
      interventionGeneration :=
        highestIntervention decision.intents g.accounting.interventionGeneration
      lastWindow := decision.authority.window
      lastWindowGeneration := decision.authority.windowGeneration
      writerBoot := g.incarnation.boot
      subjects := recordIntents decision.authority.window decision.intents entries }

/-- `FairnessGovernor::commit`. -/
def Governor.commit (g : Governor) (decision : FairnessDecision) :
    FileM (Except Status Unit × Governor) :=
  match g.checkDecision decision with
  | .error e => pure (.error e, g)
  | .ok () =>
    match g.applyDecision decision with
    | .error e => pure (.error e, g)
    | .ok accounting => do
      let committed ← ({ g with accounting := accounting }.commitAccounting).run
      match committed with
      | .error e => return (.error e, g)
      | .ok durable => return (.ok (), durable)

end FairnessGovernor
