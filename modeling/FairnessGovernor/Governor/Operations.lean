/-
# The operations of a governor

`open` recovers the durable state, `installPolicy` and `advanceEpoch` move the policy and the
epoch forward and commit them, `ingestEvidence` stages a snapshot, and `evaluate` is pure.
Every operation takes the governor and returns its result with the governor after it.
-/
import FairnessGovernor.Governor.Commit

namespace FairnessGovernor

/-! ## Opening -/

/-- `make_incarnation`, once the boot identity was drawn. -/
def makeIncarnation (boot : BootId) : Incarnation := { boot := boot, ordinal := 1 }

/-- The checks of a configuration. -/
def checkConfig (config : GovernorConfig) : Except Status Unit := do
  validatePolicy config.policy
  rejectIf (¬ config.epoch.valid) .invalidArgument "governor epoch must be >= 1"
  rejectIf (config.policy.epoch ≠ config.epoch) .conflict
    "policy epoch does not match the governor epoch"
  rejectIf (config.limits.maxStagedSnapshots = 0 ∨ config.limits.maxHistoryWindows = 0 ∨
    config.limits.maxObservationsPerSnapshot = 0) .invalidArgument
    "ingestion limits must be non-zero"
  rejectIf (config.storePath = "" ∧ config.requireDurability) .invalidArgument
    "durability required but no store path was given"

namespace Governor

/-- The accounting names the policy and the epoch it is kept under. -/
def stampAccounting (g : Governor) : Governor :=
  { g with accounting := { g.accounting with
      policyId := g.policy.id, policyGeneration := g.policy.generation, epoch := g.epoch } }

/-- A governor without durable state. -/
def initial (config : GovernorConfig) (boot : BootId) : Governor :=
  stampAccounting
    { config := config, policy := config.policy, accounting := {}, epoch := config.epoch
      incarnation := makeIncarnation boot }

/-- Both record kinds are recovered before either is loaded. -/
def recoverRecords (store : DurableStore) (g : Governor) : StatusM Governor := do
  let (policyRecovery, policyNotes) ← store.recover .policy {}
  let (accountingRecovery, accountingNotes) ← store.recover .accounting {}
  match policyRecovery, accountingRecovery with
  | .ok (), .ok () => return { g with
      store := some store
      recovery := { g.recovery with
        storePresent := true
        unfinishedAttemptDiscarded := policyNotes.unfinishedAttemptDiscarded ||
          accountingNotes.unfinishedAttemptDiscarded
        backupRecovered := policyNotes.backupRecovered || accountingNotes.backupRecovered
        corruptionDetected :=
          policyNotes.corruptionDetected || accountingNotes.corruptionDetected } }
  | _, _ => StatusM.fail .recoveryRequired "recovery could not establish a committed record"

/-- The configured policy is committed before it is served. -/
def commitConfigured (g : Governor) : StatusM Governor := do
  let committed ← g.commitPolicy
  return { committed with recovery := { committed.recovery with policyCommitted := true } }

/-- The durable policy against the configured one: the newer of the two is served. -/
def reconcilePolicy (g : Governor) (durable : FairnessPolicy) : StatusM Governor :=
  if durable.id ≠ g.policy.id then
    StatusM.fail .conflict "durable policy identity differs from the configured policy identity"
  else if durable.generation.value > g.policy.generation.value then
    -- a committed policy is never rolled back to an older one
    pure { g with policy := durable, epoch := durable.epoch
                  recovery := { g.recovery with policyLoaded := true } }
  else if durable.generation = g.policy.generation then
    if policyDigest durable ≠ policyDigest g.policy then
      StatusM.fail .conflict "durable policy content differs at the same generation"
    else pure { g with recovery := { g.recovery with policyLoaded := true } }
  else g.commitConfigured

/-- The durable policy record is used; without one the configured policy is committed. -/
def usePolicyRecord (g : Governor) (record : LoadedRecord) : StatusM Governor :=
  if record.present then do
    StatusM.of (rejectIf (¬ record.ok) record.code
      ("durable policy record is not usable: " ++ record.detail))
    match decodePolicy record.payload with
    | .error e => StatusM.fail e.code "durable policy record failed validation"
    | .ok durable =>
      reconcilePolicy { g with policyRecordGeneration := record.generation } durable
  else
    commitConfigured { g with recovery := { g.recovery with policyCode := .notFound } }

/-- The policy part of opening. -/
def openPolicy (store : DurableStore) (g : Governor) : StatusM Governor := do
  let record ← store.load .policy
  let opened ← g.usePolicyRecord record
  return opened.stampAccounting

/-- The accounting that still describes governed subjects. -/
def keptEntries (policy : FairnessPolicy) (entries : List SubjectAccounting) :
    List SubjectAccounting :=
  entries.filter fun entry =>
    ∃ subject ∈ policy.findSubject entry.id, subject.generation = entry.generation

/-- The durable accounting is adopted; an epoch that was committed is not rolled back. -/
def adoptAccounting (g : Governor) (durable : FairnessAccounting) : Governor :=
  stampAccounting { g with
    epoch := if durable.epoch.value > g.epoch.value then durable.epoch else g.epoch
    accounting := { durable with subjects := keptEntries g.policy durable.subjects }
    recovery := { g.recovery with
      accountingLoaded := true
      loadedAccountingGeneration := durable.generation
      previousWriterBoot := durable.writerBoot
      loadedEpoch := durable.epoch
      foreignIncarnation :=
        durable.writerBoot.valid ∧ durable.writerBoot ≠ g.incarnation.boot } }

/-- The durable accounting record is used, if there is one. -/
def useAccountingRecord (g : Governor) (record : LoadedRecord) : StatusM Governor :=
  if record.present then do
    StatusM.of (rejectIf (¬ record.ok) record.code "durable accounting record is not usable")
    match decodeAccounting record.payload with
    | .error e => StatusM.fail e.code "durable accounting record failed validation"
    | .ok durable =>
      return adoptAccounting { g with accountingRecordGeneration := record.generation } durable
  else
    return { g with recovery := { g.recovery with accountingCode := .notFound } }

/-- The accounting part of opening. -/
def openAccounting (store : DurableStore) (g : Governor) : StatusM Governor := do
  let record ← store.load .accounting
  g.useAccountingRecord record

/-- Evidence is never restored. -/
def finishOpen (g : Governor) : Governor :=
  { g.clearStaged with
    recovery := { g.recovery with
      evidenceAuthorityRestored := false
      publisherAuthorityRestored := false
      detail := if g.recovery.foreignIncarnation then
        "durable accounting belongs to a previous incarnation"
        else "durable accounting belongs to this incarnation" } }

end Governor

/-- `FairnessGovernor::open`; the boot identity is the one that was drawn. -/
def Governor.open (config : GovernorConfig) (boot : BootId) : StatusM Governor := do
  StatusM.of (checkConfig config)
  if config.storePath = "" then return initial config boot
  else do
    let store ← DurableStore.open config.storePath
    let recovered ← recoverRecords store (initial config boot)
    let opened ← openPolicy store recovered
    let accounted ← openAccounting store opened
    return accounted.finishOpen

namespace Governor

/-! ## Policies and epochs -/

/-- The checks of a policy to install. -/
def checkInstall (g : Governor) (policy : FairnessPolicy) : Except Status Unit := do
  validatePolicy policy
  rejectIf g.stopping .shuttingDown "governor is shutting down"
  rejectIf (policy.id ≠ g.policy.id) .conflict
    "policy identity change requires reopening the governor"
  rejectIf (policy.generation.value ≤ g.policy.generation.value) .staleGeneration
    "policy generation must advance"
  rejectIf (policy.epoch.value < g.epoch.value) .staleEpoch
    "policy epoch is behind the fabric epoch"

/-- The governor with a new policy; a newer epoch drops what was ingested. -/
def withPolicy (g : Governor) (policy : FairnessPolicy) : Governor :=
  let advanced :=
    if policy.epoch.value > g.epoch.value then { g.clearStaged with epoch := policy.epoch } else g
  { advanced with
    policy := policy
    accounting := { g.accounting with
      policyGeneration := policy.generation, epoch := advanced.epoch } }

/-- The previous policy and epoch are put back; what was dropped stays dropped. -/
def restorePolicy (g previous : Governor) : Governor :=
  { g with
    policy := previous.policy
    epoch := previous.epoch
    accounting := { g.accounting with
      policyGeneration := previous.policy.generation, epoch := previous.epoch } }

/-- `install_policy`. -/
def installPolicy (g : Governor) (policy : FairnessPolicy) :
    FileM (Except Status Unit × Governor) :=
  match g.checkInstall policy with
  | .error e => pure (.error e, g)
  | .ok () => do
    let installed := g.withPolicy policy
    let committed ← installed.commitPolicy.run
    match committed with
    | .error e => return (.error e, installed.restorePolicy g)
    | .ok durable =>
      let accounted ← durable.commitAccounting.run
      match accounted with
      | .error e => return (.error e, durable)
      | .ok durable => return (.ok (), durable)

/-- The checks of an epoch to advance to. -/
def checkAdvance (g : Governor) (nextEpoch : FabricEpoch) : Except Status Unit := do
  rejectIf g.stopping .shuttingDown "governor is shutting down"
  rejectIf (¬ nextEpoch.valid ∨ nextEpoch.value ≤ g.epoch.value) .staleEpoch
    "epoch must strictly advance"

/-- The governor in another epoch, its accounting with it. -/
def withEpoch (g : Governor) (epoch : FabricEpoch) : Governor :=
  { g with epoch := epoch, accounting := { g.accounting with epoch := epoch } }

/-- `advance_epoch`. -/
def advanceEpoch (g : Governor) (nextEpoch : FabricEpoch) :
    FileM (Except Status Unit × Governor) :=
  match g.checkAdvance nextEpoch with
  | .error e => pure (.error e, g)
  | .ok () => do
    let advanced := g.clearStaged.withEpoch nextEpoch
    let committed ← advanced.commitAccounting.run
    match committed with
    | .error e => return (.error e, advanced.withEpoch g.epoch)
    | .ok durable => return (.ok (), durable)

/-! ## Evidence -/

/-- The checks of a snapshot before its identity is looked up. -/
def checkSnapshot (g : Governor) (snapshot : EvidenceSnapshot) : Except Status Unit := do
  validateEvidence snapshot
  rejectIf g.stopping .shuttingDown "governor is shutting down"
  rejectIf (snapshot.epoch ≠ g.epoch) .staleEpoch
    "evidence epoch does not match the fabric epoch"
  rejectIf (snapshot.observations.length > g.config.limits.maxObservationsPerSnapshot.toNat)
    .limitExceeded "observation count exceeds the configured bound"
  rejectIf (g.accounting.lastWindow.valid ∧
    snapshot.window.value ≤ g.accounting.lastWindow.value) .staleGeneration
    "service window is already committed"

/-- The checks of a snapshot that was not ingested before. -/
def checkOrder (g : Governor) (snapshot : EvidenceSnapshot) : Except Status Unit := do
  rejectIf (∃ sequence ∈ g.publisherSequences[publisherKey snapshot.producer]?,
    snapshot.sequence < sequence) .sequenceViolation "evidence sequence went backwards"
  rejectIf (∃ staged ∈ g.staged[snapshot.window.value]?,
    snapshot.generation.value ≤ staged.generation.value) .staleGeneration
    "a newer snapshot for this window is already staged"

/-- The identity a snapshot is known by. -/
def ingestKey (snapshot : EvidenceSnapshot) : UInt64 × UInt64 :=
  (snapshot.id.value, snapshot.generation.value)

/-- A snapshot is staged; each map is brought back within its bound. -/
def stage (g : Governor) (snapshot : EvidenceSnapshot) : Governor :=
  let limit := g.config.limits.maxStagedSnapshots.toNat
  let key := publisherKey snapshot.producer
  let sequence := g.publisherSequences[key]?.elim snapshot.sequence (max · snapshot.sequence)
  { g with
    staged := bounded limit (g.staged.insert snapshot.window.value snapshot)
    ingested := bounded (limit * 4) (g.ingested.insert (ingestKey snapshot) (evidenceDigest snapshot))
    publisherSequences := bounded 1024 (g.publisherSequences.insert key sequence) }

/-- `ingest_evidence`. -/
def ingestEvidence (g : Governor) (snapshot : EvidenceSnapshot) :
    Except Status IngestResult × Governor :=
  match g.checkSnapshot snapshot with
  | .error e => (.error e, g)
  | .ok () =>
    match g.ingested[ingestKey snapshot]? with
    | some digest =>
      if digest ≠ evidenceDigest snapshot then
        (.error ⟨.evidenceContradictory,
          "the same evidence identity arrived with different content"⟩, g)
      else (.ok (ingestResult .duplicateIgnored snapshot), g)
    | none =>
      match g.checkOrder snapshot with
      | .error e => (.error e, g)
      | .ok () => (.ok (ingestResult .staged snapshot), g.stage snapshot)

/-! ## Evaluation and shutdown -/

/-- The context a request is evaluated in. -/
def context (g : Governor) (request : EvaluationRequest) : EvaluationContext :=
  { policy := some g.policy
    accounting := some g.accounting
    evidence := g.staged[request.window.value]?
    request := request
    currentEpoch := g.epoch
    currentWindow := g.currentWindow
    lastCommittedWindow := g.accounting.lastWindow }

/-- `FairnessGovernor::evaluate`. -/
def evaluate (g : Governor) (request : EvaluationRequest) : Eval FairnessDecision :=
  if g.stopping then fail .shuttingDown "governor is shutting down"
  else do
    let decision ← evaluateFairness (g.context request)
    return { decision with authority := { decision.authority with governor := g.incarnation } }

/-- `shutdown`. -/
def shutdown (g : Governor) : Governor :=
  if g.stopping then g else { g.clearStaged with store := none, stopping := true }

end Governor

end FairnessGovernor
