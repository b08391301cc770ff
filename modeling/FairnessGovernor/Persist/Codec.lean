/-
# The durable codecs

Policies and accounting are written to the durable store, and evidence to the link, as
little-endian fields behind a format version; the decoders are strict, and what a decoder
accepts it has validated.  What was encoded from a validated value decodes to that value.
-/
import FairnessGovernor.Model.Accounting
import FairnessGovernor.Model.Evidence

namespace FairnessGovernor

open LittleEndian

/-- `kMaxEncodedStringBytes`. -/
def kMaxEncodedStringBytes : ℕ := 256
/-- `kMaxEncodedRecords`. -/
def kMaxEncodedRecords : ℕ := 65536

/-- The version check every decoder starts with. -/
def readVersion (truncated unsupported : Status) : ByteReader Unit := do
  let version ← ByteReader.u16 truncated
  require unsupported (version = kFormatVersion)

/-- Runs a reader over a whole payload: too large a payload and trailing bytes are refused. -/
def decodePayload {α : Type} (oversized trailing : String) (reader : ByteReader α)
    (bytes : ByteBuffer) : Except Status α := do
  rejectIf (bytes.length > kMaxDurablePayloadBytes) .oversizedPayload oversized
  let (value, rest) ← reader bytes
  rejectIf (rest ≠ []) .corruptRecord trailing
  return value

/-! ## Shared parts -/

section Encode

open ByteWriter

/-- `write_provenance`. -/
def writeProvenance (provenance : Provenance) : ByteBuffer :=
  u64 provenance.revision ++ blob provenance.source ++ u64 provenance.sourceDigest ++
  i64 provenance.capturedAtNs

/-- `write_priority`. -/
def writePriority (ref : PriorityClassRef) : ByteBuffer :=
  u64 ref.id.value ++ u64 ref.generation.value

/-- `write_qos`. -/
def writeQos (ref : QosClassRef) : ByteBuffer :=
  u64 ref.id.value ++ u64 ref.generation.value

/-- The record of one group. -/
def writeGroup (group : FairnessGroup) : ByteBuffer :=
  u64 group.id.value ++ u64 group.generation.value ++ u64 group.parent.value ++
  u32 group.shareWeight ++ u64 group.guaranteeFloor ++ u32 group.obligationRank ++
  flag group.protectedObligation ++ blob group.label

/-- The record of one subject. -/
def writeSubject (subject : Subject) : ByteBuffer :=
  u64 subject.id.value ++ u64 subject.generation.value ++ u64 subject.group.value ++
  u64 subject.tenant.value ++ u32 subject.shareWeight ++ u64 subject.guaranteeFloor ++
  u32 subject.starvationWindows ++ u32 subject.guaranteeStarvationWindows ++
  writePriority subject.priority ++ writeQos subject.qos ++
  u32 subject.priorityModifierBps.toUInt32 ++ u32 subject.priorityRank ++
  u32 subject.obligationRank ++ flag subject.protectedObligation ++ u64 subject.maxReduceUnits ++
  u64 subject.maxAugmentUnits ++ blob subject.label

/-- The fields of a policy before its groups. -/
def writePolicyFields (policy : FairnessPolicy) : ByteBuffer :=
  u64 policy.id.value ++ u64 policy.generation.value ++ u64 policy.epoch.value ++
  u64 policy.windowUnits ++ u64 policy.fairBandUnits ++ u64 policy.correctionThresholdUnits ++
  u32 policy.cooldownWindows ++ u64 policy.maxCorrectionUnits ++ u32 policy.maxCorrectionBps ++
  u32 policy.maxPriorityModifierBps ++ u32 policy.maxEvidenceAgeWindows ++
  u64 policy.maxEvidenceAgeNs ++ u64 policy.maxCarryUnits ++ flag policy.enforceGuaranteeFloors ++
  writeProvenance policy.provenance

/-- `encode_policy`. -/
def encodePolicy (policy : FairnessPolicy) : ByteBuffer :=
  u16 kFormatVersion ++ writePolicyFields policy ++ u32 (UInt32.ofNat policy.groups.length) ++
  policy.groups.flatMap writeGroup ++ u32 (UInt32.ofNat policy.subjects.length) ++
  policy.subjects.flatMap writeSubject

/-- The record of one accounting entry. -/
def writeEntry (entry : SubjectAccounting) : ByteBuffer :=
  u64 entry.id.value ++ u64 entry.generation.value ++ u64 entry.cumulativeDeficit ++
  u64 entry.cumulativeSurplus ++ u64 entry.discardedDeficit ++ u64 entry.discardedSurplus ++
  u32 entry.unservedStreak ++ u32 entry.belowFloorStreak ++ u64 entry.windowsObserved ++
  u64 entry.totalServedUnits ++ u64 entry.lastCorrectionWindow.value ++
  u64 entry.lastCorrectionGeneration.value

/-- The fields of an accounting record before its entries. -/
def writeAccountingFields (accounting : FairnessAccounting) : ByteBuffer :=
  u64 accounting.policyId.value ++ u64 accounting.policyGeneration.value ++
  u64 accounting.epoch.value ++ u64 accounting.generation ++
  u64 accounting.interventionGeneration.value ++ u64 accounting.lastWindow.value ++
  u64 accounting.lastWindowGeneration.value ++ u64 accounting.writerBoot.value

/-- `encode_accounting`. -/
def encodeAccounting (accounting : FairnessAccounting) : ByteBuffer :=
  u16 kFormatVersion ++ writeAccountingFields accounting ++
  u32 (UInt32.ofNat accounting.subjects.length) ++ accounting.subjects.flatMap writeEntry

/-- The record of one observation. -/
def writeObservation (observation : SubjectObservation) : ByteBuffer :=
  u64 observation.id.value ++ u64 observation.generation.value ++ u64 observation.servedUnits ++
  u32 observation.unservedStreak ++ u32 observation.belowFloorStreak ++
  writePriority observation.priority ++ writeQos observation.qos

/-- `encode_evidence`. -/
def encodeEvidence (snapshot : EvidenceSnapshot) : ByteBuffer :=
  u16 kFormatVersion ++ u64 snapshot.id.value ++ u64 snapshot.generation.value ++
  u64 snapshot.window.value ++ u64 snapshot.windowGeneration.value ++ u64 snapshot.epoch.value ++
  i64 snapshot.capturedAtNs ++ u64 snapshot.sequence ++ blob snapshot.producer.name ++
  u64 snapshot.producer.instanceId ++ u64 snapshot.producer.version ++
  writeProvenance snapshot.provenance ++ u64 snapshot.declaredDigest ++
  u32 (UInt32.ofNat snapshot.observations.length) ++
  snapshot.observations.flatMap writeObservation

end Encode

/-- `policy_digest`. -/
def policyDigest (policy : FairnessPolicy) : UInt64 := checksum64 (encodePolicy policy)

/-- `evidence_digest`. -/
def evidenceDigest (snapshot : EvidenceSnapshot) : UInt64 := checksum64 (encodeEvidence snapshot)

section Decode

open ByteReader

/-- `read_provenance`. -/
def readProvenance (e : Status) : ByteReader Provenance := do
  let revision ← u64 e
  let source ← blob e kMaxEncodedStringBytes
  let sourceDigest ← u64 e
  let capturedAtNs ← i64 e
  return { revision := revision, source := source, sourceDigest := sourceDigest,
           capturedAtNs := capturedAtNs }

/-- `read_priority`. -/
def readPriority (e : Status) : ByteReader PriorityClassRef := do
  let id ← u64 e
  let generation ← u64 e
  return { id := ⟨id⟩, generation := ⟨generation⟩ }

/-- `read_qos`. -/
def readQos (e : Status) : ByteReader QosClassRef := do
  let id ← u64 e
  let generation ← u64 e
  return { id := ⟨id⟩, generation := ⟨generation⟩ }

/-- A count that prefixes a list of records. -/
def readCount (truncated limit : Status) (maxCount : ℕ) : ByteReader ℕ := do
  let count ← u32 truncated
  require limit (count.toNat ≤ maxCount)
  return count.toNat

/-! ## Policies -/

/-- One group. -/
def readGroup : ByteReader FairnessGroup := do
  let e : Status := ⟨.truncated, "policy group record truncated"⟩
  let id ← u64 e
  let generation ← u64 e
  let parent ← u64 e
  let shareWeight ← u32 e
  let guaranteeFloor ← u64 e
  let obligationRank ← u32 e
  let protectedFlag ← flag e
  let label ← blob e kMaxEncodedStringBytes
  return { id := ⟨id⟩, generation := ⟨generation⟩, parent := ⟨parent⟩
           shareWeight := shareWeight, guaranteeFloor := guaranteeFloor
           obligationRank := obligationRank, protectedObligation := protectedFlag
           label := label }

/-- One subject. -/
def readSubject : ByteReader Subject := do
  let e : Status := ⟨.truncated, "policy subject record truncated"⟩
  let id ← u64 e
  let generation ← u64 e
  let group ← u64 e
  let tenant ← u64 e
  let shareWeight ← u32 e
  let guaranteeFloor ← u64 e
  let starvationWindows ← u32 e
  let guaranteeStarvationWindows ← u32 e
  let priority ← readPriority e
  let qos ← readQos e
  let modifier ← u32 e
  let priorityRank ← u32 e
  let obligationRank ← u32 e
  let protectedFlag ← flag e
  let maxReduceUnits ← u64 e
  let maxAugmentUnits ← u64 e
  let label ← blob e kMaxEncodedStringBytes
  return { id := ⟨id⟩, generation := ⟨generation⟩, group := ⟨group⟩, tenant := ⟨tenant⟩
           shareWeight := shareWeight, guaranteeFloor := guaranteeFloor
           starvationWindows := starvationWindows
           guaranteeStarvationWindows := guaranteeStarvationWindows
           priority := priority, qos := qos, priorityModifierBps := modifier.toInt32
           priorityRank := priorityRank, obligationRank := obligationRank
           protectedObligation := protectedFlag, maxReduceUnits := maxReduceUnits
           maxAugmentUnits := maxAugmentUnits, label := label }

/-- The fields of a policy before its groups. -/
def readPolicyFields : ByteReader FairnessPolicy := do
  let e : Status := ⟨.truncated, "policy fields truncated"⟩
  let id ← u64 e
  let generation ← u64 e
  let epoch ← u64 e
  let windowUnits ← u64 e
  let fairBandUnits ← u64 e
  let correctionThresholdUnits ← u64 e
  let cooldownWindows ← u32 e
  let maxCorrectionUnits ← u64 e
  let maxCorrectionBps ← u32 e
  let maxPriorityModifierBps ← u32 e
  let maxEvidenceAgeWindows ← u32 e
  let maxEvidenceAgeNs ← u64 e
  let maxCarryUnits ← u64 e
  let enforceGuaranteeFloors ← flag e
  let provenance ← readProvenance ⟨.truncated, "policy provenance truncated"⟩
  return { id := ⟨id⟩, generation := ⟨generation⟩, epoch := ⟨epoch⟩, windowUnits := windowUnits
           fairBandUnits := fairBandUnits, correctionThresholdUnits := correctionThresholdUnits
           cooldownWindows := cooldownWindows, maxCorrectionUnits := maxCorrectionUnits
           maxCorrectionBps := maxCorrectionBps
           maxPriorityModifierBps := maxPriorityModifierBps
           maxEvidenceAgeWindows := maxEvidenceAgeWindows, maxEvidenceAgeNs := maxEvidenceAgeNs
           maxCarryUnits := maxCarryUnits, enforceGuaranteeFloors := enforceGuaranteeFloors
           provenance := provenance }

/-- A policy, before its validation. -/
def readPolicy : ByteReader FairnessPolicy := do
  readVersion ⟨.truncated, "policy header truncated"⟩
    ⟨.unsupportedFormat, "unsupported policy format version"⟩
  let policy ← readPolicyFields
  let groupCount ← readCount ⟨.truncated, "policy group count invalid"⟩
    ⟨.limitExceeded, "policy group count invalid"⟩ kMaxGroups
  let groups ← replicateM readGroup groupCount
  let subjectCount ← readCount ⟨.truncated, "policy subject count invalid"⟩
    ⟨.limitExceeded, "policy subject count invalid"⟩ kMaxSubjects
  let subjects ← replicateM readSubject subjectCount
  return { policy with groups := groups, subjects := subjects }

/-- `decode_policy`. -/
def decodePolicy (bytes : ByteBuffer) : Except Status FairnessPolicy := do
  let policy ← decodePayload "policy payload exceeds the durable bound"
    "policy record has trailing bytes" readPolicy bytes
  validatePolicy policy
  return policy

/-! ## Accounting -/

/-- One accounting entry, with the checks of its bounds. -/
def readEntry : ByteReader SubjectAccounting := do
  let e : Status := ⟨.truncated, "accounting subject record truncated"⟩
  let id ← u64 e
  let generation ← u64 e
  let cumulativeDeficit ← u64 e
  let cumulativeSurplus ← u64 e
  let discardedDeficit ← u64 e
  let discardedSurplus ← u64 e
  let unservedStreak ← u32 e
  let belowFloorStreak ← u32 e
  let windowsObserved ← u64 e
  let totalServedUnits ← u64 e
  let window ← u64 e
  let intervention ← u64 e
  require ⟨.outOfRange, "accounting carry exceeds the durable bound"⟩
    (cumulativeDeficit.toNat ≤ kMaxCarryUnits ∧ cumulativeSurplus.toNat ≤ kMaxCarryUnits)
  require ⟨.outOfRange, "accounting streak exceeds the bound"⟩
    (unservedStreak ≤ kMaxDurableStreak ∧ belowFloorStreak ≤ kMaxDurableStreak)
  return { id := ⟨id⟩, generation := ⟨generation⟩, cumulativeDeficit := cumulativeDeficit
           cumulativeSurplus := cumulativeSurplus, discardedDeficit := discardedDeficit
           discardedSurplus := discardedSurplus, unservedStreak := unservedStreak
           belowFloorStreak := belowFloorStreak, windowsObserved := windowsObserved
           totalServedUnits := totalServedUnits, lastCorrectionWindow := ⟨window⟩
           lastCorrectionGeneration := ⟨intervention⟩ }

/-- The entries; `seen` holds the subjects already declared. -/
def readEntries : ℕ → List SubjectId → ByteReader (List SubjectAccounting)
  | 0, _ => pure []
  | count + 1, seen => do
    let entry ← readEntry
    require ⟨.duplicate, "accounting declares the same subject twice"⟩ (entry.id ∉ seen)
    let rest ← readEntries count (entry.id :: seen)
    pure (entry :: rest)

/-- The fields of an accounting record before its entries. -/
def readAccountingFields (e : Status) : ByteReader FairnessAccounting := do
  let policyId ← u64 e
  let policyGeneration ← u64 e
  let epoch ← u64 e
  let generation ← u64 e
  let intervention ← u64 e
  let window ← u64 e
  let windowGeneration ← u64 e
  let boot ← u64 e
  return { policyId := ⟨policyId⟩, policyGeneration := ⟨policyGeneration⟩, epoch := ⟨epoch⟩
           generation := generation, interventionGeneration := ⟨intervention⟩
           lastWindow := ⟨window⟩, lastWindowGeneration := ⟨windowGeneration⟩
           writerBoot := ⟨boot⟩ }

/-- An accounting record. -/
def readAccounting : ByteReader FairnessAccounting := do
  readVersion ⟨.truncated, "accounting header truncated"⟩
    ⟨.unsupportedFormat, "unsupported accounting format version"⟩
  let accounting ← readAccountingFields ⟨.truncated, "accounting fields truncated"⟩
  let count ← readCount ⟨.truncated, "accounting fields truncated"⟩
    ⟨.limitExceeded, "accounting subject count exceeds the bound"⟩ kMaxEncodedRecords
  let subjects ← readEntries count []
  return { accounting with subjects := subjects }

/-- `decode_accounting`. -/
def decodeAccounting (bytes : ByteBuffer) : Except Status FairnessAccounting :=
  decodePayload "accounting payload exceeds the durable bound"
    "accounting record has trailing bytes" readAccounting bytes

/-! ## Evidence -/

/-- One observation. -/
def readObservation : ByteReader SubjectObservation := do
  let e : Status := ⟨.truncated, "evidence observation truncated"⟩
  let id ← u64 e
  let generation ← u64 e
  let servedUnits ← u64 e
  let unservedStreak ← u32 e
  let belowFloorStreak ← u32 e
  let priority ← readPriority e
  let qos ← readQos e
  return { id := ⟨id⟩, generation := ⟨generation⟩, servedUnits := servedUnits
           unservedStreak := unservedStreak, belowFloorStreak := belowFloorStreak
           priority := priority, qos := qos }

/-- The fields of a snapshot before its observations. -/
def readEvidenceFields (e : Status) : ByteReader EvidenceSnapshot := do
  let id ← u64 e
  let generation ← u64 e
  let window ← u64 e
  let windowGeneration ← u64 e
  let epoch ← u64 e
  let capturedAtNs ← i64 e
  let sequence ← u64 e
  let name ← blob e kMaxEncodedStringBytes
  let instanceId ← u64 e
  let version ← u64 e
  let provenance ← readProvenance e
  let declaredDigest ← u64 e
  return { id := ⟨id⟩, generation := ⟨generation⟩, window := ⟨window⟩
           windowGeneration := ⟨windowGeneration⟩, epoch := ⟨epoch⟩
           capturedAtNs := capturedAtNs, sequence := sequence
           producer := { name := name, instanceId := instanceId, version := version }
           provenance := provenance, declaredDigest := declaredDigest }

/-- A snapshot, before its validation. -/
def readEvidence : ByteReader EvidenceSnapshot := do
  readVersion ⟨.truncated, "evidence header truncated"⟩
    ⟨.unsupportedFormat, "unsupported evidence format version"⟩
  let snapshot ← readEvidenceFields ⟨.truncated, "evidence fields truncated"⟩
  let count ← readCount ⟨.truncated, "evidence fields truncated"⟩
    ⟨.limitExceeded, "evidence observation count exceeds the bound"⟩ kMaxEvidenceRecords
  let observations ← replicateM readObservation count
  return { snapshot with observations := observations }

/-- `decode_evidence`. -/
def decodeEvidence (bytes : ByteBuffer) : Except Status EvidenceSnapshot := do
  let snapshot ← decodePayload "evidence payload exceeds the bound"
    "evidence record has trailing bytes" readEvidence bytes
  validateEvidence snapshot
  return snapshot

end Decode

end FairnessGovernor
