/-
# The state of a governor

A governor holds its policy, its epoch and its accounting, and what was ingested since it was
opened: the staged snapshots by window, the digest of every ingested identity and the highest
sequence of every publisher.  Each of these maps is bounded, and evicts its first key.
-/
import FairnessGovernor.Eval.Engine
import FairnessGovernor.Persist.Codec
import FairnessGovernor.Persist.Store

namespace FairnessGovernor

/-! ## Configuration and reports -/

/-- `kMaxHistoryWindows`. -/
def kMaxHistoryWindows : UInt32 := 1024

/-- Bounded ingestion policy for staged evidence. -/
structure IngestionLimits where
  maxStagedSnapshots : UInt32 := 64
  maxHistoryWindows : UInt32 := kMaxHistoryWindows
  maxObservationsPerSnapshot : UInt32 := UInt32.ofNat kMaxEvidenceRecords

/-- Governor configuration; an empty store path means purely in-memory. -/
structure GovernorConfig where
  policy : FairnessPolicy := {}
  storePath : String := ""
  epoch : FabricEpoch := {}
  limits : IngestionLimits := {}
  requireDurability : Bool := false

/-- What recovery found. -/
structure RecoveryReport where
  storePresent : Bool := false
  policyLoaded : Bool := false
  policyCommitted : Bool := false
  accountingLoaded : Bool := false
  foreignIncarnation : Bool := false
  unfinishedAttemptDiscarded : Bool := false
  backupRecovered : Bool := false
  corruptionDetected : Bool := false
  evidenceAuthorityRestored : Bool := false
  publisherAuthorityRestored : Bool := false
  policyCode : StatusCode := .ok
  accountingCode : StatusCode := .ok
  policyDetail : String := ""
  accountingDetail : String := ""
  loadedAccountingGeneration : UInt64 := 0
  previousWriterBoot : BootId := {}
  loadedEpoch : FabricEpoch := {}
  detail : String := ""

/-- What became of an ingested snapshot. -/
inductive Disposition
  | staged | duplicateIgnored
deriving DecidableEq, Inhabited

/-- Result of ingesting one evidence snapshot. -/
structure IngestResult where
  disposition : Disposition
  id : EvidenceSnapshotId
  generation : EvidenceSnapshotGeneration
  window : ServiceWindowId
  observationCount : UInt32

/-- The result for a snapshot. -/
def ingestResult (disposition : Disposition) (snapshot : EvidenceSnapshot) : IngestResult :=
  { disposition := disposition, id := snapshot.id, generation := snapshot.generation
    window := snapshot.window
    observationCount := UInt32.ofNat snapshot.observations.length }

/-! ## Bounded maps -/

/-- `std::map` keeps its keys in order; pairs are ordered by their first component first. -/
abbrev pairOrder : UInt64 × UInt64 → UInt64 × UInt64 → Ordering :=
  compareLex (compareOn Prod.fst) (compareOn Prod.snd)

section Evict

variable {α β : Type} {order : α → α → Ordering}

/-- `map.erase(map.begin())`. -/
def eraseFirst (entries : Std.TreeMap α β order) : Std.TreeMap α β order :=
  match entries.keys.head? with
  | none => entries
  | some key => entries.erase key

/-- Erases the first key the given number of times. -/
def evict : ℕ → Std.TreeMap α β order → Std.TreeMap α β order
  | 0, entries => entries
  | count + 1, entries => evict count (eraseFirst entries)

/-- `while (map.size() > limit) map.erase(map.begin());` -/
def bounded (limit : ℕ) (entries : Std.TreeMap α β order) : Std.TreeMap α β order :=
  evict (entries.size - limit) entries

end Evict

/-! ## The governor -/

/-- The snapshots by the value of their service window. -/
abbrev StagedSnapshots := Std.TreeMap UInt64 EvidenceSnapshot

/-- The digests by evidence identity and generation. -/
abbrev IngestedDigests := Std.TreeMap (UInt64 × UInt64) UInt64 pairOrder

/-- The highest sequence by publisher. -/
abbrev PublisherSequences := Std.TreeMap UInt64 UInt64

/-- The governor's state. -/
structure Governor where
  config : GovernorConfig
  policy : FairnessPolicy
  accounting : FairnessAccounting
  epoch : FabricEpoch
  incarnation : Incarnation
  recovery : RecoveryReport := {}
  store : Option DurableStore := none
  policyRecordGeneration : UInt64 := 0
  accountingRecordGeneration : UInt64 := 0
  staged : StagedSnapshots := {}
  ingested : IngestedDigests := {}
  publisherSequences : PublisherSequences := {}
  stopping : Bool := false

namespace Governor

/-- `publisher_key`. -/
def publisherKey (producer : ProducerIdentity) : UInt64 :=
  (fnv1a64 producer.name * 0x100000001B3) ^^^ producer.instanceId

/-- `current_window`: the highest window committed or staged. -/
def currentWindow (g : Governor) : ServiceWindowId :=
  g.staged.foldl (fun best _ snapshot =>
    if snapshot.window.value > best.value then snapshot.window else best) g.accounting.lastWindow

/-- `clear_staged`. -/
def clearStaged (g : Governor) : Governor :=
  { g with staged := {}, ingested := {}, publisherSequences := {} }

/-- `commit_accounting`. -/
def commitAccounting (g : Governor) : StatusM Governor :=
  match g.store with
  | none => pure g
  | some store => do
    store.commit .accounting g.accountingRecordGeneration (g.accountingRecordGeneration + 1)
      (encodeAccounting g.accounting) g.incarnation
    return { g with accountingRecordGeneration := g.accountingRecordGeneration + 1 }

/-- `commit_policy`. -/
def commitPolicy (g : Governor) : StatusM Governor :=
  match g.store with
  | none => pure g
  | some store => do
    store.commit .policy g.policyRecordGeneration (g.policyRecordGeneration + 1)
      (encodePolicy g.policy) g.incarnation
    return { g with policyRecordGeneration := g.policyRecordGeneration + 1 }

end Governor

end FairnessGovernor
