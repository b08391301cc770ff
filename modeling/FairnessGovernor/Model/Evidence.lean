/-
# Dynamic service evidence

Evidence describes what a producer observed in one service window.  It never carries
entitlement authority and is never restored after a restart.
-/
import FairnessGovernor.Model.Policy

namespace FairnessGovernor

/-- Identity of the software that produced an evidence snapshot. -/
structure ProducerIdentity where
  name : ByteBuffer := []
  instanceId : UInt64 := 0
  version : UInt64 := 0
deriving DecidableEq, Inhabited

/-- Observed service for one subject inside one service window. -/
structure SubjectObservation where
  id : SubjectId := {}
  generation : SubjectGeneration := {}
  servedUnits : UInt64 := 0
  unservedStreak : UInt32 := 0
  belowFloorStreak : UInt32 := 0
  priority : PriorityClassRef := {}
  qos : QosClassRef := {}
deriving DecidableEq, Inhabited

/-- One complete, immutable service-window report. -/
structure EvidenceSnapshot where
  id : EvidenceSnapshotId := {}
  generation : EvidenceSnapshotGeneration := {}
  window : ServiceWindowId := {}
  windowGeneration : ServiceWindowGeneration := {}
  epoch : FabricEpoch := {}
  capturedAtNs : Int64 := 0
  sequence : UInt64 := 0
  producer : ProducerIdentity := {}
  provenance : Provenance := {}
  declaredDigest : UInt64 := 0
  observations : List SubjectObservation := []
deriving DecidableEq, Inhabited

/-- `EvidenceSnapshot::find`. -/
def EvidenceSnapshot.find (snapshot : EvidenceSnapshot) (subject : SubjectId) :
    Option SubjectObservation :=
  snapshot.observations.find? fun observation => observation.id = subject

/-- The digest of one observation. -/
def observationDigest (observation : SubjectObservation) : UInt64 :=
  fnv1a64 (ByteWriter.u64 observation.id.value ++ ByteWriter.u64 observation.generation.value ++
    ByteWriter.u64 observation.servedUnits ++
    ByteWriter.u64 observation.unservedStreak.toUInt64 ++
    ByteWriter.u64 observation.belowFloorStreak.toUInt64 ++
    ByteWriter.u64 observation.priority.id.value ++ ByteWriter.u64 observation.qos.id.value)

/-- `compute_observation_digest`: the digests of the observations, combined with two
commutative operators. -/
def computeObservationDigest (snapshot : EvidenceSnapshot) : UInt64 :=
  let digests := snapshot.observations.map observationDigest
  (digests.foldl (· + ·) 0 * 0x9E3779B97F4A7C15) ^^^ digests.foldl (· ^^^ ·) 0 ^^^
    kFnvOffsetBasis

/-! ## Validation -/

/-- `kMaxStreakWindows`. -/
def kMaxStreakWindows : UInt32 := 1000000

/-- The checks on the observations, in order, with the running total of served units. -/
def validateObservations : List SubjectObservation → ℕ → Except Status Unit
  | [], _ => .ok ()
  | observation :: rest, totalServed => do
    rejectIf (¬ observation.id.valid) .invalidArgument "observation subject id must be non-zero"
    rejectIf (¬ observation.generation.valid) .invalidArgument
      "observation generation must be >= 1"
    rejectIf (observation.servedUnits.toNat > kMaxServiceUnits) .outOfRange
      "observed service exceeds kMaxServiceUnits"
    rejectIf (observation.unservedStreak > kMaxStreakWindows ∨
      observation.belowFloorStreak > kMaxStreakWindows) .outOfRange
      "observation streak is implausible"
    rejectIf (¬ observation.priority.consistent) .invalidArgument
      "observation priority reference is incoherent"
    rejectIf (¬ observation.qos.consistent) .invalidArgument
      "observation QoS reference is incoherent"
    rejectIf (observation.servedUnits > 0 ∧ observation.unservedStreak ≠ 0)
      .evidenceContradictory "an observation cannot be served and unserved in the same window"
    match checkedAdd totalServed observation.servedUnits.toNat with
    | none => .error ⟨.arithmeticOverflow, "total observed service overflows"⟩
    | some total => validateObservations rest total

/-- `validate_evidence`. -/
def validateEvidence (snapshot : EvidenceSnapshot) : Except Status Unit := do
  rejectIf (¬ snapshot.id.valid) .invalidArgument "evidence snapshot id must be non-zero"
  rejectIf (¬ snapshot.generation.valid) .invalidArgument
    "evidence snapshot generation must be >= 1"
  rejectIf (¬ snapshot.window.valid) .invalidArgument "service window id must be non-zero"
  rejectIf (¬ snapshot.windowGeneration.valid) .invalidArgument
    "service window generation must be >= 1"
  rejectIf (¬ snapshot.epoch.valid) .invalidArgument "evidence epoch must be >= 1"
  rejectIf (snapshot.observations.length > kMaxEvidenceRecords) .limitExceeded
    "observation count exceeds kMaxEvidenceRecords"
  rejectIf (snapshot.producer.name.length > 128) .limitExceeded "producer name is too long"
  rejectIf (snapshot.provenance.source.length > 128) .limitExceeded
    "provenance source is too long"
  rejectIf (snapshot.capturedAtNs < 0) .invalidArgument "capture instant must not be negative"
  validateObservations snapshot.observations 0
  rejectIf (¬ (snapshot.observations.map (·.id)).Nodup) .duplicate
    "evidence declares the same subject twice"
  rejectIf (snapshot.declaredDigest ≠ 0 ∧
    computeObservationDigest snapshot ≠ snapshot.declaredDigest) .evidenceContradictory
    "declared observation digest does not match the observation set"

/-- What a snapshot is refused for. -/
def evidenceCodes : List StatusCode :=
  [.invalidArgument, .outOfRange, .limitExceeded, .duplicate, .evidenceContradictory,
    .arithmeticOverflow]

lemma validateObservations_failsWith (observations : List SubjectObservation) (total : ℕ) :
    FailsWith evidenceCodes (validateObservations observations total) := by
  induction observations generalizing total with
  | nil => exact failsWith_ok ()
  | cons observation rest ih =>
    rw [validateObservations]
    iterate 7 refine rejectIf_bind_failsWith (by decide) ?_
    split
    · exact failsWith_error (by decide)
    · exact ih _

lemma validateEvidence_failsWith (snapshot : EvidenceSnapshot) :
    FailsWith evidenceCodes (validateEvidence snapshot) := by
  unfold validateEvidence
  iterate 9 refine rejectIf_bind_failsWith (by decide) ?_
  refine (validateObservations_failsWith _ _).bind fun _ => ?_
  exact rejectIf_bind_failsWith (by decide) (failsWith_rejectIf (by decide))

lemma validateEvidence_refuses (snapshot : EvidenceSnapshot) :
    Refuses (validateEvidence snapshot) := (validateEvidence_failsWith snapshot).refuses (by decide)

/-- An observation that passed its checks. -/
structure ValidObservation (observation : SubjectObservation) : Prop where
  id_valid : observation.id.valid
  generation_valid : observation.generation.valid
  served_le : observation.servedUnits.toNat ≤ kMaxServiceUnits
  unserved_le : observation.unservedStreak ≤ kMaxStreakWindows
  belowFloor_le : observation.belowFloorStreak ≤ kMaxStreakWindows
  priority_consistent : observation.priority.consistent
  qos_consistent : observation.qos.consistent
  served_or_unserved : observation.servedUnits = 0 ∨ observation.unservedStreak = 0

/-- What the validator establishes. -/
structure ValidEvidence (snapshot : EvidenceSnapshot) : Prop where
  id_valid : snapshot.id.valid
  generation_valid : snapshot.generation.valid
  window_valid : snapshot.window.valid
  windowGeneration_valid : snapshot.windowGeneration.valid
  epoch_valid : snapshot.epoch.valid
  observations_le : snapshot.observations.length ≤ kMaxEvidenceRecords
  captured_nonneg : 0 ≤ snapshot.capturedAtNs.toInt
  observation_valid : ∀ observation ∈ snapshot.observations, ValidObservation observation
  ids_nodup : (snapshot.observations.map (·.id)).Nodup

lemma validateObservations_eq_ok {observations : List SubjectObservation} {total : ℕ}
    (h : validateObservations observations total = .ok ()) :
    ∀ observation ∈ observations, ValidObservation observation := by
  induction observations generalizing total with
  | nil => simp
  | cons o rest ih =>
    simp only [validateObservations, rejectIf_bind_eq_ok, not_not, not_or, not_and, not_lt] at h
    obtain ⟨hid, hgen, hserved, ⟨hu, hb⟩, hprio, hqos, hcontra, hrest⟩ := h
    rintro o' (_ | ⟨_, ho'⟩)
    · refine ⟨hid, hgen, hserved, UInt32.not_lt.mp hu, UInt32.not_lt.mp hb, hprio, hqos, ?_⟩
      by_cases h0 : o.servedUnits = 0
      · exact .inl h0
      · exact .inr (hcontra (UInt64.pos_iff_ne_zero.mpr h0))
    · split at hrest
      · simp at hrest
      · exact ih hrest o' ho'

/-- What an accepted snapshot satisfies. -/
theorem ValidEvidence.of_ok {snapshot : EvidenceSnapshot}
    (h : validateEvidence snapshot = .ok ()) : ValidEvidence snapshot := by
  simp only [validateEvidence, bind_unit_eq_ok, rejectIf_eq_ok, not_not, not_lt] at h
  obtain ⟨hid, hgen, hwin, hwgen, hepoch, hcount, -, -, hcaptured, hobs, hnodup, -⟩ := h
  refine ⟨hid, hgen, hwin, hwgen, hepoch, hcount, ?_, validateObservations_eq_ok hobs, hnodup⟩
  rw [Int64.lt_iff_toInt_lt] at hcaptured
  simpa using hcaptured

end FairnessGovernor
