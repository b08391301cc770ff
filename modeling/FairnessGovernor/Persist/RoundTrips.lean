/-
# Decoding undoes encoding

Over the whole format: validated policies and snapshots always fit a payload and are read back
field for field, and so is every accounting that fits and is within its bounds.
-/
import FairnessGovernor.Persist.CodecSpec

namespace FairnessGovernor

open LittleEndian ByteReader

/-! ## Sizes -/

/-- Records of bounded size in a row. -/
lemma length_flatMap_le {α : Type} {records : List α} {write : α → ByteBuffer} {size : ℕ}
    (h : ∀ record ∈ records, (write record).length ≤ size) :
    (records.flatMap write).length ≤ records.length * size := by
  rw [List.length_flatMap]
  have hsum := List.sum_le_card_nsmul (records.map fun record => (write record).length) size
    (fun n hn => by
      obtain ⟨record, hrecord, rfl⟩ := List.mem_map.mp hn
      exact h record hrecord)
  rwa [List.length_map, smul_eq_mul] at hsum

lemma length_writeProvenance (provenance : Provenance) :
    (writeProvenance provenance).length = 28 + provenance.source.length := by
  simp only [writeProvenance, List.length_append, ByteWriter.length_u64, ByteWriter.length_i64,
    ByteWriter.length_blob]
  omega

lemma length_writeGroup (group : FairnessGroup) :
    (writeGroup group).length = 45 + group.label.length := by
  simp only [writeGroup, List.length_append, ByteWriter.length_u64, ByteWriter.length_u32,
    ByteWriter.length_flag, ByteWriter.length_blob]
  omega

lemma length_writeSubject (subject : Subject) :
    (writeSubject subject).length = 117 + subject.label.length := by
  simp only [writeSubject, writePriority, writeQos, List.length_append, ByteWriter.length_u64,
    ByteWriter.length_u32, ByteWriter.length_flag, ByteWriter.length_blob]
  omega

lemma length_writeObservation (observation : SubjectObservation) :
    (writeObservation observation).length = 64 := by
  simp only [writeObservation, writePriority, writeQos, List.length_append,
    ByteWriter.length_u64, ByteWriter.length_u32]

/-- A validated policy fits a payload. -/
theorem encodePolicy_fits {policy : FairnessPolicy} (h : validatePolicy policy = .ok ()) :
    (encodePolicy policy).length ≤ kMaxDurablePayloadBytes := by
  have hp := ValidPolicy.of_ok h
  have hgroups : (policy.groups.flatMap writeGroup).length ≤ policy.groups.length * 173 := by
    refine length_flatMap_le fun group hgroup => ?_
    have hlabel := (hp.group_valid group hgroup).label_le
    rw [length_writeGroup]
    unfold kMaxLabelBytes at hlabel
    omega
  have hsubjects : (policy.subjects.flatMap writeSubject).length ≤ policy.subjects.length * 245 := by
    refine length_flatMap_le fun subject hsubject => ?_
    have hlabel := (hp.subject_valid subject hsubject).label_le
    rw [length_writeSubject]
    unfold kMaxLabelBytes at hlabel
    omega
  have hgroupCount := hp.groups_le
  have hsubjectCount := hp.subjects_le
  have hsource := hp.source_le
  unfold kMaxGroups at hgroupCount
  unfold kMaxSubjects at hsubjectCount
  unfold kMaxLabelBytes at hsource
  simp only [encodePolicy, writePolicyFields, List.length_append, length_writeProvenance,
    ByteWriter.length_u16, ByteWriter.length_u32, ByteWriter.length_u64, ByteWriter.length_flag]
  unfold kMaxDurablePayloadBytes
  omega

/-- The names in a validated snapshot are short. -/
lemma validateEvidence_names {snapshot : EvidenceSnapshot}
    (h : validateEvidence snapshot = .ok ()) :
    snapshot.producer.name.length ≤ 128 ∧ snapshot.provenance.source.length ≤ 128 := by
  simp only [validateEvidence, bind_unit_eq_ok, rejectIf_eq_ok, not_lt] at h
  obtain ⟨-, -, -, -, -, -, hname, hsource, -⟩ := h
  exact ⟨hname, hsource⟩

/-- A validated snapshot fits a payload. -/
theorem encodeEvidence_fits {snapshot : EvidenceSnapshot} (h : validateEvidence snapshot = .ok ()) :
    (encodeEvidence snapshot).length ≤ kMaxDurablePayloadBytes := by
  obtain ⟨hname, hsource⟩ := validateEvidence_names h
  have hobservations : (snapshot.observations.flatMap writeObservation).length ≤
      snapshot.observations.length * 64 :=
    length_flatMap_le fun observation _ => (length_writeObservation observation).le
  have hcount := (ValidEvidence.of_ok h).observations_le
  unfold kMaxEvidenceRecords at hcount
  simp only [encodeEvidence, List.length_append, length_writeProvenance, ByteWriter.length_u16,
    ByteWriter.length_u32, ByteWriter.length_u64, ByteWriter.length_i64, ByteWriter.length_blob]
  unfold kMaxDurablePayloadBytes
  omega

/-! ## Evidence -/

lemma decodes_readObservation (observation : SubjectObservation) :
    Decodes readObservation (writeObservation observation) observation := by
  unfold writeObservation readObservation
  simp only [List.append_assoc]
  refine decodes_bind (decodes_u64 _ _) ?_
  refine decodes_bind (decodes_u64 _ _) ?_
  refine decodes_bind (decodes_u64 _ _) ?_
  refine decodes_bind (decodes_u32 _ _) ?_
  refine decodes_bind (decodes_u32 _ _) ?_
  refine decodes_bind (decodes_readPriority _ _) ?_
  exact decodes_bind_last (decodes_readQos _ _) (decodes_pure observation)

/-- The bytes of a snapshot between its version and the count of its observations. -/
def writeEvidenceFields (snapshot : EvidenceSnapshot) : ByteBuffer :=
  ByteWriter.u64 snapshot.id.value ++ (ByteWriter.u64 snapshot.generation.value ++
  (ByteWriter.u64 snapshot.window.value ++ (ByteWriter.u64 snapshot.windowGeneration.value ++
  (ByteWriter.u64 snapshot.epoch.value ++ (ByteWriter.i64 snapshot.capturedAtNs ++
  (ByteWriter.u64 snapshot.sequence ++ (ByteWriter.blob snapshot.producer.name ++
  (ByteWriter.u64 snapshot.producer.instanceId ++ (ByteWriter.u64 snapshot.producer.version ++
  (writeProvenance snapshot.provenance ++ ByteWriter.u64 snapshot.declaredDigest))))))))))

lemma encodeEvidence_eq (snapshot : EvidenceSnapshot) : encodeEvidence snapshot =
    ByteWriter.u16 kFormatVersion ++ (writeEvidenceFields snapshot ++
      (ByteWriter.u32 (UInt32.ofNat snapshot.observations.length) ++
        snapshot.observations.flatMap writeObservation)) := by
  simp only [encodeEvidence, writeEvidenceFields, List.append_assoc]

lemma decodes_readEvidenceFields (e : Status) {snapshot : EvidenceSnapshot}
    (hname : snapshot.producer.name.length ≤ 128)
    (hsource : snapshot.provenance.source.length ≤ 128) :
    Decodes (readEvidenceFields e) (writeEvidenceFields snapshot)
      { snapshot with observations := [] } := by
  have hname' : snapshot.producer.name.length ≤ kMaxEncodedStringBytes :=
    le_trans hname (by decide)
  unfold writeEvidenceFields readEvidenceFields
  refine decodes_bind (decodes_u64 _ _) ?_
  refine decodes_bind (decodes_u64 _ _) ?_
  refine decodes_bind (decodes_u64 _ _) ?_
  refine decodes_bind (decodes_u64 _ _) ?_
  refine decodes_bind (decodes_u64 _ _) ?_
  refine decodes_bind (decodes_i64 _ _) ?_
  refine decodes_bind (decodes_u64 _ _) ?_
  refine decodes_bind (decodes_blob _ hname' (by decide)) ?_
  refine decodes_bind (decodes_u64 _ _) ?_
  refine decodes_bind (decodes_u64 _ _) ?_
  refine decodes_bind (decodes_readProvenance _ hsource) ?_
  exact decodes_bind_last (decodes_u64 _ _) (decodes_pure _)

/-- A validated snapshot is read back as it was written. -/
theorem decodeEvidence_encodeEvidence {snapshot : EvidenceSnapshot}
    (h : validateEvidence snapshot = .ok ()) :
    decodeEvidence (encodeEvidence snapshot) = .ok snapshot := by
  obtain ⟨hname, hsource⟩ := validateEvidence_names h
  have hcount := (ValidEvidence.of_ok h).observations_le
  have hread : Decodes readEvidence (encodeEvidence snapshot) snapshot := by
    rw [encodeEvidence_eq]
    refine decodes_bind (decodes_readVersion _ _) ?_
    refine decodes_bind (decodes_readEvidenceFields _ hname hsource) ?_
    refine decodes_bind (decodes_readCount hcount (by decide)) ?_
    exact decodes_bind_last
      (decodes_replicateM fun observation _ => decodes_readObservation observation)
      (decodes_pure snapshot)
  unfold decodeEvidence
  rw [Decodes.decodePayload hread (encodeEvidence_fits h), ok_bind, h, ok_bind]
  rfl

/-! ## The whole format -/

/-- Validated policies and snapshots, and every accounting within its bounds that fits, are read
back as they were written. -/
theorem codecs_round_trip :
    (∀ policy, validatePolicy policy = .ok () →
      (encodePolicy policy).length ≤ kMaxDurablePayloadBytes ∧
        decodePolicy (encodePolicy policy) = .ok policy) ∧
    (∀ snapshot, validateEvidence snapshot = .ok () →
      (encodeEvidence snapshot).length ≤ kMaxDurablePayloadBytes ∧
        decodeEvidence (encodeEvidence snapshot) = .ok snapshot) ∧
    ∀ accounting : FairnessAccounting, (accounting.subjects.map (·.id)).Nodup →
      (∀ entry ∈ accounting.subjects, entry.cumulativeDeficit.toNat ≤ kMaxCarryUnits ∧
        entry.cumulativeSurplus.toNat ≤ kMaxCarryUnits ∧ entry.unservedStreak ≤ 1000000 ∧
        entry.belowFloorStreak ≤ 1000000) →
      (encodeAccounting accounting).length ≤ kMaxDurablePayloadBytes →
      decodeAccounting (encodeAccounting accounting) = .ok accounting := by
  refine ⟨fun policy h => ?_, fun snapshot h => ?_, fun accounting hnodup hbounds hfits => ?_⟩
  · exact ⟨encodePolicy_fits h, decodePolicy_encodePolicy h (encodePolicy_fits h)⟩
  · exact ⟨encodeEvidence_fits h, decodeEvidence_encodeEvidence h⟩
  · refine decodeAccounting_encodeAccounting ⟨fun entry hentry => ?_, hnodup⟩ hfits
    obtain ⟨hdeficit, hsurplus, hunserved, hbelow⟩ := hbounds entry hentry
    exact ⟨hdeficit, hsurplus, hunserved, hbelow⟩

/-- A policy of one group and one subject. -/
def flatPolicy : FairnessPolicy :=
  { id := ⟨1⟩, generation := ⟨1⟩, epoch := ⟨1⟩, maxPriorityModifierBps := 500
    provenance := { source := [111, 112], capturedAtNs := -5 }
    groups := [{ id := ⟨1⟩, generation := ⟨1⟩, label := [103] }]
    subjects := [{ id := ⟨1⟩, generation := ⟨1⟩, group := ⟨1⟩, priorityModifierBps := -500 }] }

/-- A snapshot of one observation. -/
def flatEvidence : EvidenceSnapshot :=
  { id := ⟨1⟩, generation := ⟨1⟩, window := ⟨1⟩, windowGeneration := ⟨1⟩, epoch := ⟨1⟩
    producer := { name := [112], instanceId := 3 }
    observations := [{ id := ⟨1⟩, generation := ⟨1⟩, servedUnits := 10 }] }

/-- An accounting of one entry. -/
def flatAccounting : FairnessAccounting :=
  { generation := 17, subjects := [{ id := ⟨1⟩, generation := ⟨1⟩, cumulativeDeficit := 12 }] }

lemma flatPolicy_valid : validatePolicy flatPolicy = .ok () :=
  eq_ok_of_isOk (by decide +kernel)

lemma flatEvidence_valid : validateEvidence flatEvidence = .ok () :=
  eq_ok_of_isOk (by decide +kernel)

theorem codecs_round_trip_flat :
    decodePolicy (encodePolicy flatPolicy) = .ok flatPolicy ∧
    decodeEvidence (encodeEvidence flatEvidence) = .ok flatEvidence ∧
    decodeAccounting (encodeAccounting flatAccounting) = .ok flatAccounting := by
  obtain ⟨hpolicy, hevidence, haccounting⟩ := codecs_round_trip
  refine ⟨(hpolicy flatPolicy flatPolicy_valid).2, (hevidence flatEvidence flatEvidence_valid).2,
    haccounting flatAccounting (by decide) ?_ ?_⟩
  · intro entry hentry
    obtain rfl := List.mem_singleton.mp hentry
    decide
  · decide +kernel

end FairnessGovernor
