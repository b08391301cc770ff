/-
# What the codecs guarantee

`ValidAccounting.of_decode` is what decoding an accounting record establishes; the round trips
say that a restart reads back what was committed.
-/
import FairnessGovernor.Persist.Codec

namespace FairnessGovernor

open LittleEndian ByteReader

/-! ## What decoding establishes -/

lemma decodePayload_eq_ok {α : Type} {oversized trailing : String} {reader : ByteReader α}
    {bytes : ByteBuffer} {value : α} :
    decodePayload oversized trailing reader bytes = .ok value ↔
      bytes.length ≤ kMaxDurablePayloadBytes ∧ reader bytes = .ok (value, []) := by
  unfold decodePayload
  rw [rejectIf_bind_eq_ok, not_lt, bind_eq_ok]
  refine and_congr_right fun _ => ?_
  constructor
  · rintro ⟨⟨value', rest⟩, hread, h⟩
    obtain ⟨hrest, h⟩ := rejectIf_bind_eq_ok.mp h
    obtain rfl := Except.ok.inj h
    rw [hread, not_not.mp hrest]
  · intro hread
    exact ⟨(value, []), hread, by rw [rejectIf_bind_eq_ok]; exact ⟨fun h => h rfl, rfl⟩⟩

lemma decodePayload_refuses {α : Type} {oversized trailing : String} {reader : ByteReader α}
    (h : Reports reader fun e => e.code ≠ .ok) (bytes : ByteBuffer) :
    Refuses (decodePayload oversized trailing reader bytes) := by
  refine rejectIf_bind_code (by decide) (refuses_bind (h bytes) fun _ => ?_)
  exact rejectIf_bind_code (by decide) (refuses_ok _)

section Evidence

open ByteReader

variable {P : Status → Prop}

lemma readPriority_reports {e : Status} (h : P e) : Reports (readPriority e) P :=
  reports_bind (reports_u64 h) fun _ => reports_bind (reports_u64 h) fun _ => reports_pure _

lemma readQos_reports {e : Status} (h : P e) : Reports (readQos e) P :=
  reports_bind (reports_u64 h) fun _ => reports_bind (reports_u64 h) fun _ => reports_pure _

lemma readProvenance_reports {e : Status} (h : P e) : Reports (readProvenance e) P := by
  refine reports_bind (reports_u64 h) fun _ => reports_bind (reports_blob h _) fun _ => ?_
  exact reports_bind (reports_u64 h) fun _ => reports_bind (reports_i64 h) fun _ => reports_pure _

lemma readCount_reports {truncated limit : Status} (htruncated : P truncated) (hlimit : P limit)
    (maxCount : ℕ) : Reports (readCount truncated limit maxCount) P :=
  reports_bind (reports_u32 htruncated) fun _ =>
    reports_bind (reports_require hlimit) fun _ => reports_pure _

lemma readObservation_reports (h : P ⟨.truncated, "evidence observation truncated"⟩) :
    Reports readObservation P := by
  unfold readObservation
  iterate 3 refine reports_bind (reports_u64 h) fun _ => ?_
  iterate 2 refine reports_bind (reports_u32 h) fun _ => ?_
  exact reports_bind (readPriority_reports h) fun _ =>
    reports_bind (readQos_reports h) fun _ => reports_pure _

lemma readEvidenceFields_reports {e : Status} (h : P e) : Reports (readEvidenceFields e) P := by
  unfold readEvidenceFields
  iterate 5 refine reports_bind (reports_u64 h) fun _ => ?_
  refine reports_bind (reports_i64 h) fun _ => reports_bind (reports_u64 h) fun _ => ?_
  refine reports_bind (reports_blob h _) fun _ => ?_
  iterate 2 refine reports_bind (reports_u64 h) fun _ => ?_
  exact reports_bind (readProvenance_reports h) fun _ =>
    reports_bind (reports_u64 h) fun _ => reports_pure _

/-- No status of the evidence decoder is the one of success. -/
lemma decodeEvidence_refuses (bytes : ByteBuffer) : Refuses (decodeEvidence bytes) := by
  refine refuses_bind (decodePayload_refuses ?_ bytes) fun snapshot =>
    refuses_bind (validateEvidence_refuses snapshot) fun _ => refuses_ok snapshot
  unfold readEvidence readVersion
  refine reports_bind (reports_bind (reports_u16 (by decide)) fun _ =>
    reports_require (by decide)) fun _ => ?_
  refine reports_bind (readEvidenceFields_reports (by decide)) fun _ => ?_
  refine reports_bind (readCount_reports (by decide) (by decide) _) fun _ => ?_
  exact reports_bind (reports_replicateM (readObservation_reports (by decide)) _) fun _ =>
    reports_pure _

/-- Every decoded snapshot was validated. -/
lemma validateEvidence_of_decode {bytes : ByteBuffer} {snapshot : EvidenceSnapshot}
    (h : decodeEvidence bytes = .ok snapshot) : validateEvidence snapshot = .ok () := by
  obtain ⟨decoded, -, h⟩ := bind_eq_ok.mp h
  obtain ⟨hvalid, h⟩ := bind_unit_eq_ok.mp h
  obtain rfl := Except.ok.inj h
  exact hvalid

end Evidence

lemma readEntry_valid {input rest : List UInt8} {entry : SubjectAccounting}
    (h : readEntry input = .ok (entry, rest)) : ValidEntry entry := by
  unfold readEntry at h
  iterate 12 obtain ⟨_, _, -, h⟩ := bind_ok.mp h
  obtain ⟨_, _, hcarry, h⟩ := bind_ok.mp h
  obtain ⟨_, _, hstreak, h⟩ := bind_ok.mp h
  obtain ⟨⟨hdeficit, hsurplus⟩, -⟩ := require_ok.mp hcarry
  obtain ⟨⟨hunserved, hbelow⟩, -⟩ := require_ok.mp hstreak
  cases h
  exact ⟨hdeficit, hsurplus, hunserved, hbelow⟩

lemma readEntries_valid {count : ℕ} {seen : List SubjectId} {input rest : List UInt8}
    {entries : List SubjectAccounting} (h : readEntries count seen input = .ok (entries, rest)) :
    (∀ entry ∈ entries, ValidEntry entry) ∧ (entries.map (·.id)).Nodup ∧
      ∀ entry ∈ entries, entry.id ∉ seen := by
  induction count generalizing seen input rest entries with
  | zero =>
    cases h
    simp
  | succ count ih =>
    obtain ⟨entry, _, hentry, h⟩ := bind_ok.mp h
    obtain ⟨_, _, hfresh, h⟩ := bind_ok.mp h
    obtain ⟨more, _, hmore, h⟩ := bind_ok.mp h
    obtain ⟨hnotin, -⟩ := require_ok.mp hfresh
    obtain ⟨hvalid, hnodup, hunseen⟩ := ih hmore
    cases h
    refine ⟨?_, unseen_cons hnotin hnodup hunseen⟩
    rintro e (_ | ⟨_, he⟩)
    · exact readEntry_valid hentry
    · exact hvalid e he

/-- Every decoded accounting is within its bounds. -/
theorem ValidAccounting.of_decode {bytes : ByteBuffer} {accounting : FairnessAccounting}
    (h : decodeAccounting bytes = .ok accounting) : ValidAccounting accounting := by
  obtain ⟨-, hread⟩ := decodePayload_eq_ok.mp h
  obtain ⟨_, _, -, hread⟩ := bind_ok.mp hread
  obtain ⟨_, _, -, hread⟩ := bind_ok.mp hread
  obtain ⟨_, _, -, hread⟩ := bind_ok.mp hread
  obtain ⟨subjects, _, hentries, hread⟩ := bind_ok.mp hread
  obtain ⟨hvalid, hnodup, -⟩ := readEntries_valid hentries
  cases hread
  exact ⟨hvalid, hnodup⟩

/-- Every decoded policy was validated. -/
lemma validatePolicy_of_decode {bytes : ByteBuffer} {policy : FairnessPolicy}
    (h : decodePolicy bytes = .ok policy) : validatePolicy policy = .ok () := by
  obtain ⟨policy', -, h⟩ := bind_eq_ok.mp h
  obtain ⟨hvalid, h⟩ := bind_unit_eq_ok.mp h
  cases h
  exact hvalid

/-! ## Round trips -/

lemma decodes_readVersion (truncated unsupported : Status) :
    Decodes (readVersion truncated unsupported) (ByteWriter.u16 kFormatVersion) () :=
  decodes_bind_last (decodes_u16 _ _) fun _ => rfl

lemma decodes_readCount {truncated limit : Status} {maxCount count : ℕ} (h : count ≤ maxCount)
    (hmax : maxCount < 2 ^ 32) :
    Decodes (readCount truncated limit maxCount) (ByteWriter.u32 (UInt32.ofNat count)) count := by
  have hcount : (UInt32.ofNat count).toNat = count :=
    UInt32.toNat_ofNat_of_lt' (by simpa using lt_of_le_of_lt h hmax)
  refine decodes_bind_last (decodes_u32 _ _) ?_
  refine decodes_require (by rw [hcount]; exact h) ?_
  rw [hcount]
  exact decodes_pure count

lemma decodes_readPriority (e : Status) (ref : PriorityClassRef) :
    Decodes (readPriority e) (writePriority ref) ref :=
  decodes_bind (decodes_u64 e _) (decodes_bind_last (decodes_u64 e _) (decodes_pure ref))

lemma decodes_readQos (e : Status) (ref : QosClassRef) :
    Decodes (readQos e) (writeQos ref) ref :=
  decodes_bind (decodes_u64 e _) (decodes_bind_last (decodes_u64 e _) (decodes_pure ref))

lemma decodes_readProvenance (e : Status) {provenance : Provenance}
    (h : provenance.source.length ≤ kMaxLabelBytes) :
    Decodes (readProvenance e) (writeProvenance provenance) provenance := by
  have hsource : provenance.source.length ≤ kMaxEncodedStringBytes := le_trans h (by decide)
  unfold writeProvenance
  simp only [List.append_assoc]
  refine decodes_bind (decodes_u64 e _) (decodes_bind (decodes_blob e hsource (by decide)) ?_)
  exact decodes_bind (decodes_u64 e _) (decodes_bind_last (decodes_i64 e _)
    (decodes_pure provenance))

lemma decodes_readGroup {group : FairnessGroup} (h : group.label.length ≤ kMaxLabelBytes) :
    Decodes readGroup (writeGroup group) group := by
  have hlabel : group.label.length ≤ kMaxEncodedStringBytes := le_trans h (by decide)
  unfold writeGroup readGroup
  simp only [List.append_assoc]
  refine decodes_bind (decodes_u64 _ _) ?_
  refine decodes_bind (decodes_u64 _ _) ?_
  refine decodes_bind (decodes_u64 _ _) ?_
  refine decodes_bind (decodes_u32 _ _) ?_
  refine decodes_bind (decodes_u64 _ _) ?_
  refine decodes_bind (decodes_u32 _ _) ?_
  refine decodes_bind (decodes_flag _ _) ?_
  exact decodes_bind_last (decodes_blob _ hlabel (by decide)) (decodes_pure group)

lemma decodes_readSubject {subject : Subject} (h : subject.label.length ≤ kMaxLabelBytes) :
    Decodes readSubject (writeSubject subject) subject := by
  have hlabel : subject.label.length ≤ kMaxEncodedStringBytes := le_trans h (by decide)
  unfold writeSubject readSubject
  simp only [List.append_assoc]
  refine decodes_bind (decodes_u64 _ _) ?_
  refine decodes_bind (decodes_u64 _ _) ?_
  refine decodes_bind (decodes_u64 _ _) ?_
  refine decodes_bind (decodes_u64 _ _) ?_
  refine decodes_bind (decodes_u32 _ _) ?_
  refine decodes_bind (decodes_u64 _ _) ?_
  refine decodes_bind (decodes_u32 _ _) ?_
  refine decodes_bind (decodes_u32 _ _) ?_
  refine decodes_bind (decodes_readPriority _ _) ?_
  refine decodes_bind (decodes_readQos _ _) ?_
  refine decodes_bind (decodes_u32 _ _) ?_
  refine decodes_bind (decodes_u32 _ _) ?_
  refine decodes_bind (decodes_u32 _ _) ?_
  refine decodes_bind (decodes_flag _ _) ?_
  refine decodes_bind (decodes_u64 _ _) ?_
  refine decodes_bind (decodes_u64 _ _) ?_
  exact decodes_bind_last (decodes_blob _ hlabel (by decide)) (decodes_pure subject)

lemma decodes_readPolicyFields {policy : FairnessPolicy}
    (h : policy.provenance.source.length ≤ kMaxLabelBytes) :
    Decodes readPolicyFields (writePolicyFields policy)
      { policy with groups := [], subjects := [] } := by
  unfold writePolicyFields readPolicyFields
  simp only [List.append_assoc]
  refine decodes_bind (decodes_u64 _ _) ?_
  refine decodes_bind (decodes_u64 _ _) ?_
  refine decodes_bind (decodes_u64 _ _) ?_
  refine decodes_bind (decodes_u64 _ _) ?_
  refine decodes_bind (decodes_u64 _ _) ?_
  refine decodes_bind (decodes_u64 _ _) ?_
  refine decodes_bind (decodes_u32 _ _) ?_
  refine decodes_bind (decodes_u64 _ _) ?_
  refine decodes_bind (decodes_u32 _ _) ?_
  refine decodes_bind (decodes_u32 _ _) ?_
  refine decodes_bind (decodes_u32 _ _) ?_
  refine decodes_bind (decodes_u64 _ _) ?_
  refine decodes_bind (decodes_u64 _ _) ?_
  refine decodes_bind (decodes_flag _ _) ?_
  exact decodes_bind_last (decodes_readProvenance _ h) (decodes_pure _)

/-- A payload that decodes with nothing left over. -/
lemma Decodes.decodePayload {α : Type} {oversized trailing : String} {reader : ByteReader α}
    {bytes : ByteBuffer} {value : α} (h : Decodes reader bytes value)
    (hlen : bytes.length ≤ kMaxDurablePayloadBytes) :
    decodePayload oversized trailing reader bytes = .ok value := by
  rw [decodePayload_eq_ok]
  refine ⟨hlen, ?_⟩
  have hread := h []
  rwa [List.append_nil] at hread

/-- A validated policy that fits a record is read back as it was written. -/
theorem decodePolicy_encodePolicy {policy : FairnessPolicy} (h : validatePolicy policy = .ok ())
    (hlen : (encodePolicy policy).length ≤ kMaxDurablePayloadBytes) :
    decodePolicy (encodePolicy policy) = .ok policy := by
  have hp := ValidPolicy.of_ok h
  have hread : Decodes readPolicy (encodePolicy policy) policy := by
    unfold encodePolicy
    simp only [List.append_assoc]
    refine decodes_bind (decodes_readVersion _ _) ?_
    refine decodes_bind (decodes_readPolicyFields hp.source_le) ?_
    refine decodes_bind (decodes_readCount hp.groups_le (by decide)) ?_
    refine decodes_bind (decodes_replicateM fun g hg =>
      decodes_readGroup (hp.group_valid g hg).label_le) ?_
    refine decodes_bind (decodes_readCount hp.subjects_le (by decide)) ?_
    exact decodes_bind_last (decodes_replicateM fun s hs =>
      decodes_readSubject (hp.subject_valid s hs).label_le) (decodes_pure policy)
  unfold decodePolicy
  rw [Decodes.decodePayload hread hlen, ok_bind, h, ok_bind]
  rfl

/-- What an encoded policy decodes to. -/
lemma decodePolicy_encoded {policy durable : FairnessPolicy} (h : validatePolicy policy = .ok ())
    (hdecodes : decodePolicy (encodePolicy policy) = .ok durable) : durable = policy := by
  obtain ⟨_, hpayload, -⟩ := bind_eq_ok.mp hdecodes
  have hsize := (decodePayload_eq_ok.mp hpayload).1
  exact Except.ok.inj (hdecodes.symm.trans (decodePolicy_encodePolicy h hsize))

lemma decodes_readEntry {entry : SubjectAccounting} (h : ValidEntry entry) :
    Decodes readEntry (writeEntry entry) entry := by
  unfold writeEntry readEntry
  simp only [List.append_assoc]
  refine decodes_bind (decodes_u64 _ _) ?_
  refine decodes_bind (decodes_u64 _ _) ?_
  refine decodes_bind (decodes_u64 _ _) ?_
  refine decodes_bind (decodes_u64 _ _) ?_
  refine decodes_bind (decodes_u64 _ _) ?_
  refine decodes_bind (decodes_u64 _ _) ?_
  refine decodes_bind (decodes_u32 _ _) ?_
  refine decodes_bind (decodes_u32 _ _) ?_
  refine decodes_bind (decodes_u64 _ _) ?_
  refine decodes_bind (decodes_u64 _ _) ?_
  refine decodes_bind (decodes_u64 _ _) ?_
  refine decodes_bind_last (decodes_u64 _ _) ?_
  refine decodes_require ⟨h.deficit_le, h.surplus_le⟩ ?_
  exact decodes_require ⟨h.unserved_le, h.belowFloor_le⟩ (decodes_pure entry)

lemma decodes_readEntries {entries : List SubjectAccounting} {seen : List SubjectId}
    (hvalid : ∀ entry ∈ entries, ValidEntry entry) (hnodup : (entries.map (·.id)).Nodup)
    (hseen : ∀ entry ∈ entries, entry.id ∉ seen) :
    Decodes (readEntries entries.length seen) (entries.flatMap writeEntry) entries := by
  induction entries generalizing seen with
  | nil => exact decodes_pure []
  | cons entry rest ih =>
    rw [List.map_cons, List.nodup_cons] at hnodup
    rw [List.flatMap_cons]
    refine decodes_bind (decodes_readEntry (hvalid entry (by simp))) ?_
    refine decodes_require (hseen entry (by simp)) ?_
    refine decodes_bind_last (ih (fun e he => hvalid e (by simp [he])) hnodup.2 fun e he => ?_)
      (decodes_pure _)
    rw [List.mem_cons, not_or]
    exact ⟨fun heq => hnodup.1 (List.mem_map.mpr ⟨e, he, heq⟩), hseen e (by simp [he])⟩

lemma decodes_readAccountingFields (e : Status) (accounting : FairnessAccounting) :
    Decodes (readAccountingFields e) (writeAccountingFields accounting)
      { accounting with subjects := [] } := by
  unfold writeAccountingFields readAccountingFields
  simp only [List.append_assoc]
  refine decodes_bind (decodes_u64 _ _) ?_
  refine decodes_bind (decodes_u64 _ _) ?_
  refine decodes_bind (decodes_u64 _ _) ?_
  refine decodes_bind (decodes_u64 _ _) ?_
  refine decodes_bind (decodes_u64 _ _) ?_
  refine decodes_bind (decodes_u64 _ _) ?_
  refine decodes_bind (decodes_u64 _ _) ?_
  exact decodes_bind_last (decodes_u64 _ _) (decodes_pure _)

@[simp] lemma length_writeEntry (entry : SubjectAccounting) : (writeEntry entry).length = 88 := by
  simp [writeEntry]

lemma length_flatMap_writeEntry (entries : List SubjectAccounting) :
    (entries.flatMap writeEntry).length = entries.length * 88 := by
  rw [List.length_flatMap]
  simp

/-- A payload within the durable bound holds few enough entries for its count. -/
lemma entries_le_of_length {accounting : FairnessAccounting}
    (hlen : (encodeAccounting accounting).length ≤ kMaxDurablePayloadBytes) :
    accounting.subjects.length ≤ kMaxEncodedRecords := by
  unfold encodeAccounting at hlen
  rw [List.length_append, length_flatMap_writeEntry] at hlen
  unfold kMaxDurablePayloadBytes at hlen
  unfold kMaxEncodedRecords
  omega

/-- An accounting within its bounds that fits a record is read back as it was written. -/
theorem decodeAccounting_encodeAccounting {accounting : FairnessAccounting}
    (h : ValidAccounting accounting)
    (hlen : (encodeAccounting accounting).length ≤ kMaxDurablePayloadBytes) :
    decodeAccounting (encodeAccounting accounting) = .ok accounting := by
  have hcount := entries_le_of_length hlen
  refine Decodes.decodePayload ?_ hlen
  unfold encodeAccounting
  simp only [List.append_assoc]
  refine decodes_bind (decodes_readVersion _ _) ?_
  refine decodes_bind (decodes_readAccountingFields _ _) ?_
  refine decodes_bind (decodes_readCount hcount (by decide)) ?_
  exact decodes_bind_last (decodes_readEntries h.entry_valid h.ids_nodup (by simp))
    (decodes_pure accounting)

/-- Whatever becomes of the entries, the fields before them are read back. -/
lemma decodeAccounting_fields {accounting durable : FairnessAccounting}
    (h : decodeAccounting (encodeAccounting accounting) = .ok durable) :
    ∃ subjects, durable = { accounting with subjects := subjects } := by
  obtain ⟨-, hread⟩ := decodePayload_eq_ok.mp h
  unfold encodeAccounting at hread
  simp only [List.append_assoc] at hread
  obtain ⟨_, rest, hversion, hread⟩ := bind_ok.mp hread
  obtain ⟨-, rfl⟩ := Prod.mk_inj.mp (Except.ok.inj ((decodes_readVersion _ _ _).symm.trans hversion))
  obtain ⟨fields, rest, hfields, hread⟩ := bind_ok.mp hread
  obtain ⟨rfl, rfl⟩ := Prod.mk_inj.mp
    (Except.ok.inj ((decodes_readAccountingFields _ accounting _).symm.trans hfields))
  obtain ⟨_, _, -, hread⟩ := bind_ok.mp hread
  obtain ⟨subjects, _, -, hread⟩ := bind_ok.mp hread
  cases hread
  exact ⟨subjects, rfl⟩

/-- An encoded accounting determines its epoch. -/
lemma epoch_of_encodeAccounting {a b : FairnessAccounting}
    (h : encodeAccounting a = encodeAccounting b) : a.epoch = b.epoch := by
  unfold encodeAccounting at h
  simp only [List.append_assoc] at h
  have hrest := List.append_cancel_left h
  have hread := congrArg (readAccountingFields ⟨.truncated, ""⟩) hrest
  rw [decodes_readAccountingFields, decodes_readAccountingFields] at hread
  obtain ⟨hfields, -⟩ := Prod.mk_inj.mp (Except.ok.inj hread)
  exact (FairnessAccounting.mk.inj hfields).2.2.1

end FairnessGovernor
