/-
# What the record decoder accepts

The record decoder accepts exactly what the encoder writes.  One direction is the round trip;
for the other, a header is put together again from the fields that were read, so nothing is
left in the header that a check does not pin.  The decoder writes its outputs at its end only,
so a rejection leaves them alone.
-/
import FairnessGovernor.Persist.StoreSpec

namespace FairnessGovernor

open LittleEndian ByteWriter

/-! ## Output parameters -/

/-- A decoder with output parameters: what it assigned stays assigned when it fails later. -/
abbrev OutputM (σ : Type) := ExceptT Status (StateM σ)

namespace OutputM

variable {σ : Type}

/-- A check of a decoder. -/
def check (x : Except Status Unit) : OutputM σ Unit := ExceptT.mk (pure x)

/-- An assignment to output parameters. -/
def assign (update : σ → σ) : OutputM σ Unit := ExceptT.lift (modify update)

/-- The decoder computes `x` and assigns the outputs only when it succeeds. -/
def Yields (p : OutputM σ Unit) (x : Except Status σ) : Prop :=
  ∀ outputs, p.run outputs = match x with
    | .ok result => (.ok (), result)
    | .error e => (.error e, outputs)

/-- A check that comes before every assignment. -/
lemma Yields.check {p : OutputM σ Unit} {x : Except Status Unit} {y : Except Status σ}
    (h : Yields p y) : Yields (do check x; p) (do x; y) := by
  intro outputs
  cases x with
  | error e => rfl
  | ok _ => exact h outputs

lemma Yields.run_eq_ok {p : OutputM σ Unit} {x : Except Status σ} (h : Yields p x)
    {outputs result : σ} : p.run outputs = (.ok (), result) ↔ x = .ok result := by
  rw [h outputs]
  cases x with
  | error e =>
    show ((.error e, outputs) : Except Status Unit × σ) = (.ok (), result) ↔ _
    simp
  | ok value =>
    show ((.ok (), value) : Except Status Unit × σ) = (.ok (), result) ↔ _
    simp

lemma Yields.run_eq_error {p : OutputM σ Unit} {x : Except Status σ} (h : Yields p x)
    {outputs result : σ} {e : Status} :
    p.run outputs = (.error e, result) ↔ x = .error e ∧ result = outputs := by
  rw [h outputs]
  cases x with
  | error e' =>
    show ((.error e', outputs) : Except Status Unit × σ) = (.error e, result) ↔ _
    simp [eq_comm]
  | ok value =>
    show ((.ok (), value) : Except Status Unit × σ) = (.error e, result) ↔ _
    simp

end OutputM

/-- `decode_record` as the source has it, with its four output parameters. -/
def decodeRecordInto (bytes : ByteBuffer) (expectedKind : RecordKind) :
    OutputM DecodedRecord Unit := do
  OutputM.check <| rejectIf (bytes.length < kRecordHeaderSize) .truncated
    "record is shorter than its header"
  OutputM.check <| rejectIf (bytes.length > kRecordHeaderSize + kMaxDurablePayloadBytes)
    .oversizedPayload "record exceeds the durable bound"
  OutputM.check <| rejectIf (loadLe 4 bytes 0 ≠ kRecordMagic.toNat) .corruptRecord
    "record magic mismatch"
  OutputM.check <| rejectIf (loadLe 2 bytes 4 ≠ kFormatVersion.toNat) .unsupportedFormat
    "unsupported record format version"
  OutputM.check <| rejectIf (loadLe 2 bytes 6 ≠ expectedKind.toUInt16.toNat) .corruptRecord
    "record kind mismatch"
  OutputM.check <| rejectIf (loadLe 4 bytes 8 ≠ 0 ∨ loadLe 4 bytes 12 ≠ 0) .corruptRecord
    "record reserved fields must be zero"
  let headerChecksum := loadLe 8 bytes kHeaderChecksumOffset
  let headerCopy := storeLe 8 (bytes.take kRecordHeaderSize) kHeaderChecksumOffset 0
  OutputM.check <| rejectIf ((checksum64 headerCopy).toNat ≠ headerChecksum) .checksumMismatch
    "record header checksum mismatch"
  let payloadLength := loadLe 8 bytes 40
  OutputM.check <| rejectIf (payloadLength > kMaxDurablePayloadBytes) .oversizedPayload
    "record payload length exceeds the bound"
  OutputM.check <| rejectIf (bytes.length ≠ kRecordHeaderSize + payloadLength) .truncated
    "record payload length does not match the file size"
  let payload := bytes.drop kRecordHeaderSize
  OutputM.check <| rejectIf
    ((checksum64 payload).toNat ≠ loadLe 8 bytes kPayloadChecksumOffset) .checksumMismatch
    "record payload checksum mismatch"
  OutputM.assign fun out => { out with generation := UInt64.ofNat (loadLe 8 bytes 16) }
  OutputM.assign fun out => { out with writerBoot := ⟨UInt64.ofNat (loadLe 8 bytes 24)⟩ }
  OutputM.assign fun out => { out with writerOrdinal := UInt64.ofNat (loadLe 8 bytes 32) }
  OutputM.assign fun out => { out with payload := payload }

/-- The decoder with output parameters is the one that returns the record. -/
lemma decodeRecordInto_yields (bytes : ByteBuffer) (kind : RecordKind) :
    OutputM.Yields (decodeRecordInto bytes kind) (decodeRecord bytes kind) := by
  unfold decodeRecordInto decodeRecord
  iterate 10 refine OutputM.Yields.check ?_
  intro outputs
  rfl

/-! ## The fields make the header -/

variable {kind : RecordKind} {generation : UInt64} {writer : Incarnation} {payload : ByteBuffer}

/-- Bytes that hold the fields of a header start with that header. -/
lemma HoldsHeader.eq_append {bytes : ByteBuffer} {headerChecksum : UInt64}
    (hf : HoldsHeader bytes kind generation writer payload headerChecksum)
    (hlength : kRecordHeaderSize ≤ bytes.length) :
    bytes = recordHeader kind generation writer payload headerChecksum ++
      bytes.drop kRecordHeaderSize := by
  unfold kRecordHeaderSize at hlength ⊢
  have hmagic := drop_eq_u32 (by omega) hf.magic
  have hversion := drop_eq_u16 (by omega) hf.version
  have hkind := drop_eq_u16 (by omega) hf.kind
  have hflags := @drop_eq_u32 8 bytes 0 (by omega) hf.flags
  have hreserved := @drop_eq_u32 12 bytes 0 (by omega) hf.reserved
  have hgeneration := drop_eq_u64 (by omega) hf.generation
  have hboot := drop_eq_u64 (by omega) hf.boot
  have hordinal := drop_eq_u64 (by omega) hf.ordinal
  have hpayload := drop_eq_u64 (by omega) hf.length
  have hpayloadChecksum := @drop_eq_u64 48 bytes _ (by omega) hf.payloadChecksum
  have hheaderChecksum := @drop_eq_u64 56 bytes _ (by omega) hf.headerChecksum
  calc bytes = bytes.drop 0 := rfl
    _ = _ := by
      rw [hmagic, hversion, hkind, hflags, hreserved, hgeneration, hboot, hordinal, hpayload,
        hpayloadChecksum, hheaderChecksum]
      simp only [recordHeader, List.append_assoc]

/-- A header with its checksum makes the bytes that hold it an encoded record. -/
lemma HoldsHeader.eq_encodeRecord {bytes : ByteBuffer} {headerChecksum : UInt64}
    (hf : HoldsHeader bytes kind generation writer (bytes.drop kRecordHeaderSize) headerChecksum)
    (hlength : kRecordHeaderSize ≤ bytes.length)
    (hchecksum : checksum64 (storeLe 8 (bytes.take kRecordHeaderSize) kHeaderChecksumOffset 0) =
      headerChecksum) :
    bytes = encodeRecord kind generation writer (bytes.drop kRecordHeaderSize) := by
  have hbytes := hf.eq_append hlength
  have htake : bytes.take kRecordHeaderSize = recordHeader kind generation writer
      (bytes.drop kRecordHeaderSize) headerChecksum := by
    conv_lhs => rw [hbytes]
    exact List.take_left' (length_recordHeader _)
  rw [htake, storeLe_recordHeader] at hchecksum
  rw [encodeRecord, hchecksum]
  exact hbytes

/-- What the decoder accepts is the encoding of what it read. -/
lemma eq_encodeRecord_of_decodeRecord {bytes : ByteBuffer} {record : DecodedRecord}
    (h : decodeRecord bytes kind = .ok record) :
    record.payload.length ≤ kMaxDurablePayloadBytes ∧
      bytes = encodeRecord kind record.generation ⟨record.writerBoot, record.writerOrdinal⟩
        record.payload := by
  simp only [decodeRecord, rejectIf_bind_eq_ok, not_lt, not_not, not_or] at h
  obtain ⟨hshort, -, hmagic, hversion, hkind, ⟨hflags, hreserved⟩, hheader, hbound, hlength,
    hchecksum, hrecord⟩ := h
  cases hrecord
  have hpayload : (bytes.drop kRecordHeaderSize).length = loadLe 8 bytes 40 := by
    rw [List.length_drop]
    omega
  have hf : HoldsHeader bytes kind (UInt64.ofNat (loadLe 8 bytes 16))
      ⟨⟨UInt64.ofNat (loadLe 8 bytes 24)⟩, UInt64.ofNat (loadLe 8 bytes 32)⟩
      (bytes.drop kRecordHeaderSize) (UInt64.ofNat (loadLe 8 bytes kHeaderChecksumOffset)) :=
    { magic := hmagic, version := hversion, kind := hkind, flags := hflags
      reserved := hreserved, generation := loadLe_toNat _ _, boot := loadLe_toNat _ _
      ordinal := loadLe_toNat _ _, length := by rw [hpayload]; exact loadLe_toNat _ _
      payloadChecksum := hchecksum.symm, headerChecksum := loadLe_toNat _ _ }
  refine ⟨hpayload.trans_le hbound, hf.eq_encodeRecord hshort ?_⟩
  rw [← UInt64.toNat_inj, hheader]
  exact loadLe_toNat _ _

/-- A record decodes exactly when it is the encoding of what it decodes to. -/
lemma decodeRecord_eq_ok {bytes : ByteBuffer} {record : DecodedRecord} :
    decodeRecord bytes kind = .ok record ↔
      record.payload.length ≤ kMaxDurablePayloadBytes ∧
        bytes = encodeRecord kind record.generation ⟨record.writerBoot, record.writerOrdinal⟩
          record.payload := by
  constructor
  · exact eq_encodeRecord_of_decodeRecord
  · rintro ⟨hbound, hbytes⟩
    rw [hbytes, decodeRecord_encodeRecord hbound]
    rfl

/-- The decoder accepts exactly the image of the encoder, and it assigns its outputs only when
it accepts. -/
theorem decodeRecord_image (bytes : ByteBuffer) (kind : RecordKind) (outputs : DecodedRecord) :
    (∀ record, (decodeRecordInto bytes kind).run outputs = (.ok (), record) ↔
      record.payload.length ≤ kMaxDurablePayloadBytes ∧
        bytes = encodeRecord kind record.generation ⟨record.writerBoot, record.writerOrdinal⟩
          record.payload) ∧
    ∀ e outputs', (decodeRecordInto bytes kind).run outputs = (.error e, outputs') →
      outputs' = outputs := by
  have hyields := decodeRecordInto_yields bytes kind
  constructor
  · intro record
    rw [hyields.run_eq_ok, decodeRecord_eq_ok]
  · intro e outputs' h
    exact (hyields.run_eq_error.mp h).2

/-- A record with one byte of payload is accepted; one byte alone is not, and leaves the
outputs as they were. -/
theorem decodeRecord_image_sample :
    (decodeRecordInto (encodeRecord .policy 3 ⟨⟨1⟩, 1⟩ [7]) .policy).run (recordOf 0 {} []) =
        (.ok (), recordOf 3 ⟨⟨1⟩, 1⟩ [7]) ∧
      ∃ outputs, (decodeRecordInto [7] .policy).run (recordOf 0 {} []) =
        (.error ⟨.truncated, "record is shorter than its header"⟩, outputs) ∧
        outputs = recordOf 0 {} [] :=
  ⟨((decodeRecord_image _ _ _).1 _).mpr ⟨by decide, rfl⟩, _, rfl,
    (decodeRecord_image [7] .policy _).2
      ⟨.truncated, "record is shorter than its header"⟩ _ rfl⟩

end FairnessGovernor
