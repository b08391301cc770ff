/-
# Records and single programs of the store

A record decodes to what was encoded, and no strict prefix of it decodes at all: the header
holds the length of the whole.  This is what makes a cut-off write recognizable.
-/
import FairnessGovernor.Persist.Store

namespace FairnessGovernor

open LittleEndian ByteWriter

/-! ## The round trip of a record -/

variable {kind : RecordKind} {generation : UInt64} {writer : Incarnation} {payload : ByteBuffer}

@[simp] lemma length_recordHeader (headerChecksum : UInt64) :
    (recordHeader kind generation writer payload headerChecksum).length = kRecordHeaderSize := by
  simp [recordHeader, kRecordHeaderSize]

@[simp] lemma length_encodeRecord :
    (encodeRecord kind generation writer payload).length = kRecordHeaderSize + payload.length := by
  simp [encodeRecord]

/-- The record that an encoded one decodes to. -/
def recordOf (generation : UInt64) (writer : Incarnation) (payload : ByteBuffer) : DecodedRecord :=
  { generation := generation, writerBoot := writer.boot, writerOrdinal := writer.ordinal
    payload := payload }

/-- Zeroing the last field of a header. -/
lemma storeLe_recordHeader (headerChecksum : UInt64) :
    storeLe 8 (recordHeader kind generation writer payload headerChecksum) kHeaderChecksumOffset 0 =
      recordHeader kind generation writer payload 0 := by
  unfold storeLe recordHeader
  rw [List.take_left' (by simp [kHeaderChecksumOffset])]
  rw [List.drop_eq_nil_of_le (by simp [kHeaderChecksumOffset]), List.append_nil]
  rfl

/-- The fields of a header, at the offsets the decoder reads them from. -/
structure HoldsHeader (bytes : ByteBuffer) (kind : RecordKind) (generation : UInt64)
    (writer : Incarnation) (payload : ByteBuffer) (headerChecksum : UInt64) : Prop where
  magic : loadLe 4 bytes 0 = kRecordMagic.toNat
  version : loadLe 2 bytes 4 = kFormatVersion.toNat
  kind : loadLe 2 bytes 6 = kind.toUInt16.toNat
  flags : loadLe 4 bytes 8 = 0
  reserved : loadLe 4 bytes 12 = 0
  generation : loadLe 8 bytes 16 = generation.toNat
  boot : loadLe 8 bytes 24 = writer.boot.value.toNat
  ordinal : loadLe 8 bytes 32 = writer.ordinal.toNat
  length : loadLe 8 bytes 40 = (UInt64.ofNat payload.length).toNat
  payloadChecksum : loadLe 8 bytes kPayloadChecksumOffset = (checksum64 payload).toNat
  headerChecksum : loadLe 8 bytes kHeaderChecksumOffset = headerChecksum.toNat

lemma holdsHeader_append (headerChecksum : UInt64) (rest : ByteBuffer) :
    HoldsHeader (recordHeader kind generation writer payload headerChecksum ++ rest) kind
      generation writer payload headerChecksum := by
  simp only [recordHeader, List.append_assoc]
  constructor <;> simp [kPayloadChecksumOffset, kHeaderChecksumOffset]

theorem decodeRecord_encodeRecord (h : payload.length ≤ kMaxDurablePayloadBytes) :
    decodeRecord (encodeRecord kind generation writer payload) kind =
      .ok (recordOf generation writer payload) := by
  have hlength : (UInt64.ofNat payload.length).toNat = payload.length := by
    rw [UInt64.toNat_ofNat_of_lt']
    unfold kMaxDurablePayloadBytes at h
    exact lt_of_le_of_lt h (by decide)
  have htake : (encodeRecord kind generation writer payload).take kRecordHeaderSize =
      recordHeader kind generation writer payload
        (checksum64 (recordHeader kind generation writer payload 0)) :=
    List.take_left' (length_recordHeader _)
  have hdrop : (encodeRecord kind generation writer payload).drop kRecordHeaderSize = payload :=
    List.drop_left' (length_recordHeader _)
  have hf : HoldsHeader (encodeRecord kind generation writer payload) kind generation writer
      payload (checksum64 (recordHeader kind generation writer payload 0)) :=
    holdsHeader_append _ _
  simp only [decodeRecord, rejectIf_bind_eq_ok, htake, hdrop, storeLe_recordHeader, hf.magic,
    hf.version, hf.kind, hf.flags, hf.reserved, hf.headerChecksum, hf.length, hf.payloadChecksum,
    hf.generation, hf.boot, hf.ordinal, hlength, length_encodeRecord, UInt64.ofNat_toNat]
  refine ⟨by omega, by omega, by simp, by simp, by simp, by simp, by simp, by omega, by simp,
    by simp, rfl⟩

/-- A record that decodes is as long as its header says. -/
lemma length_of_decodeRecord {bytes : ByteBuffer} {record : DecodedRecord}
    (h : decodeRecord bytes kind = .ok record) :
    kRecordHeaderSize ≤ bytes.length ∧
      bytes.length ≤ kRecordHeaderSize + kMaxDurablePayloadBytes ∧
      bytes.length = kRecordHeaderSize + loadLe 8 bytes 40 := by
  simp only [decodeRecord, rejectIf_bind_eq_ok, not_lt, not_not] at h
  obtain ⟨hshort, hlong, -, -, -, -, -, -, hlength, -⟩ := h
  exact ⟨hshort, hlong, hlength⟩

/-- A cut-off record does not decode, unless nothing was cut off. -/
theorem decodeRecord_take {n : ℕ} {record : DecodedRecord}
    (h : payload.length ≤ kMaxDurablePayloadBytes)
    (hn : decodeRecord ((encodeRecord kind generation writer payload).take n) kind = .ok record) :
    (encodeRecord kind generation writer payload).take n =
      encodeRecord kind generation writer payload := by
  obtain ⟨hshort, -, hcut⟩ := length_of_decodeRecord hn
  have hencoded : decodeRecord (encodeRecord kind generation writer payload) kind =
      .ok (recordOf generation writer payload) := decodeRecord_encodeRecord h
  obtain ⟨-, -, hwhole⟩ := length_of_decodeRecord hencoded
  rw [List.length_take] at hshort hcut
  unfold kRecordHeaderSize at hshort
  rw [loadLe_take (by omega), ← hwhole] at hcut
  exact List.take_of_length_le (by omega)

/-- No status of the decoder is the one of success. -/
lemma decodeRecord_error {bytes : ByteBuffer} : Refuses (decodeRecord bytes kind) := by
  unfold decodeRecord
  iterate 10 refine rejectIf_bind_code (by decide) ?_
  intro e h
  cases h

/-! ## Paths -/

namespace DurableStore

variable (store : DurableStore)

/-- The files of a store are told apart by their kind and their suffix. -/
lemma path_inj {kind other : RecordKind} {file file' : RecordFile} :
    store.path kind file = store.path other file' ↔ kind = other ∧ file = file' := by
  constructor
  · unfold path recordPath
    cases kind <;> cases other <;> cases file <;> cases file' <;>
      simp [String.append_assoc, recordKindName, RecordFile.suffix]
  · rintro ⟨rfl, rfl⟩
    rfl

@[simp] lemma set_path (dir : Directory) (kind other : RecordKind) (file file' : RecordFile)
    (bytes : Option ByteBuffer) :
    dir.set (store.path kind file) bytes (store.path other file') =
      if other = kind ∧ file' = file then bytes else dir (store.path other file') := by
  by_cases h : store.path other file' = store.path kind file
  · rw [h, Directory.set_self, if_pos (store.path_inj.mp h)]
  · rw [Directory.set_of_ne h, if_neg fun hf => h (store.path_inj.mpr hf)]

end DurableStore

end FairnessGovernor
