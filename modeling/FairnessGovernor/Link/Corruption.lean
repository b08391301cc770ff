/-
# A changed byte is detected

Every byte of a record and of a frame lies under a checksum, or is a checksum, or has to be
zero.  A step of the hash loses neither the state nor the byte, so one changed byte under a
checksum changes it whatever follows.
-/
import FairnessGovernor.Lib.Digest
import FairnessGovernor.Link.FrameSpec
import FairnessGovernor.Persist.StoreSpec

namespace FairnessGovernor

open LittleEndian ByteWriter

/-! ## The hash -/

/-- The prime of the hash is odd, so multiplying by it is undone by its inverse. -/
lemma fnvPrime_mul_injective : Function.Injective fun hash : UInt64 => hash * 1099511628211 := by
  intro a b h
  have hinverse : (1099511628211 : UInt64) * 14886173955864302971 = 1 := by decide
  calc a = a * 1099511628211 * 14886173955864302971 := by
        rw [UInt64.mul_assoc, hinverse, UInt64.mul_one]
    _ = b * 1099511628211 * 14886173955864302971 := congrArg (· * 14886173955864302971) h
    _ = b := by rw [UInt64.mul_assoc, hinverse, UInt64.mul_one]

lemma fnv_absorbing :
    Digest.Absorbing fun (hash : UInt64) (byte : UInt8) =>
      (hash ^^^ byte.toUInt64) * 1099511628211 where
  state byte := by
    intro a b h
    exact (UInt64.xor_left_inj byte.toUInt64).mp (fnvPrime_mul_injective h)
  element hash := by
    intro a b h
    exact UInt8.toUInt64_inj.mp ((UInt64.xor_right_inj hash).mp (fnvPrime_mul_injective h))

/-! ## One changed byte -/

/-- Writing `byte` at position `i` changes the bytes. -/
structure Corrupts (bytes : ByteBuffer) (i : ℕ) (byte : UInt8) : Prop where
  inside : i < bytes.length
  differs : bytes[i]? ≠ some byte

namespace Corrupts

variable {bytes : ByteBuffer} {i n : ℕ} {byte : UInt8}

lemma set_ne (h : Corrupts bytes i byte) : bytes.set i byte ≠ bytes := by
  intro heq
  apply h.differs
  rw [← heq]
  exact List.getElem?_set_self h.inside

lemma fnv1a64_ne (h : Corrupts bytes i byte) (seed : UInt64) :
    fnv1a64 (bytes.set i byte) seed ≠ fnv1a64 bytes seed :=
  fnv_absorbing.foldl_set_ne h.inside h.differs seed

protected lemma take (h : Corrupts bytes i byte) (hi : i < n) :
    Corrupts (bytes.take n) i byte where
  inside := by
    rw [List.length_take]
    exact lt_min hi h.inside
  differs := by
    rw [List.getElem?_take_of_lt hi]
    exact h.differs

protected lemma drop (h : Corrupts bytes i byte) (hi : n ≤ i) :
    Corrupts (bytes.drop n) (i - n) byte where
  inside := by
    have := h.inside
    rw [List.length_drop]
    omega
  differs := by
    rw [List.getElem?_drop, Nat.add_sub_cancel' hi]
    exact h.differs

lemma append_right (h : Corrupts bytes i byte) (rest : ByteBuffer) :
    Corrupts (bytes ++ rest) i byte where
  inside := by
    rw [List.length_append]
    exact Nat.lt_add_right _ h.inside
  differs := by
    rw [List.getElem?_append_left h.inside]
    exact h.differs

end Corrupts

section Parts

variable {bytes : ByteBuffer} {i n width offset : ℕ} {byte : UInt8}

lemma take_set_of_le (h : n ≤ i) : (bytes.set i byte).take n = bytes.take n := by
  rw [List.take_set, List.set_eq_of_length_le]
  exact (List.length_take_le _ _).trans h

lemma drop_set_of_lt (h : i < n) : (bytes.set i byte).drop n = bytes.drop n := by
  rw [List.drop_set, if_pos h]

lemma drop_set_of_le (h : n ≤ i) :
    (bytes.set i byte).drop n = (bytes.drop n).set (i - n) byte := by
  rw [List.drop_set, if_neg (Nat.not_lt.mpr h)]

/-- A word away from the change stays. -/
lemma loadLe_set_of_outside (h : i < offset ∨ offset + width ≤ i) :
    loadLe width (bytes.set i byte) offset = loadLe width bytes offset := by
  unfold loadLe
  rcases h with h | h
  · rw [drop_set_of_lt h]
  · rw [drop_set_of_le (by omega), take_set_of_le (by omega)]

/-- A word that the change is in is another word. -/
lemma Corrupts.loadLe_ne (h : Corrupts bytes i byte) (hlow : offset ≤ i)
    (hhigh : i < offset + width) :
    loadLe width (bytes.set i byte) offset ≠ loadLe width bytes offset := by
  have hword : Corrupts ((bytes.drop offset).take width) (i - offset) byte :=
    (h.drop hlow).take (by omega)
  intro heq
  unfold loadLe at heq
  rw [drop_set_of_le hlow, List.take_set] at heq
  apply hword.set_ne
  have hbytes := leBytes_leValue (((bytes.drop offset).take width).set (i - offset) byte)
  rw [heq, List.length_set, leBytes_leValue] at hbytes
  exact hbytes.symm

end Parts

/-! ## Records -/

/-- What the checksums of a record say. -/
structure RecordChecks (bytes : ByteBuffer) : Prop where
  header : (checksum64 (bytes.take kHeaderChecksumOffset ++ u64 0)).toNat =
    loadLe 8 bytes kHeaderChecksumOffset
  payload : (checksum64 (bytes.drop kRecordHeaderSize)).toNat =
    loadLe 8 bytes kPayloadChecksumOffset

/-- The header with its checksum zeroed. -/
lemma storeLe_header (bytes : ByteBuffer) :
    storeLe 8 (bytes.take kRecordHeaderSize) kHeaderChecksumOffset 0 =
      bytes.take kHeaderChecksumOffset ++ u64 0 := by
  have hrest : (bytes.take kRecordHeaderSize).drop (kHeaderChecksumOffset + 8) = [] :=
    List.drop_eq_nil_of_le (List.length_take_le _ _)
  rw [storeLe, hrest, List.append_nil, List.take_take]
  rfl

lemma recordChecks_of_decodeRecord {bytes : ByteBuffer} {kind : RecordKind}
    {record : DecodedRecord} (h : decodeRecord bytes kind = .ok record) : RecordChecks bytes := by
  simp only [decodeRecord, rejectIf_bind_eq_ok, not_lt, not_not, storeLe_header] at h
  obtain ⟨-, -, -, -, -, -, hheader, -, -, hpayload, -⟩ := h
  exact ⟨hheader, hpayload⟩

lemma recordChecks_encodeRecord (kind : RecordKind) (generation : UInt64)
    (writer : Incarnation) (payload : ByteBuffer) :
    RecordChecks (encodeRecord kind generation writer payload) := by
  set checksum := checksum64 (recordHeader kind generation writer payload 0) with hchecksum
  have hf : HoldsHeader (encodeRecord kind generation writer payload) kind generation writer
      payload checksum := holdsHeader_append _ _
  have htake : (encodeRecord kind generation writer payload).take kRecordHeaderSize =
      recordHeader kind generation writer payload checksum :=
    List.take_left' (length_recordHeader _)
  have hdrop : (encodeRecord kind generation writer payload).drop kRecordHeaderSize = payload :=
    List.drop_left' (length_recordHeader _)
  constructor
  · rw [← storeLe_header, htake, storeLe_recordHeader, hf.headerChecksum]
  · rw [hdrop, hf.payloadChecksum]

/-- No byte of a record can be changed without a checksum telling. -/
lemma RecordChecks.not_set {bytes : ByteBuffer} {i : ℕ} {byte : UInt8}
    (h : RecordChecks bytes) (hcorrupts : Corrupts bytes i byte) :
    ¬ RecordChecks (bytes.set i byte) := by
  intro h'
  by_cases hheader : i < kHeaderChecksumOffset
  · -- under the header checksum, whose field stays
    have hfield := @loadLe_set_of_outside bytes i 8 kHeaderChecksumOffset byte (.inl hheader)
    have hpart := (hcorrupts.take hheader).append_right (u64 0)
    apply hpart.fnv1a64_ne kFnvOffsetBasis
    rw [List.set_append_left _ _ (hcorrupts.take hheader).inside, ← List.take_set]
    exact UInt64.toNat_inj.mp (h'.header.trans (hfield.trans h.header.symm))
  by_cases hfield : i < kRecordHeaderSize
  · -- in the header checksum, while what it covers stays
    rw [not_lt] at hheader
    apply hcorrupts.loadLe_ne hheader (show i < kHeaderChecksumOffset + 8 from hfield)
    rw [← h'.header, ← h.header, take_set_of_le hheader]
  · -- under the payload checksum, whose field stays
    rw [not_lt] at hfield
    have hword := @loadLe_set_of_outside bytes i 8 kPayloadChecksumOffset byte
      (.inr ((by decide : kPayloadChecksumOffset + 8 ≤ kRecordHeaderSize).trans hfield))
    apply (hcorrupts.drop hfield).fnv1a64_ne kFnvOffsetBasis
    rw [← drop_set_of_le hfield]
    exact UInt64.toNat_inj.mp (h'.payload.trans (hword.trans h.payload.symm))

/-! ## Frames -/

/-- What the checksum and the reserved tail of a frame say. -/
structure FrameChecks (bytes : ByteBuffer) : Prop where
  checksum : (fnv1a64 (bytes.take kChecksumCoverage ++ bytes.drop kFrameHeaderSize)).toNat =
    loadLe 8 bytes kOffsetChecksum
  tail : loadLe 8 bytes kOffsetReservedTail = 0

lemma frameChecks_of_layout (header : FrameHeader) (payload : ByteBuffer) :
    FrameChecks (coveredHeader header ++
      (u64 (coveredChecksum header payload) ++ (u64 0 ++ payload))) := by
  have hf := holdsFrame_append
    { header with frameChecksum := coveredChecksum header payload } payload
  have htake : (coveredHeader header ++ (u64 (coveredChecksum header payload) ++
      (u64 0 ++ payload))).take kChecksumCoverage = coveredHeader header :=
    List.take_left' (length_coveredHeader header)
  have hdrop : (coveredHeader header ++ (u64 (coveredChecksum header payload) ++
      (u64 0 ++ payload))).drop kFrameHeaderSize = payload := by
    rw [← List.append_assoc, ← List.append_assoc]
    exact List.drop_left' (by simp [kChecksumCoverage, kFrameHeaderSize])
  constructor
  · rw [htake, hdrop, fnv1a64, List.foldl_append]
    exact hf.checksum.symm
  · exact hf.reservedTail

lemma frameChecks_of_decodeFrame {bytes : ByteBuffer} {maxPayload : UInt32}
    {header : FrameHeader} (h : decodeFrame bytes maxPayload = .ok header) :
    FrameChecks bytes := by
  obtain ⟨payload, haccepted, rfl⟩ := decodeFrame_eq_ok.mp h
  rw [← haccepted.checksum]
  exact frameChecks_of_layout header payload

lemma frameChecks_encodeFrame (header : FrameHeader) (payload : ByteBuffer) :
    FrameChecks (encodeFrame header payload) := by
  rw [encodeFrame_eq]
  exact frameChecks_of_layout _ payload

/-- No byte of a frame can be changed without its checksum or its reserved tail telling. -/
lemma FrameChecks.not_set {bytes : ByteBuffer} {i : ℕ} {byte : UInt8}
    (h : FrameChecks bytes) (hcorrupts : Corrupts bytes i byte) :
    ¬ FrameChecks (bytes.set i byte) := by
  intro h'
  have hfield : ¬ (kOffsetChecksum ≤ i ∧ i < kOffsetChecksum + 8) →
      fnv1a64 ((bytes.set i byte).take kChecksumCoverage ++
          (bytes.set i byte).drop kFrameHeaderSize) =
        fnv1a64 (bytes.take kChecksumCoverage ++ bytes.drop kFrameHeaderSize) := by
    intro houtside
    have hword := @loadLe_set_of_outside bytes i 8 kOffsetChecksum byte (by omega)
    exact UInt64.toNat_inj.mp (h'.checksum.trans (hword.trans h.checksum.symm))
  by_cases hcovered : i < kChecksumCoverage
  · -- in the part of the header under the checksum
    have hpart := (hcorrupts.take hcovered).append_right (bytes.drop kFrameHeaderSize)
    apply hpart.fnv1a64_ne kFnvOffsetBasis
    rw [List.set_append_left _ _ (hcorrupts.take hcovered).inside, ← List.take_set,
      ← hfield fun hin => absurd hin.1 (Nat.not_le.mpr hcovered),
      drop_set_of_lt (hcovered.trans (by decide))]
  rw [not_lt] at hcovered
  by_cases hchecksum : i < kOffsetReservedTail
  · -- in the checksum, while what it covers stays
    apply hcorrupts.loadLe_ne (show kOffsetChecksum ≤ i from hcovered)
      (show i < kOffsetChecksum + 8 from hchecksum)
    rw [← h'.checksum, ← h.checksum, take_set_of_le hcovered,
      drop_set_of_lt (hchecksum.trans (by decide))]
  rw [not_lt] at hchecksum
  by_cases htail : i < kFrameHeaderSize
  · -- in the reserved tail, which is zero
    apply hcorrupts.loadLe_ne hchecksum (show i < kOffsetReservedTail + 8 from htail)
    rw [h'.tail, h.tail]
  · -- in the payload
    rw [not_lt] at htail
    have hpart := (hcorrupts.drop htail).fnv1a64_ne (fnv1a64 (bytes.take kChecksumCoverage))
    apply hpart
    have heq := hfield fun hin => absurd hin.2 (Nat.not_lt.mpr hchecksum)
    rw [take_set_of_le hcovered, drop_set_of_le htail] at heq
    simpa only [fnv1a64, List.foldl_append] using heq

/-! ## Detection -/

/-- No record and no frame survives the change of one of its bytes: the changed bytes are
refused, whatever record was expected and whatever payload the receiver takes. -/
theorem corruption_detected :
    (∀ kind generation writer payload i byte,
      Corrupts (encodeRecord kind generation writer payload) i byte →
      ∀ expected record,
        decodeRecord ((encodeRecord kind generation writer payload).set i byte) expected ≠
          .ok record) ∧
    ∀ header payload i byte, Corrupts (encodeFrame header payload) i byte →
      ∀ maxPayload decoded,
        decodeFrame ((encodeFrame header payload).set i byte) maxPayload ≠ .ok decoded := by
  constructor
  · intro kind generation writer payload i byte hcorrupts expected record hdecoded
    exact (recordChecks_encodeRecord kind generation writer payload).not_set hcorrupts
      (recordChecks_of_decodeRecord hdecoded)
  · intro header payload i byte hcorrupts maxPayload decoded hdecoded
    exact (frameChecks_encodeFrame header payload).not_set hcorrupts
      (frameChecks_of_decodeFrame hdecoded)

/-- A byte of the generation of a record, and a byte of the payload of a frame. -/
theorem corruption_detected_sample :
    (∀ expected record,
      decodeRecord ((encodeRecord .policy 3 ⟨⟨1⟩, 1⟩ [7]).set 16 4) expected ≠ .ok record) ∧
    ∀ maxPayload decoded,
      decodeFrame ((encodeFrame sampleFrame [1, 2, 3]).set 81 0xFF) maxPayload ≠ .ok decoded :=
  ⟨corruption_detected.1 .policy 3 ⟨⟨1⟩, 1⟩ [7] 16 4 ⟨by decide, by decide⟩,
    corruption_detected.2 sampleFrame [1, 2, 3] 81 0xFF
      ⟨by decide +kernel, by decide +kernel⟩⟩

end FairnessGovernor
