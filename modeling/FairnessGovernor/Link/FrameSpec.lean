/-
# What the frame decoder accepts

The verifier does not look at the header it was sent: it writes the decoded fields into a
header of its own and checksums that.  Everything the decoder reads is in it, and what is not
in it has to be zero, so the decoder accepts exactly what the encoder writes.
-/
import FairnessGovernor.Link.Frame

namespace FairnessGovernor

open LittleEndian ByteWriter

/-! ## The layout -/

/-- The part of a header that the checksum covers. -/
def coveredHeader (header : FrameHeader) : ByteBuffer :=
  u32 kFrameMagic ++ u16 kFrameProtocolVersion ++ u16 header.kind.toUInt16 ++
  u16 header.flags ++ u16 0 ++ u32 header.payloadLength ++ u64 header.sessionId ++
  u64 header.epoch.value ++ u64 header.publisher.value ++ u64 header.publisherBoot.value ++
  u64 header.publisherOrdinal ++ u64 header.sequence

@[simp] lemma length_coveredHeader (header : FrameHeader) :
    (coveredHeader header).length = kChecksumCoverage := by
  simp [coveredHeader, kChecksumCoverage]

/-- The checksum of a frame. -/
def coveredChecksum (header : FrameHeader) (payload : ByteBuffer) : UInt64 :=
  fnv1a64 payload (fnv1a64 (coveredHeader header))

lemma frameChecksum_append (header : FrameHeader) (rest payload : ByteBuffer) :
    frameChecksum (coveredHeader header ++ rest) payload = coveredChecksum header payload := by
  rw [frameChecksum, List.take_left' (length_coveredHeader header), coveredChecksum]

/-- Writing the covered part leaves nothing of the buffer it is written to. -/
lemma headerCopy_eq (header : FrameHeader) {buffer : ByteBuffer}
    (hlength : buffer.length = kChecksumCoverage) :
    headerCopy buffer header = coveredHeader header := by
  have hfilled : Filled (coveredHeader header) buffer (headerCopy buffer header) := by
    iterate 11 refine Filled.store ?_ (by simp; rfl)
    exact Filled.start buffer 4 kFrameMagic.toNat
  rw [hfilled, List.drop_eq_nil_of_le (by rw [hlength, length_coveredHeader]), List.append_nil]

/-- A written header: the covered part, and zeros. -/
lemma writeHeader_eq (header : FrameHeader) :
    writeHeader header = coveredHeader header ++ (u64 0 ++ u64 0) := by
  have hfilled : Filled (coveredHeader header) (List.replicate kFrameHeaderSize 0)
      (writeHeader header) := by
    iterate 7 refine Filled.store ?_ (by simp; rfl)
    refine Filled.keep ?_ (by simp; rfl)
    iterate 3 refine Filled.store ?_ (by simp; rfl)
    exact Filled.start _ 4 kFrameMagic.toNat
  rw [hfilled, length_coveredHeader]
  rfl

/-- The header that is sent with a payload: it holds the payload's length. -/
def FrameHeader.effective (header : FrameHeader) (payload : ByteBuffer) : FrameHeader :=
  { header with payloadLength := UInt32.ofNat payload.length }

/-- An encoded frame, field by field. -/
lemma encodeFrame_eq (header : FrameHeader) (payload : ByteBuffer) :
    encodeFrame header payload = coveredHeader (header.effective payload) ++
      (u64 (coveredChecksum (header.effective payload) payload) ++ (u64 0 ++ payload)) := by
  set sent := header.effective payload with hsent
  have hframe : writeHeader sent ++ payload =
      coveredHeader sent ++ (u64 0 ++ (u64 0 ++ payload)) := by
    rw [writeHeader_eq, List.append_assoc, List.append_assoc]
  have hdrop : (writeHeader sent ++ payload).drop kFrameHeaderSize = payload :=
    List.drop_left' (by rw [writeHeader_eq]; simp [kChecksumCoverage, kFrameHeaderSize])
  have htail : (coveredHeader sent ++ (u64 0 ++ (u64 0 ++ payload))).drop
      (kOffsetChecksum + 8) = u64 0 ++ payload := by
    rw [← List.append_assoc]
    exact List.drop_left' (by simp [kChecksumCoverage, kOffsetChecksum])
  calc encodeFrame header payload
      = storeLe 8 (writeHeader sent ++ payload) kOffsetChecksum
          (frameChecksum (writeHeader sent ++ payload)
            ((writeHeader sent ++ payload).drop kFrameHeaderSize)).toNat := rfl
    _ = storeLe 8 (coveredHeader sent ++ (u64 0 ++ (u64 0 ++ payload))) kOffsetChecksum
          (coveredChecksum sent payload).toNat := by
      rw [hdrop, hframe, frameChecksum_append]
    _ = _ := by
      have htake : (coveredHeader sent ++ (u64 0 ++ (u64 0 ++ payload))).take kOffsetChecksum =
          coveredHeader sent := List.take_left' (length_coveredHeader sent)
      rw [storeLe, htail, htake, List.append_assoc]
      rfl

/-! ## The fields -/

/-- The fields of a header, at the offsets the decoder reads them from. -/
structure HoldsFrame (bytes : ByteBuffer) (header : FrameHeader) : Prop where
  magic : loadLe 4 bytes kOffsetMagic = kFrameMagic.toNat
  version : loadLe 2 bytes kOffsetVersion = kFrameProtocolVersion.toNat
  kind : loadLe 2 bytes kOffsetKind = header.kind.toUInt16.toNat
  flags : loadLe 2 bytes kOffsetFlags = header.flags.toNat
  reserved : loadLe 2 bytes kOffsetReserved = 0
  length : loadLe 4 bytes kOffsetPayloadLength = header.payloadLength.toNat
  session : loadLe 8 bytes kOffsetSession = header.sessionId.toNat
  epoch : loadLe 8 bytes kOffsetEpoch = header.epoch.value.toNat
  publisher : loadLe 8 bytes kOffsetPublisher = header.publisher.value.toNat
  boot : loadLe 8 bytes kOffsetPublisherBoot = header.publisherBoot.value.toNat
  ordinal : loadLe 8 bytes kOffsetPublisherOrdinal = header.publisherOrdinal.toNat
  sequence : loadLe 8 bytes kOffsetSequence = header.sequence.toNat
  checksum : loadLe 8 bytes kOffsetChecksum = header.frameChecksum.toNat
  reservedTail : loadLe 8 bytes kOffsetReservedTail = 0

lemma holdsFrame_append (header : FrameHeader) (rest : ByteBuffer) :
    HoldsFrame (coveredHeader header ++ (u64 header.frameChecksum ++ (u64 0 ++ rest)))
      header := by
  simp only [coveredHeader, List.append_assoc]
  constructor <;> simp [kOffsetMagic, kOffsetVersion, kOffsetKind, kOffsetFlags, kOffsetReserved,
    kOffsetPayloadLength, kOffsetSession, kOffsetEpoch, kOffsetPublisher, kOffsetPublisherBoot,
    kOffsetPublisherOrdinal, kOffsetSequence, kOffsetChecksum, kOffsetReservedTail]

/-- Bytes that hold the fields of a header start with that header. -/
lemma HoldsFrame.eq_append {bytes : ByteBuffer} {header : FrameHeader}
    (hf : HoldsFrame bytes header) (hlength : kFrameHeaderSize ≤ bytes.length) :
    bytes = coveredHeader header ++
      (u64 header.frameChecksum ++ (u64 0 ++ bytes.drop kFrameHeaderSize)) := by
  unfold kFrameHeaderSize at hlength ⊢
  have hmagic := @drop_eq_u32 0 bytes _ (by omega) hf.magic
  have hversion := @drop_eq_u16 4 bytes _ (by omega) hf.version
  have hkind := @drop_eq_u16 6 bytes _ (by omega) hf.kind
  have hflags := @drop_eq_u16 8 bytes _ (by omega) hf.flags
  have hreserved := @drop_eq_u16 10 bytes 0 (by omega) hf.reserved
  have hpayload := @drop_eq_u32 12 bytes _ (by omega) hf.length
  have hsession := @drop_eq_u64 16 bytes _ (by omega) hf.session
  have hepoch := @drop_eq_u64 24 bytes _ (by omega) hf.epoch
  have hpublisher := @drop_eq_u64 32 bytes _ (by omega) hf.publisher
  have hboot := @drop_eq_u64 40 bytes _ (by omega) hf.boot
  have hordinal := @drop_eq_u64 48 bytes _ (by omega) hf.ordinal
  have hsequence := @drop_eq_u64 56 bytes _ (by omega) hf.sequence
  have hchecksum := @drop_eq_u64 64 bytes _ (by omega) hf.checksum
  have htail := @drop_eq_u64 72 bytes 0 (by omega) hf.reservedTail
  calc bytes = bytes.drop 0 := rfl
    _ = _ := by
      rw [hmagic, hversion, hkind, hflags, hreserved, hpayload, hsession, hepoch, hpublisher,
        hboot, hordinal, hsequence, hchecksum, htail]
      simp only [coveredHeader, List.append_assoc]

/-! ## Kinds and flags -/

@[simp] lemma FrameKind.ofUInt16_toUInt16 (kind : FrameKind) :
    FrameKind.ofUInt16 kind.toUInt16 = kind := by
  cases kind <;> rfl

lemma FrameKind.known (kind : FrameKind) : knownKind kind.toUInt16 := by
  cases kind <;> decide

lemma FrameKind.toUInt16_ofUInt16 {raw : UInt16} (h : knownKind raw) :
    (FrameKind.ofUInt16 raw).toUInt16 = raw := by
  have hlow : 1 ≤ raw.toNat := UInt16.le_iff_toNat_le.mp h.1
  have hhigh : raw.toNat ≤ 6 := UInt16.le_iff_toNat_le.mp h.2
  have hraw : raw = UInt16.ofNat raw.toNat := UInt16.ofNat_toNat.symm
  generalize raw.toNat = n at *
  subst hraw
  interval_cases n <;> rfl

/-- The flags that a frame may carry: none, or a request to shut down. -/
def AcceptedFlags (flags : UInt16) : Prop :=
  flags = kFrameFlagNone ∨ flags = kFrameFlagRequestShutdown

lemma and_or_and (a b c : UInt16) : a &&& b ||| a &&& c = a &&& (b ||| c) := by
  rw [← UInt16.toBitVec_inj]
  exact BitVec.and_or_distrib_left.symm

/-- The two checks on the flags leave the lowest bit. -/
lemma acceptedFlags_iff (flags : UInt16) :
    AcceptedFlags flags ↔
      flags &&& ~~~kKnownFlags = 0 ∧ flags &&& kFrameFlagUnsupportedEncoding = 0 := by
  constructor
  · rintro (rfl | rfl) <;> decide
  · rintro ⟨hknown, hencoding⟩
    have hhigh : flags &&& ~~~1 = 0 :=
      calc flags &&& ~~~1
          = flags &&& (~~~kKnownFlags ||| kFrameFlagUnsupportedEncoding) := rfl
        _ = flags &&& ~~~kKnownFlags ||| flags &&& kFrameFlagUnsupportedEncoding :=
            (and_or_and _ _ _).symm
        _ = 0 := by rw [hknown, hencoding]; rfl
    have hlow : flags = flags &&& 1 :=
      calc flags = flags &&& (1 ||| ~~~1) := UInt16.and_neg_one.symm
        _ = flags &&& 1 ||| flags &&& ~~~1 := (and_or_and _ _ _).symm
        _ = flags &&& 1 := by rw [hhigh, UInt16.or_zero]
    have hbit : flags.toNat = flags.toNat % 2 := by
      conv_lhs => rw [hlow]
      simp
    rcases Nat.mod_two_eq_zero_or_one flags.toNat with h0 | h1
    · left
      exact UInt16.toNat_inj.mp (hbit.trans h0)
    · right
      exact UInt16.toNat_inj.mp (hbit.trans h1)

/-! ## What is accepted -/

/-- A frame that the decoder accepts with this header and payload. -/
structure Accepted (header : FrameHeader) (payload : ByteBuffer) (maxPayload : UInt32) :
    Prop where
  flags : AcceptedFlags header.flags
  length : payload.length = header.payloadLength.toNat
  bound : header.payloadLength ≤ maxPayload
  checksum : coveredChecksum header payload = header.frameChecksum

variable {header : FrameHeader} {maxPayload : UInt32} {bytes payload : ByteBuffer}

/-- The header decoder gives the header that the bytes hold. -/
lemma decodeFrameHeader_eq_ok (hlength : bytes.length = kFrameHeaderSize) :
    decodeFrameHeader bytes maxPayload = .ok header ↔
      HoldsFrame bytes header ∧ AcceptedFlags header.flags ∧
        header.payloadLength ≤ maxPayload := by
  -- The checks become a conjunction; a field that passed is the bytes it was loaded from, read
  -- back at the width it was written.
  simp only [decodeFrameHeader, rejectIf_bind_eq_ok, not_not, not_or, UInt32.not_lt]
  constructor
  · rintro ⟨-, hmagic, hversion, hkind, hknown, hencoding, ⟨hreserved, htail⟩, hbound, hheader⟩
    cases hheader
    refine ⟨?_, (acceptedFlags_iff _).mpr ⟨hknown, hencoding⟩, hbound⟩
    have hkind2 := loadLe_lt 2 bytes kOffsetKind
    have hflags2 := loadLe_lt 2 bytes kOffsetFlags
    have hlength4 := loadLe_lt 4 bytes kOffsetPayloadLength
    constructor
    case kind =>
      dsimp only
      rw [FrameKind.toUInt16_ofUInt16 hkind]
      exact (UInt16.toNat_ofNat_of_lt' hkind2).symm
    case flags => exact (UInt16.toNat_ofNat_of_lt' hflags2).symm
    case length => exact (UInt32.toNat_ofNat_of_lt' hlength4).symm
    all_goals first | assumption | exact loadLe_toNat _ _
  · rintro ⟨hf, hflags, hbound⟩
    have hchecks := (acceptedFlags_iff header.flags).mp hflags
    simp only [hf.magic, hf.version, hf.kind, hf.flags, hf.reserved, hf.length, hf.session,
      hf.epoch, hf.publisher, hf.boot, hf.ordinal, hf.sequence, hf.checksum, hf.reservedTail,
      UInt16.ofNat_toNat, UInt32.ofNat_toNat, UInt64.ofNat_toNat, FrameKind.ofUInt16_toUInt16]
    exact ⟨hlength, trivial, trivial, header.kind.known, hchecks.1, hchecks.2, ⟨trivial, trivial⟩,
      hbound, rfl⟩

/-- The payload check compares the length and the checksum of what was decoded. -/
lemma verifyFramePayload_eq_ok :
    verifyFramePayload header payload = .ok () ↔
      payload.length = header.payloadLength.toNat ∧
        coveredChecksum header payload = header.frameChecksum := by
  have hcopy : headerCopy (List.replicate kChecksumCoverage 0) header = coveredHeader header :=
    headerCopy_eq header List.length_replicate
  have hchecksum := frameChecksum_append header [] payload
  rw [List.append_nil] at hchecksum
  simp only [verifyFramePayload, rejectIf_bind_eq_ok, rejectIf_eq_ok, not_not, hcopy, hchecksum]

/-- The layout of an accepted frame. -/
lemma decodeFrame_eq_ok :
    decodeFrame bytes maxPayload = .ok header ↔
      ∃ payload, Accepted header payload maxPayload ∧
        bytes = coveredHeader header ++ (u64 header.frameChecksum ++ (u64 0 ++ payload)) := by
  constructor
  · intro h
    obtain ⟨decoded, hdecoded, h⟩ := bind_eq_ok.mp h
    obtain ⟨_, hverified, h⟩ := bind_eq_ok.mp h
    cases h
    have hlength : (bytes.take kFrameHeaderSize).length = kFrameHeaderSize := by
      simp only [decodeFrameHeader, rejectIf_bind_eq_ok, not_not] at hdecoded
      exact hdecoded.1
    obtain ⟨hf, hflags, hbound⟩ := (decodeFrameHeader_eq_ok hlength).mp hdecoded
    obtain ⟨hpayload, hchecksum⟩ := verifyFramePayload_eq_ok.mp hverified
    refine ⟨bytes.drop kFrameHeaderSize, ⟨hflags, hpayload, hbound, hchecksum⟩, ?_⟩
    -- the header takes its bytes up, so nothing stands between it and the payload
    have htake := hf.eq_append hlength.ge
    rw [List.drop_eq_nil_of_le hlength.le] at htake
    calc bytes = bytes.take kFrameHeaderSize ++ bytes.drop kFrameHeaderSize :=
          (List.take_append_drop _ _).symm
      _ = _ := by
        rw [htake]
        simp only [List.append_assoc, List.append_nil]
  · rintro ⟨payload, haccepted, rfl⟩
    have hbytes : coveredHeader header ++ (u64 header.frameChecksum ++ (u64 0 ++ payload)) =
        (coveredHeader header ++ (u64 header.frameChecksum ++ (u64 0 ++ []))) ++ payload := by
      simp only [List.append_assoc, List.append_nil]
    have hlength : (coveredHeader header ++ (u64 header.frameChecksum ++ (u64 0 ++ []))).length =
        kFrameHeaderSize := by
      simp [kChecksumCoverage, kFrameHeaderSize]
    refine bind_eq_ok.mpr ⟨header, ?_, bind_eq_ok.mpr ⟨(), ?_, rfl⟩⟩
    · rw [hbytes, List.take_left' hlength]
      exact (decodeFrameHeader_eq_ok hlength).mpr
        ⟨holdsFrame_append header [], haccepted.flags, haccepted.bound⟩
    · rw [hbytes, List.drop_left' hlength]
      exact verifyFramePayload_eq_ok.mpr ⟨haccepted.length, haccepted.checksum⟩

/-! ## The image of the encoder -/

/-- The header that is read back from a frame: with the length of the payload and the checksum
that the encoder put in. -/
def FrameHeader.sealed (header : FrameHeader) (payload : ByteBuffer) : FrameHeader :=
  { header.effective payload with
    frameChecksum := coveredChecksum (header.effective payload) payload }

/-- A buffer is the frame of a header and a payload that the receiver takes. -/
structure IsFrameOf (bytes : ByteBuffer) (maxPayload : UInt32) (header : FrameHeader)
    (payload : ByteBuffer) : Prop where
  flags : AcceptedFlags header.flags
  bound : payload.length ≤ maxPayload.toNat
  encoded : bytes = encodeFrame header payload

/-- Two headers that agree in the fields a sender chooses. -/
structure SameFields (header header' : FrameHeader) : Prop where
  kind : header.kind = header'.kind
  flags : header.flags = header'.flags
  session : header.sessionId = header'.sessionId
  epoch : header.epoch = header'.epoch
  publisher : header.publisher = header'.publisher
  boot : header.publisherBoot = header'.publisherBoot
  ordinal : header.publisherOrdinal = header'.publisherOrdinal
  sequence : header.sequence = header'.sequence

/-- The length field holds every length within the receiver's bound. -/
lemma toNat_payloadLength (h : payload.length ≤ maxPayload.toNat) :
    (UInt32.ofNat payload.length).toNat = payload.length :=
  UInt32.toNat_ofNat_of_lt' (lt_of_le_of_lt h maxPayload.toNat_lt)

/-- A frame decodes to the header it was encoded from. -/
theorem decodeFrame_of_isFrameOf (h : IsFrameOf bytes maxPayload header payload) :
    decodeFrame bytes maxPayload = .ok (header.sealed payload) := by
  have hlength := toNat_payloadLength h.bound
  refine decodeFrame_eq_ok.mpr ⟨payload, ?_, ?_⟩
  · refine ⟨h.flags, hlength.symm, UInt32.le_iff_toNat_le.mpr ?_, rfl⟩
    exact hlength.trans_le h.bound
  · rw [h.encoded, encodeFrame_eq]
    rfl

/-- What decodes is the frame of the decoded header. -/
theorem isFrameOf_of_decodeFrame (h : decodeFrame bytes maxPayload = .ok header) :
    ∃ payload, IsFrameOf bytes maxPayload header payload := by
  obtain ⟨payload, haccepted, hbytes⟩ := decodeFrame_eq_ok.mp h
  have heffective : header.effective payload = header := by
    rw [FrameHeader.effective, haccepted.length, UInt32.ofNat_toNat]
  refine ⟨payload, haccepted.flags, ?_, ?_⟩
  · rw [haccepted.length]
    exact UInt32.le_iff_toNat_le.mp haccepted.bound
  · rw [encodeFrame_eq, heffective, haccepted.checksum]
    exact hbytes

/-- The decoder accepts exactly the frames that the encoder writes, and what it reads encodes
to the frame it was read from. -/
theorem decodeFrame_image (bytes : ByteBuffer) (maxPayload : UInt32) :
    ((∃ header, decodeFrame bytes maxPayload = .ok header) ↔
      ∃ header payload, IsFrameOf bytes maxPayload header payload) ∧
    ∀ header header' payload, decodeFrame bytes maxPayload = .ok header →
      IsFrameOf bytes maxPayload header' payload →
      SameFields header header' ∧ header.payloadLength.toNat = payload.length ∧
        encodeFrame header payload = bytes := by
  constructor
  · constructor
    · rintro ⟨header, hdecoded⟩
      exact ⟨header, isFrameOf_of_decodeFrame hdecoded⟩
    · rintro ⟨header, payload, hframe⟩
      exact ⟨header.sealed payload, decodeFrame_of_isFrameOf hframe⟩
  · intro header header' payload hdecoded hframe
    have hheader : header = header'.sealed payload := by
      rw [decodeFrame_of_isFrameOf hframe] at hdecoded
      exact (Except.ok.inj hdecoded).symm
    subst hheader
    refine ⟨⟨rfl, rfl, rfl, rfl, rfl, rfl, rfl, rfl⟩, toNat_payloadLength hframe.bound, ?_⟩
    rw [hframe.encoded]
    rfl

/-- An evidence frame with a payload of three bytes. -/
def sampleFrame : FrameHeader :=
  { kind := .evidence, sessionId := 0x1122334455667788, epoch := ⟨4⟩, publisher := ⟨9⟩
    publisherBoot := ⟨0xAA⟩, publisherOrdinal := 2, sequence := 7 }

theorem decodeFrame_image_sample :
    ∃ header, decodeFrame (encodeFrame sampleFrame [1, 2, 3]) 16 = .ok header ∧
      SameFields header sampleFrame ∧ header.payloadLength.toNat = 3 ∧
      encodeFrame header [1, 2, 3] = encodeFrame sampleFrame [1, 2, 3] := by
  have hframe : IsFrameOf (encodeFrame sampleFrame [1, 2, 3]) 16 sampleFrame [1, 2, 3] :=
    ⟨.inl rfl, by decide, rfl⟩
  obtain ⟨hiff, hfields⟩ := decodeFrame_image (encodeFrame sampleFrame [1, 2, 3]) 16
  obtain ⟨header, hdecoded⟩ := hiff.mpr ⟨sampleFrame, [1, 2, 3], hframe⟩
  exact ⟨header, hdecoded, hfields header sampleFrame [1, 2, 3] hdecoded hframe⟩

end FairnessGovernor
