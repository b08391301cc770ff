/-
# Frames of the evidence link

A frame is a fixed header of 80 bytes and a payload.  The header holds the length of the
payload and a checksum over its own first 64 bytes and the payload; the checksum field comes
right after the part that it covers.
-/
import FairnessGovernor.Core.Bytes

namespace FairnessGovernor

open LittleEndian

inductive PublisherIdTag

abbrev PublisherId := Id PublisherIdTag

/-! ## The header -/

inductive FrameKind
  | hello | helloAck | evidence | evidenceAck | goodbye | error
deriving DecidableEq, Inhabited

/-- The underlying value of a `FrameKind`. -/
def FrameKind.toUInt16 : FrameKind → UInt16
  | hello => 1
  | helloAck => 2
  | evidence => 3
  | evidenceAck => 4
  | goodbye => 5
  | error => 6

/-- The cast of a known value. -/
def FrameKind.ofUInt16 (raw : UInt16) : FrameKind :=
  if raw = 1 then hello
  else if raw = 2 then helloAck
  else if raw = 3 then evidence
  else if raw = 4 then evidenceAck
  else if raw = 5 then goodbye
  else error

/-- `known_kind`. -/
def knownKind (raw : UInt16) : Prop :=
  FrameKind.hello.toUInt16 ≤ raw ∧ raw ≤ FrameKind.error.toUInt16

instance (raw : UInt16) : Decidable (knownKind raw) :=
  inferInstanceAs (Decidable (_ ∧ _))

/-- `kFrameFlagNone`. -/
def kFrameFlagNone : UInt16 := 0
/-- `kFrameFlagRequestShutdown`: the sender asks the server to stop. -/
def kFrameFlagRequestShutdown : UInt16 := 1
/-- `kFrameFlagUnsupportedEncoding`: an alternate encoding, which version 1 rejects. -/
def kFrameFlagUnsupportedEncoding : UInt16 := 2
/-- `kKnownFlags`. -/
def kKnownFlags : UInt16 := kFrameFlagRequestShutdown ||| kFrameFlagUnsupportedEncoding

/-- `kFrameMagic`. -/
def kFrameMagic : UInt32 := 0x4B4C4746
/-- `kFrameHeaderSize`. -/
def kFrameHeaderSize : ℕ := 80
/-- `kFrameProtocolVersion`. -/
def kFrameProtocolVersion : UInt16 := 1
/-- `kMaxFramePayloadBytes`. -/
def kMaxFramePayloadBytes : UInt32 := 0xFFFFF

def kOffsetMagic : ℕ := 0
def kOffsetVersion : ℕ := 4
def kOffsetKind : ℕ := 6
def kOffsetFlags : ℕ := 8
def kOffsetReserved : ℕ := 10
def kOffsetPayloadLength : ℕ := 12
def kOffsetSession : ℕ := 16
def kOffsetEpoch : ℕ := 24
def kOffsetPublisher : ℕ := 32
def kOffsetPublisherBoot : ℕ := 40
def kOffsetPublisherOrdinal : ℕ := 48
def kOffsetSequence : ℕ := 56
def kOffsetChecksum : ℕ := 64
def kOffsetReservedTail : ℕ := 72
/-- `kChecksumCoverage`: how much of the header the checksum covers. -/
def kChecksumCoverage : ℕ := 64

structure FrameHeader where
  kind : FrameKind := .hello
  flags : UInt16 := 0
  payloadLength : UInt32 := 0
  sessionId : UInt64 := 0
  epoch : FabricEpoch := {}
  publisher : PublisherId := {}
  publisherBoot : BootId := {}
  publisherOrdinal : UInt64 := 0
  sequence : UInt64 := 0
  frameChecksum : UInt64 := 0
deriving DecidableEq, Inhabited

/-- `frame_checksum`. -/
def frameChecksum (header payload : ByteBuffer) : UInt64 :=
  fnv1a64 payload (fnv1a64 (header.take kChecksumCoverage))

/-! ## Encoding -/

/-- `write_header`: the fields in a header of zeros, without the checksum. -/
def writeHeader (header : FrameHeader) : ByteBuffer :=
  let out := List.replicate kFrameHeaderSize 0
  let out := storeLe 4 out kOffsetMagic kFrameMagic.toNat
  let out := storeLe 2 out kOffsetVersion kFrameProtocolVersion.toNat
  let out := storeLe 2 out kOffsetKind header.kind.toUInt16.toNat
  let out := storeLe 2 out kOffsetFlags header.flags.toNat
  let out := storeLe 4 out kOffsetPayloadLength header.payloadLength.toNat
  let out := storeLe 8 out kOffsetSession header.sessionId.toNat
  let out := storeLe 8 out kOffsetEpoch header.epoch.value.toNat
  let out := storeLe 8 out kOffsetPublisher header.publisher.value.toNat
  let out := storeLe 8 out kOffsetPublisherBoot header.publisherBoot.value.toNat
  let out := storeLe 8 out kOffsetPublisherOrdinal header.publisherOrdinal.toNat
  storeLe 8 out kOffsetSequence header.sequence.toNat

/-- `encode_frame`. -/
def encodeFrame (header : FrameHeader) (payload : ByteBuffer) : ByteBuffer :=
  let effective := { header with payloadLength := UInt32.ofNat payload.length }
  let frame := writeHeader effective ++ payload
  let checksum := frameChecksum frame (frame.drop kFrameHeaderSize)
  storeLe 8 frame kOffsetChecksum checksum.toNat

/-! ## Decoding -/

/-- `decode_frame_header`. -/
def decodeFrameHeader (data : ByteBuffer) (maxPayload : UInt32) : Except Status FrameHeader := do
  rejectIf (data.length ≠ kFrameHeaderSize) .frameInvalid
    "frame header is not exactly its fixed size"
  rejectIf (loadLe 4 data kOffsetMagic ≠ kFrameMagic.toNat) .frameInvalid "frame magic mismatch"
  rejectIf (loadLe 2 data kOffsetVersion ≠ kFrameProtocolVersion.toNat) .unsupportedFormat
    "unsupported frame protocol version"
  let kind := UInt16.ofNat (loadLe 2 data kOffsetKind)
  rejectIf (¬ knownKind kind) .frameInvalid "unknown frame kind"
  let flags := UInt16.ofNat (loadLe 2 data kOffsetFlags)
  rejectIf (flags &&& ~~~kKnownFlags ≠ 0) .frameInvalid "frame carries unknown flags"
  rejectIf (flags &&& kFrameFlagUnsupportedEncoding ≠ 0) .unsupported
    "frame requests an unsupported payload encoding"
  rejectIf (loadLe 2 data kOffsetReserved ≠ 0 ∨ loadLe 8 data kOffsetReservedTail ≠ 0)
    .frameInvalid "frame reserved fields must be zero"
  let length := UInt32.ofNat (loadLe 4 data kOffsetPayloadLength)
  rejectIf (length > maxPayload) .frameTooLarge "frame payload exceeds the negotiated bound"
  return { kind := FrameKind.ofUInt16 kind
           flags := flags
           payloadLength := length
           sessionId := UInt64.ofNat (loadLe 8 data kOffsetSession)
           epoch := ⟨UInt64.ofNat (loadLe 8 data kOffsetEpoch)⟩
           publisher := ⟨UInt64.ofNat (loadLe 8 data kOffsetPublisher)⟩
           publisherBoot := ⟨UInt64.ofNat (loadLe 8 data kOffsetPublisherBoot)⟩
           publisherOrdinal := UInt64.ofNat (loadLe 8 data kOffsetPublisherOrdinal)
           sequence := UInt64.ofNat (loadLe 8 data kOffsetSequence)
           frameChecksum := UInt64.ofNat (loadLe 8 data kOffsetChecksum) }

/-- The covered part of a header, written over a buffer of that size. -/
def headerCopy (buffer : ByteBuffer) (header : FrameHeader) : ByteBuffer :=
  let out := storeLe 4 buffer kOffsetMagic kFrameMagic.toNat
  let out := storeLe 2 out kOffsetVersion kFrameProtocolVersion.toNat
  let out := storeLe 2 out kOffsetKind header.kind.toUInt16.toNat
  let out := storeLe 2 out kOffsetFlags header.flags.toNat
  let out := storeLe 2 out kOffsetReserved 0
  let out := storeLe 4 out kOffsetPayloadLength header.payloadLength.toNat
  let out := storeLe 8 out kOffsetSession header.sessionId.toNat
  let out := storeLe 8 out kOffsetEpoch header.epoch.value.toNat
  let out := storeLe 8 out kOffsetPublisher header.publisher.value.toNat
  let out := storeLe 8 out kOffsetPublisherBoot header.publisherBoot.value.toNat
  let out := storeLe 8 out kOffsetPublisherOrdinal header.publisherOrdinal.toNat
  storeLe 8 out kOffsetSequence header.sequence.toNat

/-- `verify_frame_payload`.  The source does not initialize the buffer it copies the header to;
`headerCopy_eq` shows that nothing of it is left. -/
def verifyFramePayload (header : FrameHeader) (payload : ByteBuffer) : Except Status Unit := do
  rejectIf (payload.length ≠ header.payloadLength.toNat) .truncated
    "frame payload length mismatch"
  let copy := headerCopy (List.replicate kChecksumCoverage 0) header
  rejectIf (frameChecksum copy payload ≠ header.frameChecksum) .checksumMismatch
    "frame checksum mismatch"

/-- A buffer as one frame: its header, and all that follows as the payload. -/
def decodeFrame (bytes : ByteBuffer) (maxPayload : UInt32) : Except Status FrameHeader := do
  let header ← decodeFrameHeader (bytes.take kFrameHeaderSize) maxPayload
  verifyFramePayload header (bytes.drop kFrameHeaderSize)
  return header

end FairnessGovernor
