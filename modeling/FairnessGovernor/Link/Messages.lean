/-
# What the server answers with

An answer is a frame whose payload is an acknowledgement or an error.  The sender writes the
status as the number of its code, and the receiver takes any number up to the last code, whether
or not it names a status; so a received acknowledgement holds a number.
-/
import FairnessGovernor.Link.ServerSpec
import FairnessGovernor.Persist.CodecSpec

namespace FairnessGovernor

open LittleEndian Runs

/-! ## Codes and texts -/

/-- The underlying value of a `StatusCode`. -/
def StatusCode.toUInt16 : StatusCode → UInt16
  | ok => 0
  | invalidArgument => 1
  | outOfRange => 2
  | notFound => 3
  | alreadyExists => 4
  | duplicate => 5
  | conflict => 6
  | notInitialized => 7
  | unsupported => 8
  | internal => 9
  | staleGeneration => 20
  | staleEpoch => 21
  | staleIncarnation => 22
  | staleEvidence => 23
  | evidenceMissing => 24
  | evidenceContradictory => 25
  | authorityMismatch => 26
  | incarnationMismatch => 27
  | policyInvalid => 40
  | policyGenerationMismatch => 41
  | policyOvercommit => 42
  | groupCycle => 43
  | groupDepthExceeded => 44
  | subjectGenerationMismatch => 45
  | arithmeticOverflow => 60
  | arithmeticUnderflow => 61
  | divideByZero => 62
  | limitExceeded => 63
  | ioError => 80
  | corruptRecord => 81
  | unsupportedFormat => 82
  | truncated => 83
  | checksumMismatch => 84
  | oversizedPayload => 85
  | commitRejected => 86
  | recoveryRequired => 87
  | transportError => 100
  | frameInvalid => 101
  | frameTooLarge => 102
  | handshakeRejected => 103
  | sequenceViolation => 104
  | linkClosed => 105
  | linkBusy => 106
  | idleTimeout => 107
  | shuttingDown => 120
  | cancelled => 121
  | busy => 122

/-- Different codes have different numbers. -/
lemma StatusCode.toUInt16_injective : Function.Injective StatusCode.toUInt16 := by
  intro code code' h
  cases code <;> cases code' <;> first | rfl | exact absurd h (by decide)

/-- No number is above that of the last code. -/
lemma StatusCode.toUInt16_le (code : StatusCode) : code.toUInt16 ≤ StatusCode.busy.toUInt16 := by
  cases code <;> decide

/-- `kMaxFrameDetailBytes`. -/
def kMaxFrameDetailBytes : ℕ := 512

/-! ## Acknowledgements -/

/-- A handshake acknowledgement, as it is received. -/
structure ReceivedHelloAck where
  code : UInt16
  sessionId : UInt64
  epoch : FabricEpoch
  maxPayload : UInt32
  serverBoot : BootId
  serverOrdinal : UInt64
  policyId : FairnessPolicyId
  policyGeneration : FairnessPolicyGeneration
  accountingGeneration : UInt64
  detail : ByteBuffer
deriving DecidableEq

/-- What an acknowledgement is received as. -/
def HelloAck.received (ack : HelloAck) : ReceivedHelloAck :=
  { code := ack.code.toUInt16
    sessionId := ack.sessionId
    epoch := ack.epoch
    maxPayload := ack.maxPayload
    serverBoot := ack.serverBoot
    serverOrdinal := ack.serverOrdinal
    policyId := ack.policyId
    policyGeneration := ack.policyGeneration
    accountingGeneration := ack.accountingGeneration
    detail := textBytes ack.detail }

/-- `HelloAck::accepted`. -/
def ReceivedHelloAck.accepted (ack : ReceivedHelloAck) : Bool :=
  ack.code == StatusCode.ok.toUInt16

/-- An evidence acknowledgement, as it is received. -/
structure ReceivedEvidenceAck where
  code : UInt16
  snapshot : EvidenceSnapshotId
  generation : EvidenceSnapshotGeneration
  accountingGeneration : UInt64
  disposition : UInt8
  detail : ByteBuffer
deriving DecidableEq

/-- What an acknowledgement is received as. -/
def EvidenceAck.received (ack : EvidenceAck) : ReceivedEvidenceAck :=
  { code := ack.code.toUInt16
    snapshot := ack.snapshot
    generation := ack.generation
    accountingGeneration := ack.accountingGeneration
    disposition := ack.disposition
    detail := textBytes ack.detail }

section Encode

open ByteWriter

/-- The layout of a handshake acknowledgement. -/
def writeHelloAck (ack : ReceivedHelloAck) : ByteBuffer :=
  u16 ack.code ++ (u64 ack.sessionId ++ (u64 ack.epoch.value ++ (u32 ack.maxPayload ++
    (u64 ack.serverBoot.value ++ (u64 ack.serverOrdinal ++ (u64 ack.policyId.value ++
    (u64 ack.policyGeneration.value ++ (u64 ack.accountingGeneration ++ blob ack.detail))))))))

/-- `encode_hello_ack`. -/
def encodeHelloAck (ack : HelloAck) : ByteBuffer := writeHelloAck ack.received

/-- The layout of an evidence acknowledgement. -/
def writeEvidenceAck (ack : ReceivedEvidenceAck) : ByteBuffer :=
  u16 ack.code ++ (u64 ack.snapshot.value ++ (u64 ack.generation.value ++
    (u64 ack.accountingGeneration ++ (u8 ack.disposition ++ blob ack.detail))))

/-- `encode_evidence_ack`. -/
def encodeEvidenceAck (ack : EvidenceAck) : ByteBuffer := writeEvidenceAck ack.received

/-- The payload of `send_error`. -/
def encodeError (reason : Status) : ByteBuffer :=
  u16 reason.code.toUInt16 ++ blob ((textBytes reason.detail).take kMaxFrameDetailBytes)

end Encode

section Decode

open ByteReader

/-- The fields of a handshake acknowledgement. -/
def readHelloAck (e : Status) : ByteReader ReceivedHelloAck := do
  let code ← u16 e
  let sessionId ← u64 e
  let epoch ← u64 e
  let maxPayload ← u32 e
  let serverBoot ← u64 e
  let serverOrdinal ← u64 e
  let policyId ← u64 e
  let policyGeneration ← u64 e
  let accountingGeneration ← u64 e
  let detail ← blob e kMaxFrameDetailBytes
  return ⟨code, sessionId, ⟨epoch⟩, maxPayload, ⟨serverBoot⟩, serverOrdinal, ⟨policyId⟩,
    ⟨policyGeneration⟩, accountingGeneration, detail⟩

/-- The fields of an evidence acknowledgement. -/
def readEvidenceAck (e : Status) : ByteReader ReceivedEvidenceAck := do
  let code ← u16 e
  let snapshot ← u64 e
  let generation ← u64 e
  let accountingGeneration ← u64 e
  let disposition ← u8 e
  let detail ← blob e kMaxFrameDetailBytes
  return ⟨code, ⟨snapshot⟩, ⟨generation⟩, accountingGeneration, disposition, detail⟩

/-- Reads a whole acknowledgement, and refuses a number above the last code. -/
def decodeAck {α : Type} (malformed unknown : String) (reader : Status → ByteReader α)
    (code : α → UInt16) (bytes : ByteBuffer) : Except Status α := do
  let (ack, rest) ← reader ⟨.frameInvalid, malformed⟩ bytes
  rejectIf (rest ≠ []) .frameInvalid malformed
  rejectIf (code ack > StatusCode.busy.toUInt16) .frameInvalid unknown
  return ack

/-- `decode_hello_ack`. -/
def decodeHelloAck (bytes : ByteBuffer) : Except Status ReceivedHelloAck :=
  decodeAck "hello acknowledgement is malformed" "hello acknowledgement carries an unknown status"
    readHelloAck (·.code) bytes

/-- `decode_evidence_ack`. -/
def decodeEvidenceAck (bytes : ByteBuffer) : Except Status ReceivedEvidenceAck :=
  decodeAck "evidence acknowledgement is malformed"
    "evidence acknowledgement carries an unknown status" readEvidenceAck (·.code) bytes

/-- What the client makes of an error frame: it reads the front of the payload. -/
def decodeError (bytes : ByteBuffer) : Option (UInt16 × ByteBuffer) :=
  let e : Status := ⟨.frameInvalid, "unexpected acknowledgement frame"⟩
  let reader : ByteReader (UInt16 × ByteBuffer) := do
    let code ← u16 e
    let detail ← blob e kMaxFrameDetailBytes
    return (code, detail)
  (reader bytes).toOption.map (·.1)

end Decode

/-! ## What is read is what was written -/

section Image

variable {α : Type} {malformed unknown : String} {reader : Status → ByteReader α}
  {code : α → UInt16} {write : α → ByteBuffer} {bytes : ByteBuffer}

/-- A whole acknowledgement is accepted as the layout that gives its bytes. -/
lemma decodeAck_eq_ok {Fits : α → Prop} {ack : α}
    (hreads : Reads (reader ⟨.frameInvalid, malformed⟩) write)
    (hfits : ∀ input a rest, reader ⟨.frameInvalid, malformed⟩ input = .ok (a, rest) → Fits a)
    (hdecodes : ∀ a, Fits a → Decodes (reader ⟨.frameInvalid, malformed⟩) (write a) a) :
    decodeAck malformed unknown reader code bytes = .ok ack ↔
      bytes = write ack ∧ Fits ack ∧ code ack ≤ StatusCode.busy.toUInt16 := by
  unfold decodeAck
  constructor
  · intro h
    obtain ⟨⟨decoded, rest⟩, hread, h⟩ := bind_eq_ok.mp h
    obtain ⟨hrest, h⟩ := rejectIf_bind_eq_ok.mp h
    obtain ⟨hcode, h⟩ := rejectIf_bind_eq_ok.mp h
    obtain rfl := Except.ok.inj h
    obtain rfl := not_not.mp hrest
    have hbytes := hreads _ _ _ hread
    rw [List.append_nil] at hbytes
    exact ⟨hbytes, hfits _ _ _ hread, UInt16.not_lt.mp hcode⟩
  · rintro ⟨rfl, hack, hcode⟩
    have hread := hdecodes ack hack []
    rw [List.append_nil] at hread
    rw [hread]
    simp only [ok_bind, rejectIf_bind_eq_ok]
    exact ⟨fun h => h rfl, UInt16.not_lt.mpr hcode, rfl⟩

end Image

section Layouts

open ByteReader

variable {e : Status}

lemma blob_length {maxSize : ℕ} {input rest value : ByteBuffer}
    (h : blob e maxSize input = .ok (value, rest)) : value.length ≤ maxSize := by
  obtain ⟨length, _, -, h⟩ := bind_ok.mp h
  obtain ⟨_, _, hrequire, h⟩ := bind_ok.mp h
  obtain ⟨hbound, -⟩ := require_ok.mp hrequire
  obtain ⟨-, hlength⟩ := take_ok h
  exact hlength ▸ hbound

lemma decodes_readHelloAck {ack : ReceivedHelloAck}
    (h : ack.detail.length ≤ kMaxFrameDetailBytes) :
    Decodes (readHelloAck e) (writeHelloAck ack) ack := by
  refine decodes_bind (decodes_u16 e _) ?_
  iterate 2 refine decodes_bind (decodes_u64 e _) ?_
  refine decodes_bind (decodes_u32 e _) ?_
  iterate 5 refine decodes_bind (decodes_u64 e _) ?_
  exact decodes_bind_last (decodes_blob e h (by decide)) (decodes_pure _)

lemma decodes_readEvidenceAck {ack : ReceivedEvidenceAck}
    (h : ack.detail.length ≤ kMaxFrameDetailBytes) :
    Decodes (readEvidenceAck e) (writeEvidenceAck ack) ack := by
  refine decodes_bind (decodes_u16 e _) ?_
  iterate 3 refine decodes_bind (decodes_u64 e _) ?_
  refine decodes_bind (decodes_u8 e _) ?_
  exact decodes_bind_last (decodes_blob e h (by decide)) (decodes_pure _)

lemma readHelloAck_ok {ack : ReceivedHelloAck} {input rest : ByteBuffer}
    (h : readHelloAck e input = .ok (ack, rest)) :
    input = writeHelloAck ack ++ rest ∧ ack.detail.length ≤ kMaxFrameDetailBytes := by
  simp only [readHelloAck, bind_ok] at h
  obtain ⟨_, _, h1, _, _, h2, _, _, h3, _, _, h4, _, _, h5, _, _, h6, _, _, h7, _, _, h8,
    _, _, h9, _, _, h10, h⟩ := h
  cases h
  refine ⟨?_, blob_length h10⟩
  rw [reads_u16 _ _ _ _ h1, reads_u64 _ _ _ _ h2, reads_u64 _ _ _ _ h3, reads_u32 _ _ _ _ h4,
    reads_u64 _ _ _ _ h5, reads_u64 _ _ _ _ h6, reads_u64 _ _ _ _ h7, reads_u64 _ _ _ _ h8,
    reads_u64 _ _ _ _ h9, reads_blob _ _ _ _ _ h10]
  simp only [writeHelloAck, List.append_assoc]

lemma readEvidenceAck_ok {ack : ReceivedEvidenceAck} {input rest : ByteBuffer}
    (h : readEvidenceAck e input = .ok (ack, rest)) :
    input = writeEvidenceAck ack ++ rest ∧ ack.detail.length ≤ kMaxFrameDetailBytes := by
  simp only [readEvidenceAck, bind_ok] at h
  obtain ⟨_, _, h1, _, _, h2, _, _, h3, _, _, h4, _, _, h5, _, _, h6, h⟩ := h
  cases h
  refine ⟨?_, blob_length h6⟩
  rw [reads_u16 _ _ _ _ h1, reads_u64 _ _ _ _ h2, reads_u64 _ _ _ _ h3, reads_u64 _ _ _ _ h4,
    reads_u8 _ _ _ _ h5, reads_blob _ _ _ _ _ h6]
  simp only [writeEvidenceAck, List.append_assoc]

end Layouts

/-- The handshake decoder accepts exactly what the layout gives of an acknowledgement whose
text and number are in bounds. -/
lemma decodeHelloAck_eq_ok {bytes : ByteBuffer} {ack : ReceivedHelloAck} :
    decodeHelloAck bytes = .ok ack ↔ bytes = writeHelloAck ack ∧
      ack.detail.length ≤ kMaxFrameDetailBytes ∧ ack.code ≤ StatusCode.busy.toUInt16 :=
  decodeAck_eq_ok (fun _ _ _ h => (readHelloAck_ok h).1) (fun _ _ _ h => (readHelloAck_ok h).2)
    fun _ h => decodes_readHelloAck h

/-- So does the decoder of evidence acknowledgements. -/
lemma decodeEvidenceAck_eq_ok {bytes : ByteBuffer} {ack : ReceivedEvidenceAck} :
    decodeEvidenceAck bytes = .ok ack ↔ bytes = writeEvidenceAck ack ∧
      ack.detail.length ≤ kMaxFrameDetailBytes ∧ ack.code ≤ StatusCode.busy.toUInt16 :=
  decodeAck_eq_ok (fun _ _ _ h => (readEvidenceAck_ok h).1)
    (fun _ _ _ h => (readEvidenceAck_ok h).2) fun _ h => decodes_readEvidenceAck h

/-! ## Every text of the server fits -/

/-- A text that the receiver of an acknowledgement takes. -/
def Fits (text : String) : Prop := (textBytes text).length ≤ kMaxFrameDetailBytes

instance (text : String) : Decidable (Fits text) := inferInstanceAs (Decidable (_ ≤ _))

/-- Every error has a text that fits. -/
def FailsBriefly {α : Type} (x : Except Status α) : Prop := ∀ e, x = .error e → Fits e.detail

section Briefly

variable {α β : Type}

lemma failsBriefly_ok (a : α) : FailsBriefly (.ok a) := by
  intro e h
  cases h

lemma failsBriefly_error {e : Status} (h : Fits e.detail) :
    FailsBriefly (.error e : Except Status α) := by
  intro e' heq
  obtain rfl := Except.error.inj heq
  exact h

lemma FailsBriefly.bind {x : Except Status α} {f : α → Except Status β} (hx : FailsBriefly x)
    (hf : ∀ a, FailsBriefly (f a)) : FailsBriefly (x >>= f) := by
  cases x with
  | error e => exact failsBriefly_error (hx e rfl)
  | ok a => exact hf a

/-- A chain of checks fails with the texts of its checks. -/
lemma rejectIf_failsBriefly {c : Prop} [Decidable c] {code : StatusCode} {detail : String}
    (h : Fits detail) : FailsBriefly (rejectIf c code detail) := by
  unfold rejectIf
  split_ifs
  · exact failsBriefly_error h
  · exact failsBriefly_ok ()

end Briefly

lemma validateObservations_failsBriefly (observations : List SubjectObservation) (total : ℕ) :
    FailsBriefly (validateObservations observations total) := by
  induction observations generalizing total with
  | nil => exact failsBriefly_ok ()
  | cons observation rest ih =>
    rw [validateObservations]
    iterate 7 refine (rejectIf_failsBriefly (by decide)).bind fun _ => ?_
    split
    · exact failsBriefly_error (by decide)
    · exact ih _

lemma validateEvidence_failsBriefly (snapshot : EvidenceSnapshot) :
    FailsBriefly (validateEvidence snapshot) := by
  unfold validateEvidence
  iterate 9 refine (rejectIf_failsBriefly (by decide)).bind fun _ => ?_
  refine (validateObservations_failsBriefly _ _).bind fun _ => ?_
  exact (rejectIf_failsBriefly (by decide)).bind fun _ => rejectIf_failsBriefly (by decide)

lemma decodeEvidence_failsBriefly (bytes : ByteBuffer) : FailsBriefly (decodeEvidence bytes) := by
  have hreader : Reports readEvidence fun e => Fits e.detail := by
    unfold readEvidence readVersion
    refine reports_bind (reports_bind (ByteReader.reports_u16 (by decide)) fun _ =>
      reports_require (by decide)) fun _ => ?_
    refine reports_bind (readEvidenceFields_reports (by decide)) fun _ => ?_
    refine reports_bind (readCount_reports (by decide) (by decide) _) fun _ => ?_
    exact reports_bind (reports_replicateM (readObservation_reports (by decide)) _) fun _ =>
      reports_pure _
  refine FailsBriefly.bind ?_ fun snapshot =>
    (validateEvidence_failsBriefly snapshot).bind fun _ => failsBriefly_ok snapshot
  refine (rejectIf_failsBriefly (by decide)).bind fun _ => ?_
  refine FailsBriefly.bind (hreader bytes) fun _ => ?_
  exact (rejectIf_failsBriefly (by decide)).bind fun _ => failsBriefly_ok _

lemma checkSnapshot_failsBriefly (g : Governor) (snapshot : EvidenceSnapshot) :
    FailsBriefly (g.checkSnapshot snapshot) := by
  unfold Governor.checkSnapshot
  refine (validateEvidence_failsBriefly snapshot).bind fun _ => ?_
  iterate 3 refine (rejectIf_failsBriefly (by decide)).bind fun _ => ?_
  exact rejectIf_failsBriefly (by decide)

lemma checkOrder_failsBriefly (g : Governor) (snapshot : EvidenceSnapshot) :
    FailsBriefly (g.checkOrder snapshot) :=
  (rejectIf_failsBriefly (by decide)).bind fun _ => rejectIf_failsBriefly (by decide)

lemma ingestEvidence_failsBriefly (g : Governor) (snapshot : EvidenceSnapshot) :
    FailsBriefly (g.ingestEvidence snapshot).1 := by
  unfold Governor.ingestEvidence
  cases hchecked : g.checkSnapshot snapshot with
  | error e => exact failsBriefly_error (checkSnapshot_failsBriefly g snapshot e hchecked)
  | ok =>
    dsimp only
    split
    · split_ifs
      · exact failsBriefly_error (by decide)
      · exact failsBriefly_ok _
    · cases hordered : g.checkOrder snapshot with
      | error e => exact failsBriefly_error (checkOrder_failsBriefly g snapshot e hordered)
      | ok => exact failsBriefly_ok _

end FairnessGovernor
