/-
# A client and its worker

A client that waits for each answer before it asks again has at most one frame under way, and so
an answer that it reads is the answer to what it asked.  `Talk` lists where the two can be, and
each step of either of them leads from one such place to another.
-/
import FairnessGovernor.Link.Client
import FairnessGovernor.Link.Socket

namespace FairnessGovernor

open Program Runs

/-! ## Frames under way -/

/-- A frame that its sender can describe: the length of the payload fits its header. -/
structure Sendable (header : FrameHeader) (payload : ByteBuffer) : Prop where
  flags : AcceptedFlags header.flags
  length : payload.length < 2 ^ 32

section Transit

variable {header : FrameHeader} {payload input left rest : ByteBuffer} {maxPayload : UInt32}
  {frame : InboundFrame}

lemma sameFields_sealed : SameFields (header.sealed payload) header :=
  ⟨rfl, rfl, rfl, rfl, rfl, rfl, rfl, rfl⟩

/-- A frame is read under the largest bound as well. -/
lemma readFrame_largest (h : readFrame maxPayload input = .ok (frame, rest)) :
    input = frame.wire ++ rest ∧ ∀ more, readFrame 0xFFFFFFFF (frame.wire ++ more) =
      .ok (⟨frame.header.sealed frame.payload, frame.payload⟩, more) := by
  obtain ⟨hinput, hframe⟩ := readFrame_image h
  refine ⟨hinput, fun more => readFrame_encodeFrame ⟨hframe.flags, ?_, rfl⟩⟩
  have hbound := maxPayload.toNat_lt
  have hle := hframe.bound
  show _ ≤ 4294967295
  omega

/-- What is read of a frame is what was written, and the rest is what was written after it. -/
lemma Sendable.readFrame (hframe : Sendable header payload)
    (h : readFrame maxPayload (encodeFrame header payload ++ left) = .ok (frame, rest)) :
    SameFields frame.header header ∧ frame.payload = payload ∧ rest = left := by
  obtain ⟨hinput, hread⟩ := readFrame_largest h
  have hwritten : FairnessGovernor.readFrame 0xFFFFFFFF (encodeFrame header payload ++ left) =
      .ok (⟨header.sealed payload, payload⟩, left) :=
    readFrame_encodeFrame ⟨hframe.flags, Nat.le_of_lt_succ hframe.length, rfl⟩
  rw [hinput, hread rest] at hwritten
  obtain ⟨hsame, hrest⟩ := Prod.mk_inj.mp (Except.ok.inj hwritten)
  obtain ⟨hheader, hpayload⟩ := InboundFrame.mk.inj hsame
  refine ⟨?_, hpayload, hrest⟩
  -- sealing changes none of the fields that a sender chooses
  have hfields : SameFields (frame.header.sealed frame.payload) header :=
    hheader ▸ sameFields_sealed
  exact ⟨hfields.kind, hfields.flags, hfields.session, hfields.epoch, hfields.publisher,
    hfields.boot, hfields.ordinal, hfields.sequence⟩

/-- No frame is read from a part of one. -/
lemma Sendable.torn (hframe : Sendable header payload) {count : ℕ}
    (hcount : count < (encodeFrame header payload).length)
    (h : FairnessGovernor.readFrame maxPayload ((encodeFrame header payload).take count) =
      .ok (frame, rest)) : False := by
  obtain ⟨hinput, hread⟩ := readFrame_largest h
  have hwritten : FairnessGovernor.readFrame 0xFFFFFFFF (encodeFrame header payload ++ []) =
      .ok (⟨header.sealed payload, payload⟩, []) :=
    readFrame_encodeFrame ⟨hframe.flags, Nat.le_of_lt_succ hframe.length, rfl⟩
  have hsplit : encodeFrame header payload ++ [] =
      frame.wire ++ (rest ++ (encodeFrame header payload).drop count) := by
    rw [← List.append_assoc, ← hinput, List.take_append_drop, List.append_nil]
  rw [hsplit, hread] at hwritten
  have hnone := (List.append_eq_nil_iff.mp (Prod.mk_inj.mp (Except.ok.inj hwritten)).2).2
  rw [List.drop_eq_nil_iff] at hnone
  omega

lemma readFrame_nil : readFrame maxPayload [] ≠ .ok (frame, rest) := by
  intro h
  obtain ⟨hne, -⟩ := rejectIf_bind_eq_ok.mp h
  exact hne rfl

end Transit

/-! ## Bytes that promise nothing -/

/-- Nothing that a client would take for a success is read from these bytes. -/
def Barren (inbox : ByteBuffer) : Prop :=
  ∀ frame rest, readFrame kMaxFramePayloadBytes inbox = .ok (frame, rest) →
    (∀ ack, readHandshake frame ≠ .ok ack) ∧ ∀ ack, readSubmission frame ≠ .ok ack

section Barren

variable {header : FrameHeader} {payload : ByteBuffer}

lemma barren_nil : Barren [] := fun _ _ h => absurd h readFrame_nil

/-- A part of a frame promises nothing. -/
lemma Sendable.barren_take (h : Sendable header payload) {count : ℕ}
    (hcount : count < (encodeFrame header payload).length) :
    Barren ((encodeFrame header payload).take count) :=
  fun _ _ hread => (h.torn hcount hread).elim

/-- A frame that is no acknowledgement promises nothing. -/
lemma Sendable.barren (h : Sendable header payload) (hhello : header.kind ≠ .helloAck)
    (hevidence : header.kind ≠ .evidenceAck) : Barren (encodeFrame header payload) := by
  intro frame rest hread
  rw [← List.append_nil (encodeFrame _ _)] at hread
  obtain ⟨hfields, -, -⟩ := h.readFrame hread
  rw [← hfields.kind] at hhello hevidence
  constructor
  · intro ack hack
    rw [readHandshake, if_pos hhello] at hack
    cases hack
  · intro ack hack
    rw [readSubmission, if_pos hevidence] at hack
    dsimp only at hack
    split_ifs at hack
    split at hack <;> cases hack

/-- What the client makes of a handshake acknowledgement. -/
lemma readHandshake_helloAck {frame : InboundFrame} {ack : HelloAck}
    (hkind : frame.header.kind = .helloAck) (hpayload : frame.payload = encodeHelloAck ack)
    (hfits : Fits ack.detail) (hcode : ack.code = .ok) :
    readHandshake frame = .ok ack.received := by
  have hdecode : decodeHelloAck frame.payload = .ok ack.received :=
    decodeHelloAck_eq_ok.mpr ⟨hpayload, hfits, ack.code.toUInt16_le⟩
  have haccepted : ack.received.accepted = true := by
    rw [ReceivedHelloAck.accepted, HelloAck.received, hcode]
    rfl
  rw [readHandshake, if_neg (not_not.mpr hkind), hdecode]
  dsimp only
  rw [if_pos haccepted]

/-- What the client makes of an evidence acknowledgement. -/
lemma readSubmission_evidenceAck {frame : InboundFrame} {ack : EvidenceAck}
    (hkind : frame.header.kind = .evidenceAck) (hpayload : frame.payload = encodeEvidenceAck ack)
    (hfits : Fits ack.detail) : readSubmission frame = .ok ack.received := by
  have hdecode : decodeEvidenceAck frame.payload = .ok ack.received :=
    decodeEvidenceAck_eq_ok.mpr ⟨hpayload, hfits, ack.code.toUInt16_le⟩
  rw [readSubmission, if_neg (not_not.mpr hkind), hdecode]

/-- Nor does a handshake that is not accepted. -/
lemma Sendable.barren_handshake {ack : HelloAck} (h : Sendable header (encodeHelloAck ack))
    (hkind : header.kind = .helloAck) (hfits : Fits ack.detail) (hcode : ack.code ≠ .ok) :
    Barren (encodeFrame header (encodeHelloAck ack)) := by
  intro frame rest hread
  rw [← List.append_nil (encodeFrame _ _)] at hread
  obtain ⟨hfields, hpayload, -⟩ := h.readFrame hread
  have hdecode : decodeHelloAck frame.payload = .ok ack.received :=
    decodeHelloAck_eq_ok.mpr ⟨hpayload, hfits, ack.code.toUInt16_le⟩
  have hrefused : ¬ ack.received.accepted = true := by
    intro haccepted
    exact hcode (StatusCode.toUInt16_injective (beq_iff_eq.mp haccepted))
  constructor
  · intro received hreceived
    rw [readHandshake, if_neg (not_not.mpr (hfields.kind.trans hkind)), hdecode] at hreceived
    dsimp only at hreceived
    rw [if_neg hrefused] at hreceived
    cases hreceived
  · intro received hreceived
    have hother : frame.header.kind ≠ .evidenceAck := by
      rw [hfields.kind, hkind]
      simp
    rw [readSubmission, if_pos hother] at hreceived
    dsimp only at hreceived
    rw [if_neg (by rw [hfields.kind, hkind]; simp)] at hreceived
    cases hreceived

end Barren

/-! ## What workers send -/

/-- A text that the receiver takes stands in an acknowledgement. -/
def LinkAction.Fits : LinkAction → Prop
  | .welcomed ack _ => FairnessGovernor.Fits ack.detail
  | .acknowledged _ ack _ => FairnessGovernor.Fits ack.detail
  | _ => True

section Sent

variable {live : Governor} {phase : Phase} {action : LinkAction} {sent : ByteBuffer}

variable {kind : FrameKind} {session sequence : UInt64}

lemma sendable_empty {header : FrameHeader} (h : AcceptedFlags header.flags) :
    Sendable header [] := ⟨h, by simp⟩

lemma sendable_error (reason : Status) :
    Sendable (sentHeader live kind session sequence) (encodeError reason) := by
  refine ⟨.inl rfl, ?_⟩
  simp only [encodeError, ByteWriter.u16, ByteWriter.blob, ByteWriter.u32, List.length_append,
    List.length_take, LittleEndian.length_leBytes, kMaxFrameDetailBytes]
  omega

lemma length_encodeHelloAck {ack : HelloAck} (h : Fits ack.detail) :
    (encodeHelloAck ack).length ≤ kMaxFramePayloadBytes.toNat := by
  simp only [Fits, kMaxFrameDetailBytes] at h
  simp only [encodeHelloAck, writeHelloAck, HelloAck.received, ByteWriter.u16, ByteWriter.u64,
    ByteWriter.u32, ByteWriter.blob, List.length_append, LittleEndian.length_leBytes]
  show _ ≤ 1048575
  omega

lemma length_encodeEvidenceAck {ack : EvidenceAck} (h : Fits ack.detail) :
    (encodeEvidenceAck ack).length ≤ kMaxFramePayloadBytes.toNat := by
  simp only [Fits, kMaxFrameDetailBytes] at h
  simp only [encodeEvidenceAck, writeEvidenceAck, EvidenceAck.received, ByteWriter.u16,
    ByteWriter.u64, ByteWriter.u32, ByteWriter.u8, ByteWriter.blob, List.length_append,
    LittleEndian.length_leBytes, List.length_singleton]
  show _ ≤ 1048575
  omega

lemma sendable_helloAck {ack : HelloAck} (h : Fits ack.detail) :
    Sendable (sentHeader live kind session sequence) (encodeHelloAck ack) :=
  ⟨.inl rfl, lt_of_le_of_lt (length_encodeHelloAck h) (by decide)⟩

lemma sendable_evidenceAck {ack : EvidenceAck} (h : Fits ack.detail) :
    Sendable (sentHeader live kind session sequence) (encodeEvidenceAck ack) :=
  ⟨.inl rfl, lt_of_le_of_lt (length_encodeEvidenceAck h) (by decide)⟩

lemma barren_sentError (reason : Status) : Barren (sentError live session reason) :=
  (sendable_error reason).barren (by simp [sentHeader]) (by simp [sentHeader])

lemma fits_staleHello (g : Governor) : Fits (staleHello g).detail := by
  show Fits "publisher epoch is not the live fabric epoch"
  decide

/-- What a worker answers is one frame, and where it does not ask whether that was sent, the
frame promises nothing. -/
lemma answer_frame (hfits : action.Fits) (h : answer live phase action = some sent) :
    (∃ header payload, Sendable header payload ∧ sent = encodeFrame header payload) ∧
      (action.sent = none → Barren sent) := by
  unfold answer at h
  split at h
  · obtain rfl := Option.some.inj h
    exact ⟨⟨_, _, sendable_helloAck hfits, rfl⟩, fun hsent => by cases hsent⟩
  · obtain rfl := Option.some.inj h
    exact ⟨⟨_, _, sendable_evidenceAck hfits, rfl⟩, fun hsent => by cases hsent⟩
  · split_ifs at h
    · obtain rfl := Option.some.inj h
      have hsendable := @sendable_helloAck live .helloAck 0 0 _ (fits_staleHello live)
      exact ⟨⟨_, _, hsendable, rfl⟩, fun _ =>
        hsendable.barren_handshake rfl (fits_staleHello live) (by simp [staleHello])⟩
    · obtain rfl := Option.some.inj h
      exact ⟨⟨_, _, sendable_error _, rfl⟩, fun _ => barren_sentError _⟩
  · obtain rfl := Option.some.inj h
    exact ⟨⟨_, _, sendable_error _, rfl⟩, fun _ => barren_sentError _⟩
  · obtain rfl := Option.some.inj h
    exact ⟨⟨_, _, sendable_error _, rfl⟩, fun _ => barren_sentError _⟩
  · obtain rfl := Option.some.inj h
    exact ⟨⟨_, _, sendable_error _, rfl⟩, fun _ => barren_sentError _⟩
  · split_ifs at h
    obtain rfl := Option.some.inj h
    refine ⟨⟨_, _, sendable_empty (.inl rfl), rfl⟩, fun _ => ?_⟩
    exact (sendable_empty (.inl rfl)).barren (by simp [sentHeader]) (by simp [sentHeader])
  · cases h

/-- Unless an acknowledgement was sent, what reaches the client promises nothing. -/
lemma Sends.barren (h : Sends live phase action sent) (hfits : action.Fits)
    (hsent : action.sent ≠ some true) : Barren sent := by
  cases h with
  | whole hanswer hwhole =>
    refine (answer_frame hfits hanswer).2 ?_
    cases haction : action.sent with
    | none => rfl
    | some found =>
      cases found with
      | false => exact absurd haction hwhole
      | true => exact absurd haction hsent
  | part count hanswer _ hcount =>
    obtain ⟨⟨header, payload, hsendable, hframe⟩, -⟩ := answer_frame hfits hanswer
    rw [hframe] at hcount ⊢
    exact hsendable.barren_take hcount
  | nothing => exact barren_nil

end Sent

/-! ## What was made of a snapshot -/

/-- A snapshot that was handed to the governor, and what the governor said. -/
abbrev Handed := EvidenceSnapshot × Except Status IngestResult

/-- What an action hands to the governor. -/
def LinkAction.handed : LinkAction → List Handed
  | .ingest _ snapshot result => [(snapshot, result)]
  | _ => []

/-- An acknowledgement says what the governor said. -/
def EvidenceAck.Reports (ack : EvidenceAck) : Except Status IngestResult → Prop
  | .error e => ack.code = e.code ∧ ack.detail = e.detail
  | .ok ingested => ack.detail = "evidence accepted" ∧
    match ingested.disposition with
    | .staged => ack.code = .ok ∧ ack.disposition = 0
    | .duplicateIgnored => ack.code = .duplicate ∧ ack.disposition = 1

/-- What came of a snapshot that a client submitted: it could not be decoded, was handed to
nobody, and the acknowledgement says why; or it was handed to the governor once, and the
acknowledgement names it and says what the governor said. -/
inductive Treated (snapshot : EvidenceSnapshot) : List Handed → EvidenceAck → Prop
  | refused {e : Status} {ack : EvidenceAck} :
      decodeEvidence (encodeEvidence snapshot) = .error e →
      ack.code = e.code → ack.detail = e.detail → Treated snapshot [] ack
  | handed {decoded : EvidenceSnapshot} {result : Except Status IngestResult} {ack : EvidenceAck} :
      decodeEvidence (encodeEvidence snapshot) = .ok decoded →
      ack.snapshot = decoded.id → ack.generation = decoded.generation → ack.Reports result →
      Fits ack.detail → Treated snapshot [(decoded, result)] ack

/-- How far a worker is with a snapshot that a client submitted. -/
def Stage.Handles (snapshot : EvidenceSnapshot) (recent : List Handed) : Stage → Prop
  | .decoded decode => decode = decodeEvidence (encodeEvidence snapshot) ∧ recent = []
  | .requesting evidence ack | .ingesting evidence ack _ =>
    decodeEvidence (encodeEvidence snapshot) = .ok evidence ∧ recent = [] ∧
      ack.snapshot = evidence.id ∧ ack.generation = evidence.generation
  | .evaluating ack _ | .committing ack _ | .finishing ack | .replying ack =>
    Treated snapshot recent ack

/-- What may have been handed to the governor for a client that asked no more than this. -/
def ClientState.Allows (state : ClientState) (recent : List Handed) : Prop :=
  recent = [] ∨ ∃ snapshot decoded result, state = .submitting snapshot ∧
    decodeEvidence (encodeEvidence snapshot) = .ok decoded ∧ recent = [(decoded, result)]

section Treated

variable {snapshot decoded : EvidenceSnapshot} {recent : List Handed} {ack : EvidenceAck}
  {options : LinkServerOptions} {request : EvaluationRequest}

lemma Treated.fits (h : Treated snapshot recent ack) : Fits ack.detail := by
  cases h with
  | refused hdecode _ hdetail =>
    rw [hdetail]
    exact decodeEvidence_failsBriefly _ _ hdecode
  | handed _ _ _ _ hfits => exact hfits

lemma Treated.allows (h : Treated snapshot recent ack) :
    (ClientState.submitting snapshot).Allows recent := by
  cases h with
  | refused => exact .inl rfl
  | handed hdecode => exact .inr ⟨snapshot, _, _, rfl, hdecode, rfl⟩

lemma Stage.Handles.allows {stage : Stage} (h : stage.Handles snapshot recent) :
    (ClientState.submitting snapshot).Allows recent := by
  cases stage with
  | decoded => exact .inl h.2
  | requesting => exact .inl h.2.1
  | ingesting => exact .inl h.2.1
  | evaluating => exact Treated.allows h
  | committing => exact Treated.allows h
  | finishing => exact Treated.allows h
  | replying => exact Treated.allows h

/-- After the payload was decoded. -/
lemma handles_afterDecode {decode : Except Status EvidenceSnapshot} (accountingGeneration : UInt64)
    (h : decode = decodeEvidence (encodeEvidence snapshot)) :
    (afterDecode accountingGeneration decode).Handles snapshot [] := by
  cases decode with
  | error e => exact Treated.refused h.symm rfl rfl
  | ok decoded => exact ⟨h.symm, rfl, rfl, rfl⟩

/-- After the governor was called. -/
lemma handles_afterIngest {result : Except Status IngestResult} (hbrief : FailsBriefly result)
    (hdecode : decodeEvidence (encodeEvidence snapshot) = .ok decoded)
    (hsnapshot : ack.snapshot = decoded.id) (hgeneration : ack.generation = decoded.generation) :
    (afterIngest options ack request result).Handles snapshot [(decoded, result)] := by
  have haccepted : Fits "evidence accepted" := by decide
  cases result with
  | error e => exact .handed hdecode hsnapshot hgeneration ⟨rfl, rfl⟩ (hbrief e rfl)
  | ok ingested =>
    -- the acknowledgement is the same whether or not the snapshot is evaluated
    have htreated : Treated snapshot [(decoded, .ok ingested)]
        (match ingested.disposition with
          | .staged => { ack with code := .ok, disposition := 0, detail := "evidence accepted" }
          | .duplicateIgnored =>
            { ack with code := .duplicate, disposition := 1, detail := "evidence accepted" }) := by
      cases hdisposition : ingested.disposition with
      | staged =>
        refine .handed hdecode hsnapshot hgeneration ⟨rfl, ?_⟩ haccepted
        rw [hdisposition]
        exact ⟨rfl, rfl⟩
      | duplicateIgnored =>
        refine .handed hdecode hsnapshot hgeneration ⟨rfl, ?_⟩ haccepted
        rw [hdisposition]
        exact ⟨rfl, rfl⟩
    unfold afterIngest
    dsimp only
    split_ifs
    · exact htreated
    · exact htreated

end Treated

/-! ## Where a client and its worker are -/

/-- The worker of a session is between two frames. -/
def Phase.Waits (session : Session) (phase : Phase) : Prop :=
  phase = .serving session ∨ phase = .reading session

/-- A worker that has nothing to read, or is gone; and what it sent besides its answers. -/
inductive Parked (id expected : UInt64) : Connection → ByteBuffer → Prop
  | waiting {session : Session} {phase : Phase} : phase.Waits session →
      session.id = id → session.expected = expected → Parked id expected ⟨[], phase⟩ []
  | gone {input late : ByteBuffer} : Barren late → Parked id expected ⟨input, .closed⟩ late

/-- Where a connection is while its client is in a state: what its worker has to read and how
far it is, what it has handed to the governor, and what the client has to read. -/
inductive Talk (caller : LinkCaller) :
    ClientState → Connection → List Handed → ByteBuffer → Prop
  | greeting : caller.sequence = 0 →
      Talk caller .greeting ⟨encodeFrame caller.hello [], .handshake⟩ [] []
  | heard {hello : FrameHeader} : caller.sequence = 0 →
      Talk caller .greeting ⟨[], .greeted hello⟩ [] []
  | accepted {session : Session} : session.expected = caller.sequence + 1 →
      Talk caller .greeting ⟨[], .accepted session⟩ [] []
  | welcomed {live : Governor} {id : UInt64} {ack : HelloAck} {connection : Connection}
      {late : ByteBuffer} : ack.code = .ok → ack.sessionId = id → Fits ack.detail →
      Parked id (caller.sequence + 1) connection late →
      Talk caller .greeting connection []
        (sentFrame live .helloAck id 0 (encodeHelloAck ack) ++ late)
  | ready {connection : Connection} {late : ByteBuffer} :
      Parked caller.session (caller.sequence + 1) connection late →
      Talk caller .ready connection [] late
  | asked {snapshot : EvidenceSnapshot} {session : Session} {phase : Phase} :
      (encodeEvidence snapshot).length < 2 ^ 32 → phase.Waits session →
      session.id = caller.session → session.expected = caller.sequence →
      Talk caller (.submitting snapshot) ⟨caller.submission snapshot, phase⟩ [] []
  | handling {snapshot : EvidenceSnapshot} {session : Session} {frame : InboundFrame}
      {stage : Stage} {recent : List Handed} : session.id = caller.session →
      session.expected = caller.sequence + 1 → stage.Handles snapshot recent →
      Talk caller (.submitting snapshot) ⟨[], .processing session frame stage⟩ recent []
  | answered {live : Governor} {snapshot : EvidenceSnapshot} {recent : List Handed}
      {ack : EvidenceAck} {session sequence : UInt64} {connection : Connection}
      {late : ByteBuffer} : Treated snapshot recent ack →
      Parked caller.session (caller.sequence + 1) connection late →
      Talk caller (.submitting snapshot) connection recent
        (sentFrame live .evidenceAck session sequence (encodeEvidenceAck ack) ++ late)
  | parting {session : Session} {phase : Phase} {input inbox : ByteBuffer} :
      phase.Waits session → (∀ maxPayload frame rest,
        readFrame maxPayload input = .ok (frame, rest) → frame.header.kind ≠ .evidence) →
      Talk caller .closed ⟨input, phase⟩ [] inbox
  | gone {state : ClientState} {input inbox : ByteBuffer} {recent : List Handed} :
      Barren inbox ∨ state = .closed → state.Allows recent →
      Talk caller state ⟨input, .closed⟩ recent inbox

section Worker

variable {options : LinkServerOptions} {world world' : LinkWorld}
  {connection connection' : Connection} {action : LinkAction} {live : Governor}
  {sent late inbox : ByteBuffer} {id expected : UInt64} {caller : LinkCaller}
  {state : ClientState} {recent : List Handed} {session : Session} {phase : Phase}

/-- What a worker sends where it does not ask whether it was sent. -/
lemma Sends.barren_of_none (h : Sends live phase action sent) (hfits : action.Fits)
    (hsent : action.sent = none) : Barren sent := by
  refine h.barren hfits ?_
  rw [hsent]
  simp

/-- A worker that is between two frames stays there, reads a frame, or is gone. -/
lemma Phase.Waits.step {input : ByteBuffer} (h : phase.Waits session)
    (hstep : WorkerStep options world ⟨input, phase⟩ action world' connection') :
    (action.sent = none ∧ action.Fits ∧ action.handed = []) ∧
      ((∃ phase', phase'.Waits session ∧ connection' = ⟨input, phase'⟩ ∧
          answer live phase action = none) ∨
        (∃ rest, connection' = ⟨rest, .closed⟩) ∨
        ∃ frame rest, readFrame options.maxPayload input = .ok (frame, rest) ∧
          admitFrame session world.governor.epoch frame.header = .ok .evidence ∧
          connection' = ⟨rest, .processing session.advance frame
            (.decoded (decodeEvidence frame.payload))⟩ ∧ answer live phase action = none) := by
  rcases h with rfl | rfl
  · cases hstep with
    | cutOff _ hphase => rcases hphase with h | ⟨_, h⟩ <;> cases h
    | unreadable hphase => rcases hphase with h | ⟨_, h⟩ <;> cases h
    | observeStop => exact ⟨⟨rfl, trivial, rfl⟩, .inr (.inl ⟨input, rfl⟩)⟩
    | «continue» =>
      exact ⟨⟨rfl, trivial, rfl⟩, .inl ⟨.reading session, .inr rfl, rfl, rfl⟩⟩
  · cases hstep with
    | cutOff => exact ⟨⟨rfl, trivial, rfl⟩, .inr (.inl ⟨input, rfl⟩)⟩
    | unreadable => exact ⟨⟨rfl, trivial, rfl⟩, .inr (.inl ⟨input, rfl⟩)⟩
    | refuse => exact ⟨⟨rfl, trivial, rfl⟩, .inr (.inl ⟨_, rfl⟩)⟩
    | goodbye => exact ⟨⟨rfl, trivial, rfl⟩, .inr (.inl ⟨_, rfl⟩)⟩
    | takeEvidence hread hadmit =>
      exact ⟨⟨rfl, trivial, rfl⟩, .inr (.inr ⟨_, _, hread, hadmit, rfl, rfl⟩)⟩

/-- Nothing is sent where there is no answer. -/
lemma Sends.eq_nil (h : Sends live phase action sent) (hanswer : answer live phase action = none) :
    sent = [] := by
  cases h with
  | whole h => cases hanswer.symm.trans h
  | part _ h => cases hanswer.symm.trans h
  | nothing => rfl

/-- An acknowledgement that was sent is there as a whole. -/
lemma Sends.delivered (h : Sends live phase action sent) {frame : ByteBuffer}
    (hsent : action.sent = some true) (hanswer : answer live phase action = some frame) :
    sent = frame := by
  cases h with
  | whole h => exact Option.some.inj (h.symm.trans hanswer)
  | part _ _ hpart => exact absurd hsent hpart
  | nothing h => cases h.symm.trans hanswer

lemma answer_welcomed (ack : HelloAck) (found : Bool) :
    answer live (.accepted session) (.welcomed ack found) =
      some (sentFrame live .helloAck session.id 0 (encodeHelloAck ack)) := rfl

lemma answer_acknowledged (frame : InboundFrame) (stage : Stage) (ack : EvidenceAck)
    (found : Bool) :
    answer live (.processing session frame stage) (.acknowledged frame ack found) =
      some (sentFrame live .evidenceAck session.id frame.header.sequence
        (encodeEvidenceAck ack)) := rfl

/-- A worker that is over does nothing more. -/
lemma WorkerStep.not_closed {input : ByteBuffer}
    (h : WorkerStep options world ⟨input, .closed⟩ action world' connection') : False := by
  cases h with
  | cutOff _ hphase => rcases hphase with h | ⟨_, h⟩ <;> cases h
  | unreadable hphase => rcases hphase with h | ⟨_, h⟩ <;> cases h

lemma Parked.step (h : Parked id expected connection late)
    (hstep : WorkerStep options world connection action world' connection')
    (hsends : Sends live connection.phase action sent) :
    Parked id expected connection' (late ++ sent) ∧ action.handed = [] := by
  cases h with
  | @waiting session phase hphase hid hexpected =>
    obtain ⟨⟨hsent, hfits, hhanded⟩, hnext⟩ := @Phase.Waits.step _ _ _ _ _ live _ _ _ hphase hstep
    refine ⟨?_, hhanded⟩
    rw [List.nil_append]
    rcases hnext with ⟨phase', hphase', rfl, hanswer⟩ | ⟨rest, rfl⟩ | ⟨frame, rest, hread, -⟩
    · rw [hsends.eq_nil hanswer]
      exact .waiting hphase' hid hexpected
    · exact .gone (hsends.barren_of_none hfits hsent)
    · exact absurd hread readFrame_nil
  | gone => exact hstep.not_closed.elim

/-- An action that hands over nothing and sends nothing. -/
lemma Talk.quietly (h : Talk caller state connection recent inbox) (hhanded : action.handed = [])
    (hsent : sent = []) :
    Talk caller state connection (recent ++ action.handed) (inbox ++ sent) := by
  rw [hhanded, hsent, List.append_nil, List.append_nil]
  exact h

/-- What a worker does keeps the conversation in step with its client. -/
lemma Talk.work (h : Talk caller state connection recent inbox)
    (hstep : WorkerStep options world connection action world' connection')
    (hsends : Sends live connection.phase action sent) :
    Talk caller state connection' (recent ++ action.handed) (inbox ++ sent) := by
  cases h with
  | greeting hsequence =>
    simp only [List.nil_append]
    generalize hinput : encodeFrame caller.hello [] = input at hstep
    cases hstep with
    | cutOff => exact .gone (.inl (hsends.barren_of_none trivial rfl)) (.inl rfl)
    | unreadable => exact .gone (.inl (hsends.barren_of_none trivial rfl)) (.inl rfl)
    | rejectHello => exact .gone (.inl (hsends.barren_of_none trivial rfl)) (.inl rfl)
    | greet hread =>
      -- the HELLO is all that there is to read
      rw [← hinput, ← List.append_nil (encodeFrame _ _)] at hread
      obtain ⟨-, -, rfl⟩ := (sendable_empty (.inl rfl)).readFrame hread
      rw [hsends.eq_nil rfl]
      exact .heard hsequence
  | heard hsequence =>
    simp only [List.nil_append]
    cases hstep with
    | cutOff _ hphase => rcases hphase with h | ⟨_, h⟩ <;> cases h
    | unreadable hphase => rcases hphase with h | ⟨_, h⟩ <;> cases h
    | turnAway => exact .gone (.inl (hsends.barren_of_none trivial rfl)) (.inl rfl)
    | openSession =>
      rw [hsends.eq_nil rfl]
      refine .accepted ?_
      rw [hsequence]
      rfl
  | @accepted session hexpected =>
    simp only [List.nil_append]
    cases hstep with
    | cutOff _ hphase => rcases hphase with h | ⟨_, h⟩ <;> cases h
    | unreadable hphase => rcases hphase with h | ⟨_, h⟩ <;> cases h
    | welcome found =>
      have hfits : Fits (welcome options world.governor session).detail := by
        show Fits "handshake accepted"
        decide
      cases found with
      | false => exact .gone (.inl (hsends.barren hfits (by simp [LinkAction.sent]))) (.inl rfl)
      | true =>
        rw [hsends.delivered rfl (answer_welcomed _ _), ← List.append_nil (sentFrame _ _ _ _ _)]
        exact .welcomed rfl rfl hfits (.waiting (.inl rfl) rfl hexpected)
  | welcomed hcode hid hfits hparked =>
    obtain ⟨hparked', hhanded⟩ := hparked.step hstep hsends
    rw [hhanded, List.append_nil, List.append_assoc]
    exact .welcomed hcode hid hfits hparked'
  | ready hparked =>
    obtain ⟨hparked', hhanded⟩ := hparked.step hstep hsends
    rw [hhanded, List.append_nil]
    exact .ready hparked'
  | @asked snapshot session phase hlength hphase hid hexpected =>
    obtain ⟨⟨hsent, hfits, hhanded⟩, hnext⟩ := @Phase.Waits.step _ _ _ _ _ live _ _ _ hphase hstep
    rw [hhanded, List.append_nil, List.nil_append]
    rcases hnext with ⟨phase', hphase', rfl, hanswer⟩ | ⟨rest, rfl⟩ |
      ⟨frame, rest, hread, hadmit, rfl, hanswer⟩
    · rw [hsends.eq_nil hanswer]
      exact .asked hlength hphase' hid hexpected
    · exact .gone (.inl (hsends.barren_of_none hfits hsent)) (.inl rfl)
    · -- what is taken is the frame that the client wrote
      have hsendable : Sendable (caller.evidence snapshot) (encodeEvidence snapshot) :=
        ⟨.inl rfl, hlength⟩
      rw [LinkCaller.submission, ← List.append_nil (encodeFrame _ _)] at hread
      obtain ⟨hfields, hpayload, rfl⟩ := hsendable.readFrame hread
      rw [hsends.eq_nil hanswer, hpayload]
      refine .handling hid ?_ ⟨rfl, rfl⟩
      rw [Session.advance, hexpected]
  | @handling snapshot session frame stage recent hid hexpected hhandles =>
    cases hstep with
    | cutOff _ hphase => rcases hphase with h | ⟨_, h⟩ <;> cases h
    | unreadable hphase => rcases hphase with h | ⟨_, h⟩ <;> cases h
    | readGeneration =>
      obtain ⟨hdecode, rfl⟩ := hhandles
      rw [hsends.eq_nil rfl]
      exact .handling hid hexpected (handles_afterDecode _ hdecode)
    | makeRequest =>
      exact Talk.quietly (.handling hid hexpected hhandles) rfl (hsends.eq_nil rfl)
    | @ingest _ _ _ evidence =>
      obtain ⟨hdecode, rfl, hsnapshot, hgeneration⟩ := hhandles
      have hbrief := ingestEvidence_failsBriefly world.governor evidence
      rw [hsends.eq_nil rfl]
      exact .handling hid hexpected (handles_afterIngest hbrief hdecode hsnapshot hgeneration)
    | evaluate =>
      refine Talk.quietly (.handling hid hexpected ?_) rfl (hsends.eq_nil rfl)
      unfold afterEvaluate
      split
      · exact hhandles
      · exact hhandles
    | commit => exact Talk.quietly (.handling hid hexpected hhandles) rfl (hsends.eq_nil rfl)
    | finish =>
      refine Talk.quietly (.handling hid hexpected ?_) rfl (hsends.eq_nil rfl)
      -- only the accounting generation is read again
      cases hhandles with
      | refused hdecode hcode hdetail => exact .refused hdecode hcode hdetail
      | handed hdecode hsnapshot hgeneration hreports hfits =>
        exact .handed hdecode hsnapshot hgeneration hreports hfits
    | @reply _ _ _ ack found =>
      have htreated : Treated snapshot recent ack := hhandles
      have hhanded : recent ++ LinkAction.handed (.acknowledged frame ack found) = recent :=
        List.append_nil recent
      rw [List.nil_append, hhanded]
      cases found with
      | false =>
        exact .gone (.inl (hsends.barren htreated.fits (by simp [LinkAction.sent]))) htreated.allows
      | true =>
        rw [hsends.delivered rfl (answer_acknowledged _ _ _ _),
          ← List.append_nil (sentFrame _ _ _ _ _)]
        exact .answered htreated (.waiting (.inl rfl) hid hexpected)
  | answered htreated hparked =>
    obtain ⟨hparked', hhanded⟩ := hparked.step hstep hsends
    rw [hhanded, List.append_nil, List.append_assoc]
    exact .answered htreated hparked'
  | parting hphase hinput =>
    obtain ⟨⟨hsent, hfits, hhanded⟩, hnext⟩ := @Phase.Waits.step _ _ _ _ _ live _ _ _ hphase hstep
    rw [hhanded, List.append_nil]
    rcases hnext with ⟨phase', hphase', rfl, -⟩ | ⟨rest, rfl⟩ | ⟨frame, rest, hread, hadmit, -⟩
    · exact .parting hphase' hinput
    · exact .gone (.inr rfl) (.inl rfl)
    · exact absurd (admitFrame_eq_evidence.mp hadmit).1 (hinput _ _ _ hread)
  | gone => exact hstep.not_closed.elim

end Worker

/-! ## What a client reads -/

section Client

variable {caller caller' : LinkCaller} {connection : Connection} {recent : List Handed}
  {inbox rest input written : ByteBuffer} {phase : Phase} {frame : InboundFrame}
  {snapshot : EvidenceSnapshot} {id expected : UInt64}

/-- A client that is greeted has the session that its worker has. -/
lemma Talk.handshake {ack : ReceivedHelloAck} (h : Talk caller .greeting connection recent inbox)
    (hread : readFrame kMaxFramePayloadBytes inbox = .ok (frame, rest))
    (hack : readHandshake frame = .ok ack) :
    recent = [] ∧ Parked ack.sessionId (caller.sequence + 1) connection rest := by
  cases h with
  | greeting => exact absurd hread readFrame_nil
  | heard => exact absurd hread readFrame_nil
  | accepted => exact absurd hread readFrame_nil
  | @welcomed live id sent _ late hcode hid hfits hparked =>
    obtain ⟨hfields, hpayload, rfl⟩ := (sendable_helloAck hfits).readFrame hread
    have hread := readHandshake_helloAck hfields.kind hpayload hfits hcode
    obtain rfl := Except.ok.inj (hack.symm.trans hread)
    subst hid
    exact ⟨rfl, hparked⟩
  | gone hbarren hallows =>
    rcases hbarren with hbarren | h
    · exact absurd hack ((hbarren frame rest hread).1 ack)
    · cases h

/-- What a client reads as the answer to a snapshot is the answer to it. -/
lemma Talk.acknowledgement {received : ReceivedEvidenceAck}
    (h : Talk caller (.submitting snapshot) connection recent inbox)
    (hread : readFrame kMaxFramePayloadBytes inbox = .ok (frame, rest))
    (hreceived : readSubmission frame = .ok received) :
    ∃ ack : EvidenceAck, received = ack.received ∧ Treated snapshot recent ack ∧
      Parked caller.session (caller.sequence + 1) connection rest := by
  cases h with
  | asked => exact absurd hread readFrame_nil
  | handling => exact absurd hread readFrame_nil
  | @answered _ _ _ ack _ _ _ late htreated hparked =>
    have hfits := htreated.fits
    obtain ⟨hfields, hpayload, rfl⟩ := (sendable_evidenceAck hfits).readFrame hread
    have hread := readSubmission_evidenceAck hfields.kind hpayload hfits
    exact ⟨ack, Except.ok.inj (hreceived.symm.trans hread), htreated, hparked⟩
  | gone hbarren hallows =>
    rcases hbarren with hbarren | h
    · exact absurd hreceived ((hbarren frame rest hread).2 received)
    · cases h

/-- Between two calls of the client its worker is parked. -/
lemma Talk.parked (h : Talk caller .ready connection recent inbox) :
    recent = [] ∧ Parked caller.session (caller.sequence + 1) connection inbox := by
  cases h with
  | ready hparked => exact ⟨rfl, hparked⟩
  | gone hbarren hallows =>
    constructor
    · rcases hallows with h | ⟨_, _, _, h, -⟩
      · exact h
      · cases h
    · rcases hbarren with h | h
      · exact .gone h
      · cases h

/-- A client that leaves asks for nothing more. -/
lemma Parked.leave (h : Parked id expected ⟨input, phase⟩ inbox)
    (hwritten : ∀ maxPayload frame rest,
      readFrame maxPayload written = .ok (frame, rest) → frame.header.kind ≠ .evidence) :
    Talk caller .closed ⟨input ++ written, phase⟩ [] inbox := by
  cases h with
  | waiting hphase =>
    rw [List.nil_append]
    exact .parting hphase hwritten
  | gone => exact .gone (.inr rfl) (.inl rfl)

/-- A client that asks waits for the answer to what it asked. -/
lemma Parked.ask (h : Parked caller.session (caller.sequence + 1) ⟨input, phase⟩ inbox)
    (hlength : (encodeEvidence snapshot).length < 2 ^ 32) :
    Talk caller.count (.submitting snapshot)
      ⟨input ++ caller.count.submission snapshot, phase⟩ [] inbox := by
  cases h with
  | waiting hphase hid hexpected =>
    rw [List.nil_append]
    exact .asked hlength hphase hid hexpected
  | gone hbarren => exact .gone (.inl hbarren) (.inl rfl)

/-- No evidence is read from a part of a frame, nor from a GOODBYE. -/
lemma goodbye_not_evidence (requestShutdown : Bool) (count : ℕ) (maxPayload : UInt32)
    (frame : InboundFrame) (rest : ByteBuffer)
    (hread : readFrame maxPayload ((encodeFrame (caller.goodbye requestShutdown) []).take count) =
      .ok (frame, rest)) : frame.header.kind ≠ .evidence := by
  have hsendable : Sendable (caller.goodbye requestShutdown) [] := by
    refine sendable_empty ?_
    cases requestShutdown with
    | false => exact .inl rfl
    | true => exact .inr rfl
  rcases Nat.lt_or_ge count (encodeFrame (caller.goodbye requestShutdown) []).length with hlt | hge
  · exact (hsendable.torn hlt hread).elim
  · rw [List.take_of_length_le hge, ← List.append_nil (encodeFrame _ _)] at hread
    obtain ⟨hfields, -, -⟩ := hsendable.readFrame hread
    rw [hfields.kind]
    simp [LinkCaller.goodbye]

end Client

/-! ## Clients of good standing -/

/-- What a call concludes. -/
def ClientAction.reply : ClientAction → List (EvidenceSnapshot × ReceivedEvidenceAck)
  | .submitted snapshot (.ok ack) => [(snapshot, ack)]
  | _ => []

/-- The conversation of a client whose calls succeeded, or which was not used since. -/
inductive InStep (client : LinkClient) (connection : Connection) (recent : List Handed) : Prop
  | orderly : client.standing = .orderly →
      Talk client.toLinkCaller client.state connection recent client.inbox →
      InStep client connection recent
  | dropped {last : ClientState} {inbox : ByteBuffer} : client.standing = .dropped last →
      client.state = .ready ∨ client.state = .closed →
      Talk client.toLinkCaller last connection recent inbox → InStep client connection recent

/-- What was handed to the governor for replies that a client was given. -/
inductive Accounted : List (EvidenceSnapshot × ReceivedEvidenceAck) → List Handed → Prop
  | nil : Accounted [] []
  | snoc {replies : List (EvidenceSnapshot × ReceivedEvidenceAck)} {handed recent : List Handed}
      {snapshot : EvidenceSnapshot} {ack : EvidenceAck} : Accounted replies handed →
      Treated snapshot recent ack →
      Accounted (replies ++ [(snapshot, ack.received)]) (handed ++ recent)

section Standing

variable {client client' : LinkClient} {connection connection' : Connection}
  {recent : List Handed} {input written : ByteBuffer} {phase : Phase} {action : ClientAction}

lemma Standing.call_orderly {length : ℕ} (h : length < 2 ^ 32) :
    Standing.orderly.call length = .orderly := if_pos h

lemma Standing.call_ne_wild {standing : Standing} {length : ℕ}
    (h : standing.call length ≠ .wild) :
    standing = .orderly ∧ length < 2 ^ 32 ∧ standing.call length = .orderly := by
  cases standing with
  | orderly =>
    unfold Standing.call at h ⊢
    dsimp only at h ⊢
    split_ifs at h ⊢ with hlength
    · exact ⟨rfl, hlength, rfl⟩
    · exact absurd rfl h
  | dropped => exact absurd rfl h
  | wild => exact absurd rfl h

lemma Standing.drop_ne_wild {standing : Standing} {last : ClientState}
    (h : standing.drop last ≠ .wild) : standing ≠ .wild := by
  rintro rfl
  exact h rfl

/-- A client that was used on after a failure is not trusted again. -/
lemma ClientStep.standing (hstep : ClientStep client action client' written)
    (h : client'.standing ≠ .wild) : client.standing ≠ .wild := by
  intro hwild
  apply h
  cases hstep with
  | @greeted frame rest => cases readHandshake frame <;> simp [LinkClient.greeted, hwild, Standing.drop]
  | @submitted frame rest snapshot =>
    cases readSubmission frame <;> simp [LinkClient.answered, hwild, Standing.drop]
  | submitClosed => exact hwild
  | _ => simp [LinkClient.greeted, LinkClient.answered, LinkClient.submitting, hwild, Standing.drop,
      Standing.call]

/-- A client that is in a call, and not used on after a failure, is orderly. -/
lemma InStep.talk (h : InStep client connection recent) {state : ClientState}
    (hstate : client.state = state) (hready : state ≠ .ready) (hclosed : state ≠ .closed) :
    client.standing = .orderly ∧
      Talk client.toLinkCaller state connection recent client.inbox := by
  cases h with
  | orderly hstanding htalk => exact ⟨hstanding, hstate ▸ htalk⟩
  | dropped _ hidle =>
    rcases hidle with h | h
    · exact absurd (hstate.symm.trans h) hready
    · exact absurd (hstate.symm.trans h) hclosed

/-- A call that fails leaves the client where it was. -/
lemma InStep.fail (h : InStep client connection recent) {state state' : ClientState}
    (hstate : client.state = state) (hready : state ≠ .ready) (hclosed : state ≠ .closed)
    (hstate' : state' = .ready ∨ state' = .closed) (inbox : ByteBuffer) :
    InStep { client with
      inbox := inbox, state := state', standing := client.standing.drop state }
      connection recent := by
  obtain ⟨hstanding, htalk⟩ := h.talk hstate hready hclosed
  refine .dropped ?_ hstate' htalk
  rw [hstanding]
  rfl

/-- A client that is between two calls and has been orderly. -/
lemma InStep.idle (h : InStep client connection recent) (hstate : client.state = .ready)
    (hstanding : client.standing = .orderly) :
    recent = [] ∧ Parked client.session (client.sequence + 1) connection client.inbox := by
  cases h with
  | orderly _ htalk =>
    rw [hstate] at htalk
    exact htalk.parked
  | dropped hdropped => cases hstanding.symm.trans hdropped

/-- A step of a client keeps it in step with its connection, and a reply settles what was handed
to the governor. -/
lemma InStep.call (h : client.standing ≠ .wild → InStep client connection recent)
    (hstep : ClientStep client action client' written) (hstanding : client'.standing ≠ .wild) :
    (action.reply = [] ∧
        InStep client' ⟨connection.input ++ written, connection.phase⟩ recent) ∨
      ∃ snapshot ack, action.reply = [(snapshot, EvidenceAck.received ack)] ∧
        Treated snapshot recent ack ∧
        InStep client' ⟨connection.input ++ written, connection.phase⟩ [] := by
  cases hstep with
  | @greeted frame rest hstate hread =>
    left
    refine ⟨rfl, ?_⟩
    rw [List.append_nil]
    cases hresult : readHandshake frame with
    | error e =>
      rw [hresult] at hstanding
      exact (h (Standing.drop_ne_wild hstanding)).fail hstate (by simp) (by simp) (.inr rfl) rest
    | ok ack =>
      rw [hresult] at hstanding
      obtain ⟨horderly, htalk⟩ := (h hstanding).talk hstate (by simp) (by simp)
      obtain ⟨rfl, hparked⟩ := htalk.handshake hread hresult
      exact .orderly horderly (.ready hparked)
  | unanswered reason count hstate =>
    left
    refine ⟨rfl, ?_⟩
    rw [List.append_nil]
    exact (h (Standing.drop_ne_wild hstanding)).fail hstate (by simp) (by simp) (.inr rfl) _
  | submit snapshot hstate =>
    left
    refine ⟨rfl, ?_⟩
    obtain ⟨horderly, hlength, hcall⟩ := Standing.call_ne_wild hstanding
    have hbefore : client.standing ≠ .wild := by rw [horderly]; simp
    obtain ⟨rfl, hparked⟩ := (h hbefore).idle hstate horderly
    exact .orderly hcall (hparked.ask hlength)
  | submitFailed snapshot reason count hstate hcount =>
    left
    refine ⟨rfl, ?_⟩
    obtain ⟨horderly, hlength, hcall⟩ := Standing.call_ne_wild (Standing.drop_ne_wild hstanding)
    have hbefore : client.standing ≠ .wild := by rw [horderly]; simp
    obtain ⟨rfl, hparked⟩ := (h hbefore).idle hstate horderly
    have hsendable : Sendable (client.count.evidence snapshot) (encodeEvidence snapshot) :=
      ⟨.inl rfl, hlength⟩
    refine .dropped (congrArg (Standing.drop .closed) hcall) (.inl rfl) (hparked.leave ?_)
    exact fun _ _ _ hread => (hsendable.torn hcount hread).elim
  | @submitted frame rest snapshot hstate hread =>
    rw [List.append_nil]
    cases hresult : readSubmission frame with
    | error e =>
      left
      refine ⟨rfl, ?_⟩
      rw [hresult] at hstanding
      exact (h (Standing.drop_ne_wild hstanding)).fail hstate (by simp) (by simp) (.inl rfl) rest
    | ok received =>
      right
      rw [hresult] at hstanding
      obtain ⟨horderly, htalk⟩ := (h hstanding).talk hstate (by simp) (by simp)
      obtain ⟨ack, rfl, htreated, hparked⟩ := htalk.acknowledgement hread hresult
      exact ⟨snapshot, ack, rfl, htreated, .orderly horderly (.ready hparked)⟩
  | unacknowledged reason count hstate =>
    left
    refine ⟨rfl, ?_⟩
    rw [List.append_nil]
    exact (h (Standing.drop_ne_wild hstanding)).fail hstate (by simp) (by simp) (.inl rfl) _
  | submitClosed snapshot hstate =>
    left
    rw [List.append_nil]
    exact ⟨rfl, h hstanding⟩
  | goodbye requestShutdown count hstate =>
    left
    refine ⟨rfl, ?_⟩
    obtain ⟨horderly, -, hcall⟩ := Standing.call_ne_wild (Standing.drop_ne_wild hstanding)
    have hbefore : client.standing ≠ .wild := by rw [horderly]; simp
    obtain ⟨rfl, hparked⟩ := (h hbefore).idle hstate horderly
    refine .dropped (congrArg (Standing.drop .closed) hcall) (.inl hstate) (hparked.leave ?_)
    exact goodbye_not_evidence requestShutdown count
  | close hstate =>
    left
    refine ⟨rfl, ?_⟩
    cases h (Standing.drop_ne_wild hstanding) with
    | orderly horderly htalk =>
      rw [hstate] at htalk
      obtain ⟨rfl, hparked⟩ := htalk.parked
      refine .dropped (congrArg (Standing.drop .closed) horderly) (.inr rfl) (hparked.leave ?_)
      exact fun _ _ _ hread => absurd hread readFrame_nil
    | dropped hdropped _ htalk =>
      rw [List.append_nil]
      exact .dropped (congrArg (Standing.drop .closed) hdropped) (.inr rfl) htalk

end Standing

end FairnessGovernor
