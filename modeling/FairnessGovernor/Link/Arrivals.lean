/-
# Peers that keep the protocol

A peer that greets with the live epoch is given a session, and its evidence frames are taken.
So the runs in which they are do exist, for every such peer.
-/
import FairnessGovernor.Link.FrameSpec
import FairnessGovernor.Link.Protocol

namespace FairnessGovernor

open Program Runs

/-! ## Frames that arrive -/

variable {header : FrameHeader} {payload rest : ByteBuffer} {maxPayload : UInt32}

/-- What is read first is the frame that was sent first. -/
lemma readFrame_encodeFrame
    (h : IsFrameOf (encodeFrame header payload) maxPayload header payload) :
    readFrame maxPayload (encodeFrame header payload ++ rest) =
      .ok (⟨header.sealed payload, payload⟩, rest) := by
  -- the frame is its header and then the payload, however much follows
  have hlayout := encodeFrame_eq header payload
  have hfront : (encodeFrame header payload).length = kFrameHeaderSize + payload.length := by
    rw [hlayout]
    simp [kChecksumCoverage, kFrameHeaderSize]
    omega
  have hdrop : (encodeFrame header payload).drop kFrameHeaderSize = payload := by
    rw [hlayout, ← List.append_assoc, ← List.append_assoc]
    exact List.drop_left' (by simp [kChecksumCoverage, kFrameHeaderSize])
  have hle : kFrameHeaderSize ≤ (encodeFrame header payload).length := by omega
  obtain ⟨header', hdecoded, hverified⟩ := bind_eq_ok.mp (decodeFrame_of_isFrameOf h)
  obtain ⟨_, hverified, hheader⟩ := bind_eq_ok.mp hverified
  obtain rfl := Except.ok.inj hheader
  have hlength : (header.sealed payload).payloadLength.toNat = payload.length :=
    toNat_payloadLength h.bound
  have htake : (encodeFrame header payload ++ rest).take kFrameHeaderSize =
      (encodeFrame header payload).take kFrameHeaderSize := List.take_append_of_le_length hle
  have hrest : (encodeFrame header payload ++ rest).drop kFrameHeaderSize = payload ++ rest := by
    rw [List.drop_append_of_le_length hle, hdrop]
  rw [hdrop] at hverified
  unfold readFrame
  rw [htake, hrest, hdecoded]
  simp only [ok_bind, rejectIf_bind_eq_ok, hlength, List.take_left, List.drop_left, hverified]
  refine ⟨?_, ?_, ?_, rfl⟩
  · rw [List.length_append, hfront, kFrameHeaderSize]
    omega
  · rw [List.length_append, hfront]
    omega
  · rw [List.length_append]
    omega

/-- A HELLO passes its checks when it may be accepted. -/
lemma checkHello_eq_ok {live : FabricEpoch} :
    checkHello live header = .ok () ↔ Greets header live := by
  simp only [checkHello, rejectIf_bind_eq_ok, rejectIf_eq_ok, not_not, not_or]
  constructor
  · rintro ⟨hkind, ⟨hpublisher, hboot, hordinal⟩, hepoch⟩
    exact ⟨hkind, hpublisher, hboot, hordinal, hepoch⟩
  · rintro ⟨hkind, hpublisher, hboot, hordinal, hepoch⟩
    exact ⟨hkind, ⟨hpublisher, hboot, hordinal⟩, hepoch⟩

/-- The evidence frames that the frame loop admits. -/
lemma admitFrame_eq_evidence {session : Session} {live : FabricEpoch} :
    admitFrame session live header = .ok .evidence ↔
      header.kind = .evidence ∧ header.sessionId = session.id ∧ header.epoch = live ∧
        header.sequence = session.expected := by
  simp only [admitFrame, rejectIf_bind_eq_ok, not_not]
  constructor
  · rintro ⟨hsession, hepoch, h⟩
    cases hkind : header.kind with
    | evidence =>
      rw [hkind] at h
      simp only [rejectIf_bind_eq_ok, UInt64.not_lt] at h
      obtain ⟨hlow, hhigh, -⟩ := h
      exact ⟨rfl, hsession, hepoch, UInt64.le_antisymm hhigh hlow⟩
    | _ => rw [hkind] at h; cases h
  · rintro ⟨hkind, hsession, hepoch, hsequence⟩
    refine ⟨hsession, hepoch, ?_⟩
    rw [hkind, hsequence]
    simp only [rejectIf_bind_eq_ok, UInt64.not_lt]
    exact ⟨UInt64.le_refl _, UInt64.le_refl _, rfl⟩

/-! ## Sessions that are opened -/

variable {options : LinkServerOptions} {hello : FrameHeader}

/-- A server with one more connection. -/
def LinkServer.joined (server : LinkServer) (input : ByteBuffer) (phase : Phase) : LinkServer :=
  { server with connections := server.connections ++ [⟨input, phase⟩] }

/-- A step of the worker of the last connection, which may call the governor. -/
lemma LinkServer.joined_call {server : LinkServer} {world : LinkWorld} {input input' : ByteBuffer}
    {phase phase' : Phase} {action : LinkAction}
    (h : WorkerStep options server.world ⟨input, phase⟩ action world ⟨input', phase'⟩) :
    LinkStep options (server.joined input phase) (.worker server.connections.length action)
      (LinkServer.joined { server with world := world } input' phase') := by
  have hconnection : (server.joined input phase).connections[server.connections.length]? =
      some ⟨input, phase⟩ := by
    simp [LinkServer.joined]
  have hstep := @LinkStep.worker options (server.joined input phase) _ _ _ _ _ hconnection h
  simpa [LinkServer.joined] using hstep

/-- A step that leaves the governor alone. -/
lemma LinkServer.joined_step {server : LinkServer} {input input' : ByteBuffer}
    {phase phase' : Phase} {action : LinkAction}
    (h : WorkerStep options server.world ⟨input, phase⟩ action server.world ⟨input', phase'⟩) :
    LinkStep options (server.joined input phase) (.worker server.connections.length action)
      (server.joined input' phase') := LinkServer.joined_call h

/-- How the session of a new peer is opened. -/
def opening (options : LinkServerOptions) (server : LinkServer) (hello : FrameHeader)
    (rest : ByteBuffer) : List (LinkServer × LinkEvent) :=
  let greeting := hello.sealed []
  let session := Session.issue greeting
  let index := server.connections.length
  [(server, .accepted),
    (server.joined (encodeFrame hello [] ++ rest) .handshake,
      .worker index (.greeted greeting server.world.governor.epoch)),
    (server.joined rest (.greeted greeting), .worker index (.opened greeting (sessionId greeting))),
    (server.joined rest (.accepted session),
      .worker index (.welcomed (welcome options server.world.governor session) true)),
    (server.joined rest (.serving session), .worker index .internal)]

/-- A peer that greets with the live epoch is given a session. -/
lemma opening_run {server : LinkServer} (hgreets : Greets hello server.world.governor.epoch)
    (hflags : AcceptedFlags hello.flags) (hstop : server.world.stop = false)
    (hstopping : server.world.governor.stopping = false) :
    Run (LinkStep options) server (opening options server hello rest)
      (server.joined rest (.reading (Session.issue (hello.sealed [])))) := by
  have hframe : IsFrameOf (encodeFrame hello []) options.maxPayload hello [] :=
    ⟨hflags, Nat.zero_le _, rfl⟩
  have hgreets' : Greets (hello.sealed []) server.world.governor.epoch :=
    ⟨hgreets.kind, hgreets.publisher, hgreets.boot, hgreets.ordinal, hgreets.epoch⟩
  refine .cons (.accept (encodeFrame hello [] ++ rest) hstop) ?_
  refine .cons (LinkServer.joined_step (.greet (readFrame_encodeFrame hframe)
    (checkHello_eq_ok.mpr hgreets'))) ?_
  refine .cons (LinkServer.joined_step (.openSession hstopping)) ?_
  refine .cons (LinkServer.joined_step (.welcome true)) ?_
  exact .cons (LinkServer.joined_step (.continue hstop)) .nil

/-- The next evidence frame of a session is taken. -/
lemma evidence_step {server : LinkServer} {session : Session}
    (hframe : IsFrameOf (encodeFrame header payload) options.maxPayload header payload)
    (hkind : header.kind = .evidence) (hsession : header.sessionId = session.id)
    (hepoch : header.epoch = server.world.governor.epoch)
    (hsequence : header.sequence = session.expected) :
    LinkStep options (server.joined (encodeFrame header payload ++ rest) (.reading session))
      (.worker server.connections.length
        (.evidence ⟨header.sealed payload, payload⟩ server.world.governor.epoch))
      (server.joined rest (.processing session.advance ⟨header.sealed payload, payload⟩
        (.decoded (decodeEvidence payload)))) :=
  LinkServer.joined_step (.takeEvidence (readFrame_encodeFrame hframe)
    (admitFrame_eq_evidence.mpr ⟨hkind, hsession, hepoch, hsequence⟩))

/-! ## Snapshots that are staged -/

section AfterIngest

variable {ack : EvidenceAck} {request : EvaluationRequest} {ingested : IngestResult}

/-- A newly staged snapshot is evaluated. -/
lemma afterIngest_staged (hoptions : options.evaluateOnIngest = true)
    (h : ingested.disposition = .staged) : afterIngest options ack request (.ok ingested) =
      .evaluating { ack with code := .ok, disposition := 0, detail := "evidence accepted" }
        request := by
  simp [afterIngest, h, hoptions]

lemma afterIngest_duplicate (h : ingested.disposition = .duplicateIgnored) :
    afterIngest options ack request (.ok ingested) =
      .finishing { ack with code := .duplicate, disposition := 1, detail := "evidence accepted" } := by
  simp [afterIngest, h]

end AfterIngest

/-- The frame of a snapshot. -/
def evidenceFrame (header : FrameHeader) (snapshot : EvidenceSnapshot) : InboundFrame :=
  ⟨header.sealed (encodeEvidence snapshot), encodeEvidence snapshot⟩

/-- The acknowledgement of a snapshot that is staged. -/
def stagedAck (g : Governor) (snapshot : EvidenceSnapshot) : EvidenceAck :=
  { snapshot := snapshot.id, generation := snapshot.generation
    accountingGeneration := g.accounting.generation, detail := "evidence accepted" }

/-- How the next snapshot of a session is staged. -/
def staging (server : LinkServer) (session : Session) (header : FrameHeader)
    (snapshot : EvidenceSnapshot) (result : IngestResult) : List (LinkServer × LinkEvent) :=
  let g := server.world.governor
  let frame := evidenceFrame header snapshot
  let ack := { stagedAck g snapshot with detail := "" }
  let at_ := fun stage => server.joined [] (.processing session.advance frame stage)
  let index := server.connections.length
  [(server.joined (encodeFrame header (encodeEvidence snapshot)) (.reading session),
      .worker index (.evidence frame g.epoch)),
    (at_ (.decoded (.ok snapshot)), .worker index .internal),
    (at_ (.requesting snapshot ack), .worker index .internal),
    (at_ (.ingesting snapshot ack (makeRequestFor g snapshot)),
      .worker index (.ingest frame snapshot (.ok result)))]

/-- The server when the snapshot is about to be evaluated. -/
def LinkServer.staged (server : LinkServer) (session : Session) (header : FrameHeader)
    (snapshot : EvidenceSnapshot) (g : Governor) : LinkServer :=
  LinkServer.joined { server with world := { server.world with governor := g } } []
    (.processing session.advance (evidenceFrame header snapshot)
      (.evaluating (stagedAck server.world.governor snapshot)
        (makeRequestFor server.world.governor snapshot)))

/-- A snapshot that the governor accepts is staged. -/
lemma staging_run {server : LinkServer} {session : Session} {snapshot : EvidenceSnapshot}
    {result : IngestResult} {g : Governor} (hoptions : options.evaluateOnIngest = true)
    (hframe : IsFrameOf (encodeFrame header (encodeEvidence snapshot)) options.maxPayload header
      (encodeEvidence snapshot))
    (hkind : header.kind = .evidence) (hsession : header.sessionId = session.id)
    (hepoch : header.epoch = server.world.governor.epoch)
    (hsequence : header.sequence = session.expected)
    (hdecode : decodeEvidence (encodeEvidence snapshot) = .ok snapshot)
    (hingest : server.world.governor.ingestEvidence snapshot = (.ok result, g))
    (hstaged : result.disposition = .staged) :
    Run (LinkStep options)
      (server.joined (encodeFrame header (encodeEvidence snapshot)) (.reading session))
      (staging server session header snapshot result)
      (server.staged session header snapshot g) := by
  have hevidence := @evidence_step header (encodeEvidence snapshot) [] options server session
    hframe hkind hsession hepoch hsequence
  rw [List.append_nil, hdecode] at hevidence
  refine .cons hevidence (.cons (LinkServer.joined_step .readGeneration)
    (.cons (LinkServer.joined_step .makeRequest) ?_))
  have hcall := @WorkerStep.ingest options server.world [] session.advance
    (evidenceFrame header snapshot) snapshot
    { stagedAck server.world.governor snapshot with detail := "" }
    (makeRequestFor server.world.governor snapshot)
  rw [hingest, afterIngest_staged hoptions hstaged] at hcall
  exact .cons (LinkServer.joined_call hcall) .nil

/-! ## A publisher -/

/-- A HELLO for the first epoch. -/
def sampleHello : FrameHeader :=
  { kind := .hello, epoch := ⟨1⟩, publisher := ⟨9⟩, publisherBoot := ⟨0xAA⟩
    publisherOrdinal := 2 }

/-- The session that it is given. -/
def sampleSession : Session := Session.issue (sampleHello.sealed [])

/-- An evidence frame of that session. -/
def sampleEvidence : FrameHeader :=
  { sampleHello with kind := .evidence, sessionId := sampleSession.id, sequence := 1 }

end FairnessGovernor
