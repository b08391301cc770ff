/-
# The evidence link server

Each connection is served by a worker of its own, which reads frames from its socket and calls
one governor.  A step of a worker looks at the shared state once: it reads the epoch, a
generation or the stop flag, or it makes one call of the governor.  So the interleavings of the
steps are those of the workers.  What the socket does is left open: a read may fail at any time
and a reply may not get through.
-/
import FairnessGovernor.Governor.Step
import FairnessGovernor.Link.Frame

namespace FairnessGovernor

open Program Runs

/-! ## Acknowledgements -/

/-- Handshake acknowledgement. -/
structure HelloAck where
  code : StatusCode := .ok
  sessionId : UInt64 := 0
  epoch : FabricEpoch := {}
  maxPayload : UInt32 := kMaxFramePayloadBytes
  serverBoot : BootId := {}
  serverOrdinal : UInt64 := 0
  policyId : FairnessPolicyId := {}
  policyGeneration : FairnessPolicyGeneration := {}
  accountingGeneration : UInt64 := 0
  detail : String := ""
deriving DecidableEq, Inhabited

/-- Evidence acknowledgement; disposition 0 is staged, 1 is duplicate ignored. -/
structure EvidenceAck where
  code : StatusCode := .ok
  snapshot : EvidenceSnapshotId := {}
  generation : EvidenceSnapshotGeneration := {}
  accountingGeneration : UInt64 := 0
  disposition : UInt8 := 0
  detail : String := ""
deriving DecidableEq, Inhabited

/-! ## Reading a frame -/

structure InboundFrame where
  header : FrameHeader := {}
  payload : ByteBuffer := []
deriving DecidableEq, Inhabited

/-- `read_frame`, from all that the peer will have sent; the rest is left for the next frame. -/
def readFrame (maxPayload : UInt32) (input : ByteBuffer) :
    Except Status (InboundFrame × ByteBuffer) := do
  rejectIf (input.length = 0) .linkClosed "peer closed the link between frames"
  rejectIf (input.length < kFrameHeaderSize) .truncated
    "peer closed the link inside a frame header"
  let header ← decodeFrameHeader (input.take kFrameHeaderSize) maxPayload
  let rest := input.drop kFrameHeaderSize
  let length := header.payloadLength.toNat
  rejectIf (rest.length < length) .truncated "frame payload was truncated or stalled"
  verifyFramePayload header (rest.take length)
  return (⟨header, rest.take length⟩, rest.drop length)

/-! ## Decisions of a worker -/

/-- What a worker reads of the server's options. -/
structure LinkServerOptions where
  maxPayload : UInt32 := kMaxFramePayloadBytes
  evaluateOnIngest : Bool := false

/-- The session of an accepted HELLO.  The worker keeps the identity it issued and the sequence
it expects; `hello` says what the session was issued for, and nothing below reads it. -/
structure Session where
  hello : FrameHeader
  id : UInt64
  expected : UInt64
deriving DecidableEq, Inhabited

/-- The checks of the first frame, against the epoch that is live. -/
def checkHello (live : FabricEpoch) (header : FrameHeader) : Except Status Unit := do
  rejectIf (header.kind ≠ .hello) .handshakeRejected "expected a HELLO frame"
  rejectIf (¬ header.publisher.valid ∨ ¬ header.publisherBoot.valid ∨
    header.publisherOrdinal = 0) .handshakeRejected
    "publisher identity or incarnation is missing"
  rejectIf (header.epoch ≠ live) .staleEpoch "publisher epoch is not the live fabric epoch"

/-- The identity of the session that a HELLO is issued. -/
def sessionId (hello : FrameHeader) : UInt64 :=
  let session := (0xF00D0000 : UInt64) ^^^
    (hello.publisher.value * (0x9E3779B97F4A7C15 : UInt64)) ^^^ hello.sequence ^^^
    (hello.publisherBoot.value >>> 17)
  if session = 0 then 1 else session

/-- The session before its first frame. -/
def Session.issue (hello : FrameHeader) : Session :=
  { hello := hello, id := sessionId hello, expected := 1 }

/-- The acknowledgement of an accepted HELLO. -/
def welcome (options : LinkServerOptions) (g : Governor) (session : Session) : HelloAck :=
  { code := .ok
    sessionId := session.id
    epoch := g.epoch
    maxPayload := options.maxPayload
    serverBoot := g.incarnation.boot
    serverOrdinal := g.incarnation.ordinal
    policyId := g.policy.id
    policyGeneration := g.policy.generation
    accountingGeneration := g.accounting.generation
    detail := "handshake accepted" }

/-- What the frame loop does with a frame that it does not refuse. -/
inductive Admission
  | goodbye | evidence
deriving DecidableEq

/-- The checks of the frame loop, against the epoch that is live. -/
def admitFrame (session : Session) (live : FabricEpoch) (header : FrameHeader) :
    Except Status Admission := do
  rejectIf (header.sessionId ≠ session.id) .frameInvalid "frame session does not match"
  rejectIf (header.epoch ≠ live) .staleEpoch "frame epoch is not the live epoch"
  match header.kind with
  | .goodbye => return .goodbye
  | .evidence =>
    rejectIf (header.sequence < session.expected) .sequenceViolation
      "frame sequence went backwards"
    rejectIf (header.sequence > session.expected) .sequenceViolation "frame sequence skipped"
    return .evidence
  | _ => .error ⟨.frameInvalid, "unexpected frame kind"⟩

/-- `++expected` -/
def Session.advance (session : Session) : Session :=
  { session with expected := session.expected + 1 }

/-- `make_request_for`. -/
def makeRequestFor (g : Governor) (snapshot : EvidenceSnapshot) : EvaluationRequest :=
  { policyId := g.policy.id
    policyGeneration := g.policy.generation
    epoch := g.epoch
    evidenceId := snapshot.id
    evidenceGeneration := snapshot.generation
    window := snapshot.window
    windowGeneration := snapshot.windowGeneration
    nowNs := snapshot.capturedAtNs
    requestId := snapshot.sequence }

/-! ## Workers -/

/-- Where a worker is with an evidence frame. -/
inductive Stage
  | decoded (decode : Except Status EvidenceSnapshot)
  | requesting (snapshot : EvidenceSnapshot) (ack : EvidenceAck)
  | ingesting (snapshot : EvidenceSnapshot) (ack : EvidenceAck) (request : EvaluationRequest)
  | evaluating (ack : EvidenceAck) (request : EvaluationRequest)
  | committing (ack : EvidenceAck) (decision : FairnessDecision)
  | finishing (ack : EvidenceAck)
  | replying (ack : EvidenceAck)

/-- Where a worker is. -/
inductive Phase
  | handshake
  | greeted (hello : FrameHeader)
  | accepted (session : Session)
  | serving (session : Session)
  | reading (session : Session)
  | processing (session : Session) (frame : InboundFrame) (stage : Stage)
  | closed

/-- After the accounting generation was read for the acknowledgement. -/
def afterDecode (accountingGeneration : UInt64) : Except Status EvidenceSnapshot → Stage
  | .error e => .replying
      { accountingGeneration := accountingGeneration, code := e.code, detail := e.detail }
  | .ok snapshot => .requesting snapshot
      { snapshot := snapshot.id, generation := snapshot.generation
        accountingGeneration := accountingGeneration }

/-- After the snapshot was handed to the governor. -/
def afterIngest (options : LinkServerOptions) (ack : EvidenceAck) (request : EvaluationRequest) :
    Except Status IngestResult → Stage
  | .error e => .replying { ack with code := e.code, detail := e.detail }
  | .ok ingested =>
    let ack := match ingested.disposition with
      | .staged => { ack with code := .ok, disposition := 0, detail := "evidence accepted" }
      | .duplicateIgnored =>
        { ack with code := .duplicate, disposition := 1, detail := "evidence accepted" }
    if options.evaluateOnIngest ∧ ack.disposition = 0 then .evaluating ack request
    else .finishing ack

/-- After the evaluation: a decision is committed, a failure is not reported. -/
def afterEvaluate (ack : EvidenceAck) : Eval FairnessDecision → Stage
  | .ok decision => .committing ack decision
  | .error _ => .finishing ack

/-- What a worker does, with what it found. -/
inductive LinkAction
  | greeted (hello : FrameHeader) (live : FabricEpoch)
  | opened (hello : FrameHeader) (session : UInt64)
  | welcomed (ack : HelloAck) (sent : Bool)
  | evidence (frame : InboundFrame) (live : FabricEpoch)
  | ingest (frame : InboundFrame) (snapshot : EvidenceSnapshot)
      (result : Except Status IngestResult)
  | evaluate (frame : InboundFrame) (request : EvaluationRequest)
      (result : Eval FairnessDecision)
  | commit (frame : InboundFrame) (decision : FairnessDecision) (result : Except Status Unit)
  | acknowledged (frame : InboundFrame) (ack : EvidenceAck) (sent : Bool)
  | refused (reason : Status)
  | goodbye (frame : InboundFrame)
  | readFailed (reason : Status)
  | stopped
  | internal

/-- What the workers share. -/
structure LinkWorld where
  governor : Governor
  stop : Bool := false

/-- A connection: what its peer has still to be read, and its worker. -/
structure Connection where
  input : ByteBuffer
  phase : Phase

/-- One step of the worker of a connection. -/
inductive WorkerStep (options : LinkServerOptions) :
    LinkWorld → Connection → LinkAction → LinkWorld → Connection → Prop
  /-- The peer closed, the read timed out or the link is stopping. -/
  | cutOff {world : LinkWorld} {input : ByteBuffer} {phase : Phase} (reason : Status) :
      (phase = .handshake ∨ ∃ session, phase = .reading session) →
      WorkerStep options world ⟨input, phase⟩ (.readFailed reason) world ⟨input, .closed⟩
  | unreadable {world : LinkWorld} {input : ByteBuffer} {phase : Phase} {reason : Status} :
      (phase = .handshake ∨ ∃ session, phase = .reading session) →
      readFrame options.maxPayload input = .error reason →
      WorkerStep options world ⟨input, phase⟩ (.readFailed reason) world ⟨input, .closed⟩
  | rejectHello {world : LinkWorld} {input rest : ByteBuffer} {frame : InboundFrame}
      {reason : Status} :
      readFrame options.maxPayload input = .ok (frame, rest) →
      checkHello world.governor.epoch frame.header = .error reason →
      WorkerStep options world ⟨input, .handshake⟩ (.refused reason) world ⟨rest, .closed⟩
  | greet {world : LinkWorld} {input rest : ByteBuffer} {frame : InboundFrame} :
      readFrame options.maxPayload input = .ok (frame, rest) →
      checkHello world.governor.epoch frame.header = .ok () →
      WorkerStep options world ⟨input, .handshake⟩ (.greeted frame.header world.governor.epoch)
        world ⟨rest, .greeted frame.header⟩
  | turnAway {world : LinkWorld} {input : ByteBuffer} {hello : FrameHeader} :
      world.governor.stopping = true →
      WorkerStep options world ⟨input, .greeted hello⟩
        (.refused ⟨.shuttingDown, "governor is shutting down"⟩) world ⟨input, .closed⟩
  | openSession {world : LinkWorld} {input : ByteBuffer} {hello : FrameHeader} :
      world.governor.stopping = false →
      WorkerStep options world ⟨input, .greeted hello⟩ (.opened hello (sessionId hello)) world
        ⟨input, .accepted (Session.issue hello)⟩
  | welcome {world : LinkWorld} {input : ByteBuffer} {session : Session} (sent : Bool) :
      WorkerStep options world ⟨input, .accepted session⟩
        (.welcomed (welcome options world.governor session) sent) world
        ⟨input, if sent then .serving session else .closed⟩
  | observeStop {world : LinkWorld} {input : ByteBuffer} {session : Session} :
      world.stop = true →
      WorkerStep options world ⟨input, .serving session⟩ .stopped world ⟨input, .closed⟩
  | continue {world : LinkWorld} {input : ByteBuffer} {session : Session} :
      world.stop = false →
      WorkerStep options world ⟨input, .serving session⟩ .internal world
        ⟨input, .reading session⟩
  | refuse {world : LinkWorld} {input rest : ByteBuffer} {session : Session}
      {frame : InboundFrame} {reason : Status} :
      readFrame options.maxPayload input = .ok (frame, rest) →
      admitFrame session world.governor.epoch frame.header = .error reason →
      WorkerStep options world ⟨input, .reading session⟩ (.refused reason) world
        ⟨rest, .closed⟩
  | goodbye {world : LinkWorld} {input rest : ByteBuffer} {session : Session}
      {frame : InboundFrame} :
      readFrame options.maxPayload input = .ok (frame, rest) →
      admitFrame session world.governor.epoch frame.header = .ok .goodbye →
      WorkerStep options world ⟨input, .reading session⟩ (.goodbye frame)
        { world with
          stop := world.stop || frame.header.flags &&& kFrameFlagRequestShutdown != 0 }
        ⟨rest, .closed⟩
  | takeEvidence {world : LinkWorld} {input rest : ByteBuffer} {session : Session}
      {frame : InboundFrame} :
      readFrame options.maxPayload input = .ok (frame, rest) →
      admitFrame session world.governor.epoch frame.header = .ok .evidence →
      WorkerStep options world ⟨input, .reading session⟩
        (.evidence frame world.governor.epoch) world
        ⟨rest, .processing session.advance frame (.decoded (decodeEvidence frame.payload))⟩
  | readGeneration {world : LinkWorld} {input : ByteBuffer} {session : Session}
      {frame : InboundFrame} {decode : Except Status EvidenceSnapshot} :
      WorkerStep options world ⟨input, .processing session frame (.decoded decode)⟩ .internal
        world ⟨input, .processing session frame
          (afterDecode world.governor.accounting.generation decode)⟩
  | makeRequest {world : LinkWorld} {input : ByteBuffer} {session : Session}
      {frame : InboundFrame} {snapshot : EvidenceSnapshot} {ack : EvidenceAck} :
      WorkerStep options world ⟨input, .processing session frame (.requesting snapshot ack)⟩
        .internal world ⟨input, .processing session frame
          (.ingesting snapshot ack (makeRequestFor world.governor snapshot))⟩
  | ingest {world : LinkWorld} {input : ByteBuffer} {session : Session} {frame : InboundFrame}
      {snapshot : EvidenceSnapshot} {ack : EvidenceAck} {request : EvaluationRequest} :
      WorkerStep options world
        ⟨input, .processing session frame (.ingesting snapshot ack request)⟩
        (.ingest frame snapshot (world.governor.ingestEvidence snapshot).1)
        { world with governor := (world.governor.ingestEvidence snapshot).2 }
        ⟨input, .processing session frame (afterIngest options ack request
          (world.governor.ingestEvidence snapshot).1)⟩
  | evaluate {world : LinkWorld} {input : ByteBuffer} {session : Session}
      {frame : InboundFrame} {ack : EvidenceAck} {request : EvaluationRequest} :
      WorkerStep options world ⟨input, .processing session frame (.evaluating ack request)⟩
        (.evaluate frame request (world.governor.evaluate request)) world
        ⟨input, .processing session frame
          (afterEvaluate ack (world.governor.evaluate request))⟩
  | commit {world : LinkWorld} {input : ByteBuffer} {session : Session} {frame : InboundFrame}
      {ack : EvidenceAck} {decision : FairnessDecision} {result : Except Status Unit}
      {g : Governor} :
      Returns (world.governor.commit decision) (result, g) →
      WorkerStep options world ⟨input, .processing session frame (.committing ack decision)⟩
        (.commit frame decision result) { world with governor := g }
        ⟨input, .processing session frame (.finishing ack)⟩
  | finish {world : LinkWorld} {input : ByteBuffer} {session : Session} {frame : InboundFrame}
      {ack : EvidenceAck} :
      WorkerStep options world ⟨input, .processing session frame (.finishing ack)⟩ .internal
        world ⟨input, .processing session frame (.replying
          { ack with accountingGeneration := world.governor.accounting.generation })⟩
  | reply {world : LinkWorld} {input : ByteBuffer} {session : Session} {frame : InboundFrame}
      {ack : EvidenceAck} (sent : Bool) :
      WorkerStep options world ⟨input, .processing session frame (.replying ack)⟩
        (.acknowledged frame ack sent) world ⟨input, if sent then .serving session else .closed⟩

/-! ## The server -/

/-- The server: what its workers share, and its connections in the order they were accepted. -/
structure LinkServer where
  world : LinkWorld
  connections : List Connection := []

/-- What happens in a server. -/
inductive LinkEvent
  | accepted
  | stopRequested
  | client (event : Event)
  | worker (index : ℕ) (action : LinkAction)

/-- An event that is not of another client of the governor. -/
def LinkEvent.Own : LinkEvent → Prop
  | .client _ => False
  | _ => True

instance : DecidablePred LinkEvent.Own
  | .client _ => instDecidableFalse
  | .accepted | .stopRequested | .worker _ _ => instDecidableTrue

/-- One step of a server.  Its governor may have other clients; `input` is all that the peer of
a new connection will send. -/
inductive LinkStep (options : LinkServerOptions) : LinkServer → LinkEvent → LinkServer → Prop
  | accept {server : LinkServer} (input : ByteBuffer) :
      server.world.stop = false →
      LinkStep options server .accepted
        { server with connections := server.connections ++ [⟨input, .handshake⟩] }
  | requestStop {server : LinkServer} :
      LinkStep options server .stopRequested
        { server with world := { server.world with stop := true } }
  | client {server : LinkServer} {event : Event} {g : Governor} :
      Step server.world.governor event g →
      LinkStep options server (.client event)
        { server with world := { server.world with governor := g } }
  | worker {server : LinkServer} {index : ℕ} {action : LinkAction} {world : LinkWorld}
      {connection connection' : Connection} :
      server.connections[index]? = some connection →
      WorkerStep options server.world connection action world connection' →
      LinkStep options server (.worker index action)
        { world := world, connections := server.connections.set index connection' }

/-- `EvidenceLinkServer::start`, over a governor. -/
def LinkServer.start (g : Governor) : LinkServer := { world := { governor := g } }

end FairnessGovernor
