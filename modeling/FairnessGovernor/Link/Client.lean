/-
# Publishers and the server

A client greets the server and then submits snapshots one at a time, each time waiting for the
answer.  The bytes it writes are those that the worker of its connection has to read, and what
the worker sends waits in the client's inbox.  A call of the client fails when its peer says so
or when it is given up; the client may be used on after that, so an answer that comes late is
read by the next call.
-/
import FairnessGovernor.Link.Messages

namespace FairnessGovernor

open Program Runs

/-! ## Calls of the client -/

/-- What a client reads of its options. -/
structure LinkClientOptions where
  port : UInt16
  epoch : FabricEpoch
  publisher : PublisherId
  publisherBoot : BootId := {}
  publisherOrdinal : UInt64 := 1
deriving DecidableEq

/-- The checks of `connect` before it connects, and what it fills in: `boot` is the identity
that it draws when none was given. -/
def LinkClientOptions.prepare (options : LinkClientOptions) (boot : BootId) :
    Except Status LinkClientOptions := do
  rejectIf (options.port = 0) .invalidArgument "a destination port is required"
  rejectIf (¬ options.epoch.valid ∨ ¬ options.publisher.valid) .invalidArgument
    "epoch and publisher identity are required"
  return { options with
    publisherBoot := if options.publisherBoot.valid then options.publisherBoot else boot
    publisherOrdinal := if options.publisherOrdinal = 0 then 1 else options.publisherOrdinal }

/-- What a client puts into its frames. -/
structure LinkCaller where
  options : LinkClientOptions
  session : UInt64 := 0
  sequence : UInt64 := 0

/-- Where a client is: in `connect`, between two calls, in `submit`, or closed. -/
inductive ClientState
  | greeting
  | ready
  | submitting (snapshot : EvidenceSnapshot)
  | closed

/-- How a client has been used so far: all its calls succeeded; one failed or it said goodbye,
and it was not used since (`last` is where it was then, and `closed` where nothing was asked);
or it was used on after that. -/
inductive Standing
  | orderly
  | dropped (last : ClientState)
  | wild

/-- A client, and what it was sent and has not read.  Nothing below reads `standing`. -/
structure LinkClient extends LinkCaller where
  inbox : ByteBuffer := []
  state : ClientState := .greeting
  standing : Standing := .orderly

/-- A failure of a call: one of the client's own, or a code and a text that the peer sent. -/
inductive ClientFailure
  | own (status : Status)
  | remote (code : UInt16) (detail : ByteBuffer)

namespace LinkCaller

variable (caller : LinkCaller)

/-- The HELLO of a client. -/
def hello : FrameHeader :=
  { kind := .hello
    epoch := caller.options.epoch
    publisher := caller.options.publisher
    publisherBoot := caller.options.publisherBoot
    publisherOrdinal := caller.options.publisherOrdinal
    sequence := 0 }

/-- The header of a submission. -/
def evidence (snapshot : EvidenceSnapshot) : FrameHeader :=
  { kind := .evidence
    sessionId := caller.session
    epoch := snapshot.epoch
    publisher := caller.options.publisher
    publisherBoot := caller.options.publisherBoot
    publisherOrdinal := caller.options.publisherOrdinal
    sequence := caller.sequence }

/-- The header of a GOODBYE. -/
def goodbye (requestShutdown : Bool) : FrameHeader :=
  { kind := .goodbye
    sessionId := caller.session
    epoch := caller.options.epoch
    publisher := caller.options.publisher
    publisherBoot := caller.options.publisherBoot
    publisherOrdinal := caller.options.publisherOrdinal
    flags := if requestShutdown then kFrameFlagRequestShutdown else kFrameFlagNone }

/-- `++sequence` -/
def count : LinkCaller := { caller with sequence := caller.sequence + 1 }

/-- The bytes of a submission, with the sequence that is already counted up. -/
def submission (snapshot : EvidenceSnapshot) : ByteBuffer :=
  encodeFrame (caller.evidence snapshot) (encodeEvidence snapshot)

end LinkCaller

/-- What `connect` makes of the answer to its HELLO. -/
def readHandshake (response : InboundFrame) : Except ClientFailure ReceivedHelloAck :=
  if response.header.kind ≠ .helloAck then
    .error (.own ⟨.handshakeRejected, "server did not answer the handshake"⟩)
  else match decodeHelloAck response.payload with
    | .error e => .error (.own e)
    | .ok ack =>
      if ack.accepted then .ok ack
      else .error (.remote ack.code
        (if ack.detail = [] then textBytes "handshake rejected" else ack.detail))

/-- What `submit` makes of the answer to its snapshot. -/
def readSubmission (response : InboundFrame) : Except ClientFailure ReceivedEvidenceAck :=
  if response.header.kind ≠ .evidenceAck then
    let unexpected : Status := ⟨.frameInvalid, "unexpected acknowledgement frame"⟩
    if response.header.kind = .error then
      match decodeError response.payload with
      | some (code, detail) => .error (.remote code detail)
      | none => .error (.own unexpected)
    else .error (.own unexpected)
  else match decodeEvidenceAck response.payload with
    | .error e => .error (.own e)
    | .ok ack => .ok ack

/-- The standing after a call that fails, or that is the last. -/
def Standing.drop (last : ClientState) : Standing → Standing
  | .orderly => .dropped last
  | other => other

/-- The standing when a call is made, with a payload of this length. -/
def Standing.call (length : ℕ) : Standing → Standing
  | .orderly => if length < 2 ^ 32 then .orderly else .wild
  | _ => .wild

namespace LinkClient

variable (client : LinkClient)

/-- After the answer to the HELLO was read.  A client that was not accepted is closed. -/
def greeted (rest : ByteBuffer) : Except ClientFailure ReceivedHelloAck → LinkClient
  | .ok ack => { client with inbox := rest, session := ack.sessionId, state := .ready }
  | .error _ => { client with
      inbox := rest, state := .closed, standing := client.standing.drop .greeting }

/-- A snapshot is being submitted. -/
def submitting (snapshot : EvidenceSnapshot) : LinkClient :=
  { client with
    toLinkCaller := client.toLinkCaller.count
    state := .submitting snapshot
    standing := client.standing.call (encodeEvidence snapshot).length }

/-- After the answer to a snapshot was read. -/
def answered (snapshot : EvidenceSnapshot) (rest : ByteBuffer) :
    Except ClientFailure ReceivedEvidenceAck → LinkClient
  | .ok _ => { client with inbox := rest, state := .ready }
  | .error _ => { client with
      inbox := rest, state := .ready, standing := client.standing.drop (.submitting snapshot) }

end LinkClient

/-- What a call of a client does. -/
inductive ClientAction
  | greeted (result : Except ClientFailure ReceivedHelloAck)
  | submitting (snapshot : EvidenceSnapshot)
  | submitted (snapshot : EvidenceSnapshot) (result : Except ClientFailure ReceivedEvidenceAck)
  | goodbye (requestShutdown : Bool)
  | closed

/-- One step of a client, and what it writes.  A write that fails may have sent a part, and a
read that is given up may have taken a part. -/
inductive ClientStep : LinkClient → ClientAction → LinkClient → ByteBuffer → Prop
  | greeted {client : LinkClient} {frame : InboundFrame} {rest : ByteBuffer} :
      client.state = .greeting →
      readFrame kMaxFramePayloadBytes client.inbox = .ok (frame, rest) →
      ClientStep client (.greeted (readHandshake frame))
        (client.greeted rest (readHandshake frame)) []
  | unanswered {client : LinkClient} (reason : Status) (count : ℕ) :
      client.state = .greeting →
      ClientStep client (.greeted (.error (.own reason)))
        (client.greeted (client.inbox.drop count) (.error (.own reason))) []
  | submit {client : LinkClient} (snapshot : EvidenceSnapshot) :
      client.state = .ready →
      ClientStep client (.submitting snapshot) (client.submitting snapshot)
        (client.toLinkCaller.count.submission snapshot)
  | submitFailed {client : LinkClient} (snapshot : EvidenceSnapshot) (reason : Status)
      (count : ℕ) :
      client.state = .ready →
      count < (client.toLinkCaller.count.submission snapshot).length →
      ClientStep client (.submitted snapshot (.error (.own reason)))
        { client.submitting snapshot with
          state := .ready
          standing := (client.submitting snapshot).standing.drop .closed }
        ((client.toLinkCaller.count.submission snapshot).take count)
  | submitted {client : LinkClient} {frame : InboundFrame} {rest : ByteBuffer}
      {snapshot : EvidenceSnapshot} :
      client.state = .submitting snapshot →
      readFrame kMaxFramePayloadBytes client.inbox = .ok (frame, rest) →
      ClientStep client (.submitted snapshot (readSubmission frame))
        (client.answered snapshot rest (readSubmission frame)) []
  | unacknowledged {client : LinkClient} {snapshot : EvidenceSnapshot} (reason : Status)
      (count : ℕ) :
      client.state = .submitting snapshot →
      ClientStep client (.submitted snapshot (.error (.own reason)))
        (client.answered snapshot (client.inbox.drop count) (.error (.own reason))) []
  | submitClosed {client : LinkClient} (snapshot : EvidenceSnapshot) :
      client.state = .closed →
      ClientStep client
        (.submitted snapshot (.error (.own ⟨.linkClosed, "the link is closed"⟩))) client []
  | goodbye {client : LinkClient} (requestShutdown : Bool) (count : ℕ) :
      client.state = .ready →
      ClientStep client (.goodbye requestShutdown)
        { client with standing := (client.standing.call 0).drop .closed }
        ((encodeFrame (client.goodbye requestShutdown) []).take count)
  | close {client : LinkClient} :
      client.state = .ready →
      ClientStep client .closed
        { client with state := .closed, standing := client.standing.drop .closed } []

/-! ## What a worker sends -/

/-- The header of what a worker sends, over the governor at the time of sending. -/
def sentHeader (live : Governor) (kind : FrameKind) (session sequence : UInt64) : FrameHeader :=
  { kind := kind
    flags := kFrameFlagNone
    sessionId := session
    epoch := live.epoch
    publisherBoot := live.incarnation.boot
    publisherOrdinal := live.incarnation.ordinal
    sequence := sequence }

/-- `send_frame`. -/
def sentFrame (live : Governor) (kind : FrameKind) (session sequence : UInt64)
    (payload : ByteBuffer) : ByteBuffer :=
  encodeFrame (sentHeader live kind session sequence) payload

/-- `send_error`. -/
def sentError (live : Governor) (session : UInt64) (reason : Status) : ByteBuffer :=
  sentFrame live .error session 0 (encodeError reason)

/-- The acknowledgement of a HELLO of another epoch. -/
def staleHello (g : Governor) : HelloAck :=
  { code := .staleEpoch
    epoch := g.epoch
    serverBoot := g.incarnation.boot
    serverOrdinal := g.incarnation.ordinal
    detail := "publisher epoch is not the live fabric epoch" }

/-- The frame with which a worker answers, if it does. -/
def answer (live : Governor) : Phase → LinkAction → Option ByteBuffer
  | .accepted session, .welcomed ack _ =>
    some (sentFrame live .helloAck session.id 0 (encodeHelloAck ack))
  | .processing session frame _, .acknowledged _ ack _ =>
    some (sentFrame live .evidenceAck session.id frame.header.sequence (encodeEvidenceAck ack))
  | .handshake, .refused reason =>
    if reason.code = .staleEpoch then
      some (sentFrame live .helloAck 0 0 (encodeHelloAck (staleHello live)))
    else some (sentError live 0 reason)
  | .greeted _, .refused reason => some (sentError live 0 reason)
  | .reading session, .refused reason | .reading session, .readFailed reason =>
    some (sentError live session.id reason)
  | .reading session, .goodbye frame =>
    if frame.header.flags &&& kFrameFlagRequestShutdown ≠ 0 then
      some (sentFrame live .goodbye session.id session.expected [])
    else none
  | _, _ => none

/-- Whether the worker found that its answer was sent; of most answers it does not ask. -/
def LinkAction.sent : LinkAction → Option Bool
  | .welcomed _ sent | .acknowledged _ _ sent => some sent
  | _ => none

/-- What reaches the client of a step of its worker: the answer, or a part of it.  What stands in
the header of an answer is read when it is sent. -/
inductive Sends (live : Governor) (phase : Phase) (action : LinkAction) : ByteBuffer → Prop
  | whole {bytes : ByteBuffer} : answer live phase action = some bytes →
      action.sent ≠ some false → Sends live phase action bytes
  | part {bytes : ByteBuffer} (count : ℕ) : answer live phase action = some bytes →
      action.sent ≠ some true → count < bytes.length → Sends live phase action (bytes.take count)
  | nothing : answer live phase action = none → Sends live phase action []

/-! ## The system -/

/-- A server and its clients: client `i` is the peer of connection `i`. -/
structure LinkSystem where
  server : LinkServer
  clients : List LinkClient := []

/-- What happens in the system. -/
inductive SystemEvent
  | server (event : LinkEvent)
  | worker (index : ℕ) (action : LinkAction)
  | connected (options : LinkClientOptions)
  | client (index : ℕ) (action : ClientAction)

/-- Bytes are appended to what a worker has to read. -/
def LinkServer.write (server : LinkServer) (index : ℕ) (written : ByteBuffer) : LinkServer :=
  { server with connections := server.connections.modify index fun connection =>
      { connection with input := connection.input ++ written } }

/-- Bytes are appended to what a client has to read. -/
def LinkSystem.send (system : LinkSystem) (index : ℕ) (sent : ByteBuffer) : LinkSystem :=
  { system with clients := system.clients.modify index fun client =>
      { client with inbox := client.inbox ++ sent } }

/-- A system with one more connection. -/
def LinkSystem.join (system : LinkSystem) (connection : Connection) (client : LinkClient) :
    LinkSystem :=
  { server := { system.server with connections := system.server.connections ++ [connection] }
    clients := system.clients ++ [client] }

/-- One step of the system. -/
inductive SystemStep (options : LinkServerOptions) : LinkSystem → SystemEvent → LinkSystem → Prop
  /-- Somebody asks the server to stop, or uses its governor. -/
  | server {system : LinkSystem} {event : LinkEvent} {server : LinkServer} :
      event = .stopRequested ∨ (∃ e, event = .client e) →
      LinkStep options system.server event server →
      SystemStep options system (.server event) { system with server := server }
  | worker {system : LinkSystem} {index : ℕ} {action : LinkAction} {server : LinkServer}
      {connection : Connection} {sent : ByteBuffer} (live : Governor) :
      system.server.connections[index]? = some connection →
      LinkStep options system.server (.worker index action) server →
      Sends live connection.phase action sent →
      SystemStep options system (.worker index action)
        (LinkSystem.send { system with server := server } index sent)
  /-- A client connects and greets, and the server takes the connection. -/
  | connected {system : LinkSystem} {given : LinkClientOptions} {boot : BootId}
      {caller : LinkCaller} :
      given.prepare boot = .ok caller.options → caller.session = 0 → caller.sequence = 0 →
      system.server.world.stop = false →
      SystemStep options system (.connected given)
        (system.join ⟨encodeFrame caller.hello [], .handshake⟩ { caller with })
  /-- It is turned away: the server has as many connections as it may, or is about to stop. -/
  | turnedAway {system : LinkSystem} {given : LinkClientOptions} {boot : BootId}
      {caller : LinkCaller} (live : Governor) (count : ℕ) :
      given.prepare boot = .ok caller.options → caller.session = 0 → caller.sequence = 0 →
      SystemStep options system (.connected given)
        (system.join ⟨[], .closed⟩
          { caller with
            inbox := (sentError live 0 ⟨.linkBusy, "connection budget is exhausted"⟩).take count })
  | client {system : LinkSystem} {index : ℕ} {action : ClientAction} {client client' : LinkClient}
      {written : ByteBuffer} :
      system.clients[index]? = some client →
      ClientStep client action client' written →
      SystemStep options system (.client index action)
        { server := system.server.write index written
          clients := system.clients.set index client' }

/-- A system whose server has no connections yet. -/
def LinkSystem.start (g : Governor) : LinkSystem := { server := LinkServer.start g }

end FairnessGovernor
