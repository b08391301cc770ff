/-
# Frames from a socket

The worker of a connection and the client read frames with the same two loops, one for the
header and one for the payload.  A receive may return any part of what was asked for, time out,
fail, or find the end of the stream, and before each receive the loops look at the stop flag.
However the bytes are cut into receives, the frame that is read is the one that `readFrame` takes
from all the bytes together; so the workers of the server may be modelled over bytes.
-/
import FairnessGovernor.Lib.Segments
import FairnessGovernor.Link.Arrivals

namespace FairnessGovernor

open Segments

/-! ## The two loops -/

/-- What a reader of a socket meets, receive by receive. -/
abbrev Received := List (Arrival UInt8)

/-- `++idle > idle_polls`, after that many idle polls in a row. -/
def idleSpent (idlePolls : UInt32) (idle : ℕ) : Bool := UInt32.ofNat idle > idlePolls

/-- How `read_frame` fails: its status, and whether it reports the link as closed. -/
structure ReadFailure where
  status : Status
  closed : Bool
deriving DecidableEq

/-- The loop over the header. -/
def receiveHeader (idlePolls : UInt32) (socket : Received) :
    Except ReadFailure (ByteBuffer × Received) :=
  let outcome := receive (idleSpent idlePolls) kFrameHeaderSize socket [] 0
  match outcome.ending with
  | .complete => .ok (outcome.items, outcome.rest)
  | .stopped => .error ⟨⟨.linkClosed, "link is stopping"⟩, true⟩
  | .closed =>
    if outcome.items.length = 0 then
      .error ⟨⟨.linkClosed, "peer closed the link between frames"⟩, true⟩
    else .error ⟨⟨.truncated, "peer closed the link inside a frame header"⟩, true⟩
  | .timeout => .error ⟨⟨.idleTimeout, "peer went idle inside a frame header"⟩, true⟩
  | .failed => .error ⟨⟨.transportError, "recv failed"⟩, true⟩

/-- `read_exact`, as `read_frame` calls it for a payload that is not empty. -/
def receivePayload (idlePolls : UInt32) (length : ℕ) (socket : Received) :
    Except ReadFailure (ByteBuffer × Received) :=
  if length = 0 then .ok ([], socket) else
  let outcome := receive (idleSpent idlePolls) length socket [] 0
  match outcome.ending with
  | .complete => .ok (outcome.items, outcome.rest)
  | .stopped | .closed =>
    .error ⟨⟨.truncated, "frame payload was truncated or stalled"⟩, true⟩
  | .timeout => .error ⟨⟨.idleTimeout, "frame payload was truncated or stalled"⟩, false⟩
  | .failed => .error ⟨⟨.truncated, "frame payload was truncated or stalled"⟩, false⟩

/-- `read_frame` over a socket. -/
def receiveFrame (maxPayload idlePolls : UInt32) (socket : Received) :
    Except ReadFailure (InboundFrame × Received) := do
  let (headerBytes, afterHeader) ← receiveHeader idlePolls socket
  let header ← (decodeFrameHeader headerBytes maxPayload).mapError (⟨·, false⟩)
  let (payload, rest) ← receivePayload idlePolls header.payloadLength.toNat afterHeader
  (verifyFramePayload header payload).mapError (⟨·, false⟩)
  return (⟨header, payload⟩, rest)

/-! ## Each loop takes the next bytes -/

variable {maxPayload idlePolls : UInt32} {socket rest : Received} {bytes : ByteBuffer}
  {frame : InboundFrame} {failure : ReadFailure}

/-- A socket on which nothing disturbs the loops: no failure, no order to stop, and never more
idle polls in a row than are tolerated. -/
def Undisturbed (idlePolls : UInt32) (socket : Received) : Prop :=
  Steady (idleSpent idlePolls) socket 0

lemma receiveHeader_ok (h : receiveHeader idlePolls socket = .ok (bytes, rest)) :
    bytes.length = kFrameHeaderSize ∧ content socket = bytes ++ content rest := by
  unfold receiveHeader at h
  generalize hread : receive (idleSpent idlePolls) kFrameHeaderSize socket [] 0 = outcome at h
  obtain ⟨ending, items, left⟩ := outcome
  cases ending with
  | complete =>
    obtain ⟨rfl, rfl⟩ := Prod.mk_inj.mp (Except.ok.inj h)
    obtain ⟨hlength, hcontent⟩ := receive_complete (Nat.zero_le _) hread
    exact ⟨hlength, hcontent.symm⟩
  | closed =>
    dsimp only at h
    split_ifs at h
  | _ => cases h

lemma receivePayload_ok {length : ℕ}
    (h : receivePayload idlePolls length socket = .ok (bytes, rest)) :
    bytes.length = length ∧ content socket = bytes ++ content rest := by
  unfold receivePayload at h
  split_ifs at h with hempty
  · obtain ⟨rfl, rfl⟩ := Prod.mk_inj.mp (Except.ok.inj h)
    exact ⟨hempty.symm, rfl⟩
  · generalize hread : receive (idleSpent idlePolls) length socket [] 0 = outcome at h
    obtain ⟨ending, items, left⟩ := outcome
    cases ending with
    | complete =>
      obtain ⟨rfl, rfl⟩ := Prod.mk_inj.mp (Except.ok.inj h)
      obtain ⟨hlength, hcontent⟩ := receive_complete (Nat.zero_le _) hread
      exact ⟨hlength, hcontent.symm⟩
    | _ => cases h

/-- The header of an undisturbed socket is there, or the stream ends before it does. -/
lemma receiveHeader_undisturbed (h : Undisturbed idlePolls socket) :
    (∃ bytes rest, receiveHeader idlePolls socket = .ok (bytes, rest) ∧
      Undisturbed idlePolls rest) ∨
    (content socket).length < kFrameHeaderSize ∧ receiveHeader idlePolls socket =
      .error ⟨if (content socket).length = 0
        then ⟨.linkClosed, "peer closed the link between frames"⟩
        else ⟨.truncated, "peer closed the link inside a frame header"⟩, true⟩ := by
  rcases Nat.lt_or_ge (content socket).length kFrameHeaderSize with hshort | henough
  · right
    refine ⟨hshort, ?_⟩
    unfold receiveHeader
    rw [@receive_steady_closed _ _ _ _ _ [] h (by simpa using hshort), List.nil_append]
    dsimp only
    split_ifs <;> rfl
  · left
    obtain ⟨out, rest, hread, hsteady⟩ := @receive_steady_complete _ _ kFrameHeaderSize
      _ _ [] h (Nat.zero_le _) (.inr rfl) (by simpa using henough)
    refine ⟨out, rest, ?_, hsteady⟩
    unfold receiveHeader
    rw [hread]

lemma receivePayload_undisturbed {length : ℕ} (h : Undisturbed idlePolls socket) :
    (∃ bytes rest, receivePayload idlePolls length socket = .ok (bytes, rest) ∧
      Undisturbed idlePolls rest) ∨
    (content socket).length < length ∧ receivePayload idlePolls length socket =
      .error ⟨⟨.truncated, "frame payload was truncated or stalled"⟩, true⟩ := by
  unfold receivePayload
  split_ifs with hempty
  · exact .inl ⟨[], socket, rfl, h⟩
  · rcases Nat.lt_or_ge (content socket).length length with hshort | henough
    · right
      refine ⟨hshort, ?_⟩
      rw [@receive_steady_closed _ _ _ _ _ [] h (by simpa using hshort)]
    · left
      obtain ⟨out, rest, hread, hsteady⟩ := @receive_steady_complete _ _ length _ _ []
        h (Nat.zero_le _) (.inr rfl) (by simpa using henough)
      refine ⟨out, rest, ?_, hsteady⟩
      rw [hread]

/-! ## A frame is read however it is cut -/

section Checks

variable {α : Type} {c : Prop} [Decidable c] {code : StatusCode} {detail : String}
  {f : Unit → Except Status α}

/-- A check that refuses ends the reader. -/
lemma rejectIf_bind_of (h : c) : rejectIf c code detail >>= f = .error ⟨code, detail⟩ := by
  rw [rejectIf, if_pos h]
  rfl

/-- A check that is passed leaves the rest to do. -/
lemma rejectIf_bind_of_not (h : ¬ c) : rejectIf c code detail >>= f = f () := by
  rw [rejectIf, if_neg h]
  rfl

end Checks

/-- A frame that the loops give is the one that stands first in the bytes. -/
lemma readFrame_of_receiveFrame (h : receiveFrame maxPayload idlePolls socket = .ok (frame, rest)) :
    readFrame maxPayload (content socket) = .ok (frame, content rest) := by
  obtain ⟨⟨headerBytes, afterHeader⟩, hheader, h⟩ := bind_eq_ok.mp h
  obtain ⟨header, hdecoded, h⟩ := bind_eq_ok.mp h
  obtain ⟨⟨payload, left⟩, hpayload, h⟩ := bind_eq_ok.mp h
  obtain ⟨_, hverified, h⟩ := bind_eq_ok.mp h
  cases h
  rw [mapError_eq_ok] at hdecoded hverified
  obtain ⟨hlength, hcontent⟩ := receiveHeader_ok hheader
  obtain ⟨hlength', hcontent'⟩ := receivePayload_ok hpayload
  have htake : (content socket).take kFrameHeaderSize = headerBytes := by
    rw [hcontent, List.take_left' hlength]
  have hdrop : (content socket).drop kFrameHeaderSize = payload ++ content rest := by
    rw [hcontent, List.drop_left' hlength, hcontent']
  have hpos : ¬ (content socket).length = 0 := by
    rw [hcontent, List.length_append, hlength, kFrameHeaderSize]
    omega
  unfold readFrame
  rw [htake, hdrop, hdecoded]
  simp only [ok_bind, rejectIf_bind_eq_ok, List.take_left' hlength', List.drop_left' hlength',
    hverified]
  refine ⟨hpos, ?_, ?_, rfl⟩
  · rw [hcontent, List.length_append, hlength]
    omega
  · rw [List.length_append, hlength']
    omega

/-- The two readers end alike: with the same frame and the same bytes left, or with the same
reason. -/
inductive Agrees (idlePolls : UInt32) :
    Except ReadFailure (InboundFrame × Received) → Except Status (InboundFrame × ByteBuffer) → Prop
  | ok {frame : InboundFrame} {rest : Received} : Undisturbed idlePolls rest →
      Agrees idlePolls (.ok (frame, rest)) (.ok (frame, content rest))
  | error {reason : Status} {closed : Bool} : Agrees idlePolls (.error ⟨reason, closed⟩) (.error reason)

/-- Where the bytes give a frame, the loops give it too. -/
lemma Agrees.of_ok {result : Except ReadFailure (InboundFrame × Received)} {left : ByteBuffer}
    (h : Agrees idlePolls result (.ok (frame, left))) :
    ∃ rest, result = .ok (frame, rest) ∧ content rest = left ∧ Undisturbed idlePolls rest := by
  generalize hread : (Except.ok (frame, left) : Except Status (InboundFrame × ByteBuffer)) = read at h
  cases h with
  | ok hrest =>
    obtain ⟨rfl, rfl⟩ := Prod.mk_inj.mp (Except.ok.inj hread)
    exact ⟨_, rfl, rfl, hrest⟩
  | error => cases hread

/-- Where the bytes give none, the loops fail for the same reason. -/
lemma Agrees.of_error {result : Except ReadFailure (InboundFrame × Received)} {reason : Status}
    (h : Agrees idlePolls result (.error reason)) : ∃ closed, result = .error ⟨reason, closed⟩ := by
  generalize hread : (Except.error reason : Except Status (InboundFrame × ByteBuffer)) = read at h
  cases h with
  | ok => cases hread
  | error =>
    obtain rfl := Except.error.inj hread
    exact ⟨_, rfl⟩

/-- Where nothing disturbs the loops, they end as the bytes say. -/
lemma receiveFrame_agrees (h : Undisturbed idlePolls socket) :
    Agrees idlePolls (receiveFrame maxPayload idlePolls socket)
      (readFrame maxPayload (content socket)) := by
  unfold receiveFrame readFrame
  rcases receiveHeader_undisturbed h with ⟨headerBytes, afterHeader, hheader, h'⟩ | ⟨hshort, hheader⟩
  · obtain ⟨hlength, hcontent⟩ := receiveHeader_ok hheader
    have hempty : ¬ (content socket).length = 0 := by
      rw [hcontent, List.length_append, hlength, kFrameHeaderSize]
      omega
    have hwhole : ¬ (content socket).length < kFrameHeaderSize := by
      rw [hcontent, List.length_append, hlength]
      omega
    rw [rejectIf_bind_of_not hempty, rejectIf_bind_of_not hwhole, hheader, hcontent,
      List.take_left' hlength, List.drop_left' hlength]
    simp only [ok_bind]
    cases hdecoded : decodeFrameHeader headerBytes maxPayload with
    | error reason => exact .error
    | ok header =>
      simp only [Except.mapError, ok_bind]
      rcases @receivePayload_undisturbed _ _ header.payloadLength.toNat h' with
        ⟨payload, rest, hpayload, hrest⟩ | ⟨hshort, hpayload⟩
      · obtain ⟨hlength', hcontent'⟩ := receivePayload_ok hpayload
        have hall : ¬ (content afterHeader).length < header.payloadLength.toNat := by
          rw [hcontent', List.length_append, hlength']
          omega
        rw [rejectIf_bind_of_not hall, hpayload, hcontent', List.take_left' hlength',
          List.drop_left' hlength']
        simp only [ok_bind]
        cases hverified : verifyFramePayload header payload with
        | error reason => exact .error
        | ok => exact .ok hrest
      · rw [rejectIf_bind_of hshort, hpayload]
        exact .error
  · rw [hheader]
    split_ifs with hempty
    · rw [rejectIf_bind_of hempty]
      exact .error
    · rw [rejectIf_bind_of_not hempty, rejectIf_bind_of hshort]
      exact .error

/-- A peer that sends one byte at a time, and pauses after each. -/
def trickle : ByteBuffer → Received
  | [] => []
  | byte :: bytes => .data byte [] :: .quiet :: trickle bytes

lemma content_trickle (bytes : ByteBuffer) : content (trickle bytes) = bytes := by
  induction bytes with
  | nil => rfl
  | cons byte bytes ih => rw [trickle, content_data, content_quiet, ih, List.singleton_append]

/-- One idle poll is tolerated unless none is. -/
lemma undisturbed_trickle (h : idleSpent idlePolls 1 = false) (bytes : ByteBuffer) :
    Undisturbed idlePolls (trickle bytes) := by
  induction bytes with
  | nil => trivial
  | cons byte bytes ih =>
    refine ⟨h, ?_⟩
    cases bytes with
    | nil => trivial
    | cons => exact ih

/-- The loops over a socket refine the reader over bytes: every frame they give is the frame that
stands first in the bytes, and unless they are disturbed they end as that reader does, however
the bytes are cut into receives. -/
theorem receiveFrame_refines (maxPayload idlePolls : UInt32) (socket : Received) :
    (∀ frame rest, receiveFrame maxPayload idlePolls socket = .ok (frame, rest) →
      readFrame maxPayload (content socket) = .ok (frame, content rest)) ∧
    (Undisturbed idlePolls socket → Agrees idlePolls (receiveFrame maxPayload idlePolls socket)
      (readFrame maxPayload (content socket))) :=
  ⟨fun _ _ => readFrame_of_receiveFrame, receiveFrame_agrees⟩

/-- A frame that trickles in is read. -/
theorem receiveFrame_refines_trickle :
    ∃ rest, receiveFrame 16 50 (trickle (encodeFrame sampleFrame [1, 2, 3])) =
      .ok (⟨sampleFrame.sealed [1, 2, 3], [1, 2, 3]⟩, rest) ∧ content rest = [] := by
  have hframe : IsFrameOf (encodeFrame sampleFrame [1, 2, 3]) 16 sampleFrame [1, 2, 3] :=
    ⟨.inl rfl, by decide, rfl⟩
  have hread := @readFrame_encodeFrame _ _ [] _ hframe
  have hagrees := (receiveFrame_refines 16 50 (trickle (encodeFrame sampleFrame [1, 2, 3]))).2
    (undisturbed_trickle (by decide) _)
  rw [content_trickle, ← List.append_nil (encodeFrame _ _), hread, List.append_nil] at hagrees
  obtain ⟨rest, hreceived, hrest, -⟩ := hagrees.of_ok
  exact ⟨rest, hreceived, hrest⟩

/-! ## Frames in a row -/

/-- The frames that are read one after the other, and what is left of the socket. -/
inductive Receives (maxPayload idlePolls : UInt32) :
    Received → List InboundFrame → Received → Prop
  | none {socket : Received} : Receives maxPayload idlePolls socket [] socket
  | next {socket middle rest : Received} {frame : InboundFrame} {frames : List InboundFrame} :
      receiveFrame maxPayload idlePolls socket = .ok (frame, middle) →
      Receives maxPayload idlePolls middle frames rest →
      Receives maxPayload idlePolls socket (frame :: frames) rest

/-- What a frame looks like on the wire. -/
def InboundFrame.wire (frame : InboundFrame) : ByteBuffer :=
  encodeFrame frame.header frame.payload

/-- What a sender's header and payload are read as. -/
def inbound (sent : FrameHeader × ByteBuffer) : InboundFrame := ⟨sent.1.sealed sent.2, sent.2⟩

/-- What follows the header of a frame is its payload. -/
lemma drop_encodeFrame (header : FrameHeader) (payload : ByteBuffer) :
    (encodeFrame header payload).drop kFrameHeaderSize = payload := by
  rw [encodeFrame_eq, ← List.append_assoc, ← List.append_assoc]
  exact List.drop_left' (by simp [kChecksumCoverage, kFrameHeaderSize])

/-- A frame that is read is the encoded frame that the bytes start with. -/
lemma readFrame_image {input left : ByteBuffer}
    (h : readFrame maxPayload input = .ok (frame, left)) :
    input = frame.wire ++ left ∧
      IsFrameOf frame.wire maxPayload frame.header frame.payload := by
  unfold readFrame at h
  obtain ⟨-, h⟩ := rejectIf_bind_eq_ok.mp h
  obtain ⟨hwhole, h⟩ := rejectIf_bind_eq_ok.mp h
  obtain ⟨header, hdecoded, h⟩ := bind_eq_ok.mp h
  obtain ⟨hall, h⟩ := rejectIf_bind_eq_ok.mp h
  obtain ⟨_, hverified, h⟩ := bind_eq_ok.mp h
  cases h
  rw [not_lt] at hwhole hall
  set length := header.payloadLength.toNat with hlength
  have hheader : (input.take kFrameHeaderSize).length = kFrameHeaderSize :=
    List.length_take_of_le hwhole
  -- the frame is what was taken for the header and then for the payload
  have hdecode : decodeFrame (input.take kFrameHeaderSize ++
      (input.drop kFrameHeaderSize).take length) maxPayload = .ok header := by
    unfold decodeFrame
    rw [List.take_left' hheader, List.drop_left' hheader, hdecoded]
    simp only [ok_bind, hverified]
    rfl
  obtain ⟨payload, hframe⟩ := isFrameOf_of_decodeFrame hdecode
  have hpayload : payload = (input.drop kFrameHeaderSize).take length := by
    rw [← drop_encodeFrame header payload, ← hframe.encoded, List.drop_left' hheader]
  subst hpayload
  refine ⟨?_, hframe.flags, hframe.bound, rfl⟩
  show input = encodeFrame header ((input.drop kFrameHeaderSize).take length) ++ _
  rw [← hframe.encoded, List.append_assoc, List.take_append_drop, List.take_append_drop]

/-- Frames that are read are the frames that were sent, byte for byte. -/
lemma Receives.content {frames : List InboundFrame}
    (h : Receives maxPayload idlePolls socket frames rest) :
    content socket = frames.flatMap InboundFrame.wire ++ content rest ∧
      ∀ frame ∈ frames, IsFrameOf frame.wire maxPayload frame.header frame.payload := by
  induction h with
  | none => simp
  | next hframe _ ih =>
    obtain ⟨hbytes, hisFrame⟩ := readFrame_image (readFrame_of_receiveFrame hframe)
    obtain ⟨hcontent, hframes⟩ := ih
    constructor
    · rw [hbytes, hcontent, List.flatMap_cons, List.append_assoc]
    · exact List.forall_mem_cons.mpr ⟨hisFrame, hframes⟩

/-- Frames that were sent are read, one after the other, unless the loops are disturbed. -/
lemma receives_of_undisturbed {sent : List (FrameHeader × ByteBuffer)} {later : ByteBuffer}
    (hsent : ∀ f ∈ sent, IsFrameOf (encodeFrame f.1 f.2) maxPayload f.1 f.2)
    (h : Undisturbed idlePolls socket)
    (hcontent : content socket = sent.flatMap (fun f => encodeFrame f.1 f.2) ++ later) :
    ∃ rest, Receives maxPayload idlePolls socket (sent.map inbound) rest ∧
      Undisturbed idlePolls rest ∧ content rest = later := by
  induction sent generalizing socket with
  | nil => exact ⟨socket, .none, h, hcontent⟩
  | cons f sent ih =>
    rw [List.flatMap_cons, List.append_assoc] at hcontent
    obtain ⟨hf, hsent⟩ := List.forall_mem_cons.mp hsent
    have hagrees := @receiveFrame_agrees maxPayload _ _ h
    rw [hcontent, readFrame_encodeFrame hf] at hagrees
    obtain ⟨middle, hread, hmiddle, hundisturbed⟩ := hagrees.of_ok
    obtain ⟨rest, hrest, hend⟩ := ih hsent hundisturbed hmiddle
    exact ⟨rest, .next hread hrest, hend⟩

/-- What a reader gets out of a socket is what was sent into it.  The frames that are read one
after the other are byte for byte what the stream starts with; and the frames of a sender are
all read, in order, and after them the end of the stream, whatever the cuts between receives and
however long the peer pauses within the idle budget. -/
theorem frames_received (maxPayload idlePolls : UInt32) (socket : Received) :
    (∀ frames rest, Receives maxPayload idlePolls socket frames rest →
      content socket = frames.flatMap InboundFrame.wire ++ content rest ∧
        ∀ frame ∈ frames, IsFrameOf frame.wire maxPayload frame.header frame.payload) ∧
    ∀ sent : List (FrameHeader × ByteBuffer),
      (∀ f ∈ sent, AcceptedFlags f.1.flags ∧ f.2.length ≤ maxPayload.toNat) →
      Undisturbed idlePolls socket →
      content socket = sent.flatMap (fun f => encodeFrame f.1 f.2) →
      ∃ rest, Receives maxPayload idlePolls socket (sent.map inbound) rest ∧
        receiveFrame maxPayload idlePolls rest =
          .error ⟨⟨.linkClosed, "peer closed the link between frames"⟩, true⟩ := by
  refine ⟨fun frames rest h => h.content, fun sent hsent h hcontent => ?_⟩
  obtain ⟨rest, hreceives, hrest, hend⟩ := receives_of_undisturbed
    (fun f hf => ⟨(hsent f hf).1, (hsent f hf).2, rfl⟩) h (hcontent.trans (List.append_nil _).symm)
  refine ⟨rest, hreceives, ?_⟩
  rcases receiveHeader_undisturbed hrest with ⟨headerBytes, left, hheader, -⟩ | ⟨-, hheader⟩
  · obtain ⟨hlength, hheaderBytes⟩ := receiveHeader_ok hheader
    rw [hend] at hheaderBytes
    have hnone := congrArg List.length hheaderBytes
    rw [List.length_append, hlength, kFrameHeaderSize, List.length_nil] at hnone
    omega
  · rw [hend] at hheader
    unfold receiveFrame
    rw [hheader]
    rfl

/-- Two frames that trickle in are read. -/
theorem frames_received_trickle :
    let sent := [(sampleFrame, [1, 2, 3]), ({ sampleFrame with sequence := 8 }, [])]
    ∃ rest, Receives 16 50 (trickle (sent.flatMap fun f => encodeFrame f.1 f.2))
      (sent.map inbound) rest := by
  intro sent
  obtain ⟨rest, hreceives, -⟩ := (frames_received 16 50 _).2 sent
    (List.forall_mem_cons.mpr ⟨⟨.inl rfl, by decide⟩,
      List.forall_mem_cons.mpr ⟨⟨.inl rfl, by decide⟩, List.forall_mem_nil _⟩⟩)
    (undisturbed_trickle (by decide) _) (content_trickle _)
  exact ⟨rest, hreceives⟩

end FairnessGovernor
