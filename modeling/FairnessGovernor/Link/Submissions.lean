/-
# What a publisher may conclude

The snapshots that were handed to the governor for a connection are those that its client was
given a reply for, one by one and in order, and each reply says what the governor said.  Where a
call fails, its snapshot was handed over once or not at all, and what came before it is settled.
-/
import FairnessGovernor.Link.Conversation
import FairnessGovernor.Link.Windows

namespace FairnessGovernor

open Program Runs

/-! ## Runs of the system -/

/-- What an event hands to the governor for a connection. -/
def SystemEvent.handed (c : ℕ) : SystemEvent → List Handed
  | .worker index action => if index = c then action.handed else []
  | _ => []

/-- What an event replies to the caller of a client. -/
def SystemEvent.reply (c : ℕ) : SystemEvent → List (EvidenceSnapshot × ReceivedEvidenceAck)
  | .client index action => if index = c then action.reply else []
  | _ => []

/-- What was handed to the governor for a connection in a run, in order. -/
def handedOn (c : ℕ) (trace : List (LinkSystem × SystemEvent)) : List Handed :=
  trace.flatMap fun step => step.2.handed c

/-- What the caller of a client was replied in a run, in order. -/
def repliesTo (c : ℕ) (trace : List (LinkSystem × SystemEvent)) :
    List (EvidenceSnapshot × ReceivedEvidenceAck) :=
  trace.flatMap fun step => step.2.reply c

section System

variable {options : LinkServerOptions} {system system' : LinkSystem} {event : SystemEvent}
  {trace : List (LinkSystem × SystemEvent)} {c : ℕ} {client : LinkClient}
  {connection : Connection}

lemma handedOn_append_list (more : List (LinkSystem × SystemEvent)) :
    handedOn c (trace ++ more) = handedOn c trace ++ handedOn c more := List.flatMap_append

lemma repliesTo_append_list (more : List (LinkSystem × SystemEvent)) :
    repliesTo c (trace ++ more) = repliesTo c trace ++ repliesTo c more := List.flatMap_append

lemma handedOn_append : handedOn c (trace ++ [(system, event)]) =
    handedOn c trace ++ event.handed c := by
  simp [handedOn]

lemma repliesTo_append : repliesTo c (trace ++ [(system, event)]) =
    repliesTo c trace ++ event.reply c := by
  simp [repliesTo]

lemma InStep.work {recent : List Handed} {world world' : LinkWorld} {connection' : Connection}
    {action : LinkAction} {live : Governor} {sent : ByteBuffer}
    (h : InStep client connection recent)
    (hstep : WorkerStep options world connection action world' connection')
    (hsends : Sends live connection.phase action sent) :
    InStep { client with inbox := client.inbox ++ sent } connection'
      (recent ++ action.handed) := by
  cases h with
  | orderly hstanding htalk => exact .orderly hstanding (htalk.work hstep hsends)
  | dropped hstanding hidle htalk => exact .dropped hstanding hidle (htalk.work hstep hsends)

/-- What a step makes of a client and its connection: they are as they were, or new, or one of
them stepped. -/
inductive Met (options : LinkServerOptions) (system : LinkSystem) (event : SystemEvent) (c : ℕ)
    (client : LinkClient) (connection : Connection) : Prop
  | kept : event.handed c = [] → event.reply c = [] → system.clients[c]? = some client →
      system.server.connections[c]? = some connection →
      Met options system event c client connection
  | joined : event.handed c = [] → event.reply c = [] → system.clients[c]? = none →
      InStep client connection [] → Met options system event c client connection
  | worked {action : LinkAction} {before : LinkClient} {old : Connection} {sent : ByteBuffer}
      {world world' : LinkWorld} {live : Governor} : event.handed c = action.handed →
      event.reply c = [] → system.clients[c]? = some before →
      system.server.connections[c]? = some old →
      WorkerStep options world old action world' connection → Sends live old.phase action sent →
      client = { before with inbox := before.inbox ++ sent } →
      Met options system event c client connection
  | called {action : ClientAction} {before : LinkClient} {old : Connection}
      {written : ByteBuffer} : event.handed c = [] → event.reply c = action.reply →
      system.clients[c]? = some before → system.server.connections[c]? = some old →
      ClientStep before action client written →
      connection = ⟨old.input ++ written, old.phase⟩ →
      Met options system event c client connection

/-- There is a client for every connection. -/
def LinkSystem.Paired (system : LinkSystem) : Prop :=
  system.clients.length = system.server.connections.length

lemma SystemStep.paired (h : system.Paired) (hstep : SystemStep options system event system') :
    system'.Paired := by
  unfold LinkSystem.Paired at h ⊢
  cases hstep with
  | server hevent hserver =>
    rcases hevent with rfl | ⟨e, rfl⟩
    · cases hserver
      exact h
    · cases hserver
      exact h
  | worker live hconnection hserver hsends =>
    cases hserver
    simpa [LinkSystem.send] using h
  | connected => simpa [LinkSystem.join] using h
  | turnedAway => simpa [LinkSystem.join] using h
  | client => simpa [LinkServer.write] using h

/-- A new connection is the last one. -/
lemma met_join {client' : LinkClient} {connection' : Connection} (hpaired : system.Paired)
    (hhanded : event.handed c = []) (hreply : event.reply c = [])
    (hnew : InStep client' connection' [])
    (hclient : (system.join connection' client').clients[c]? = some client)
    (hconnection : (system.join connection' client').server.connections[c]? = some connection) :
    Met options system event c client connection := by
  simp only [LinkSystem.join] at hclient hconnection
  rcases Nat.lt_or_ge c system.clients.length with hlt | hge
  · rw [List.getElem?_append_left hlt] at hclient
    rw [List.getElem?_append_left (hpaired ▸ hlt)] at hconnection
    exact .kept hhanded hreply hclient hconnection
  · rw [List.getElem?_append_right hge, List.getElem?_singleton] at hclient
    rw [List.getElem?_append_right (hpaired ▸ hge), List.getElem?_singleton] at hconnection
    split_ifs at hclient hconnection
    obtain rfl := Option.some.inj hclient
    obtain rfl := Option.some.inj hconnection
    exact .joined hhanded hreply (List.getElem?_eq_none hge) hnew

/-- A client that is turned away has nothing to conclude. -/
lemma inStep_turnedAway (caller : LinkCaller) (live : Governor) (reason : Status) (count : ℕ) :
    InStep { caller with inbox := (sentError live 0 reason).take count } ⟨[], .closed⟩ [] := by
  refine .orderly rfl (.gone (.inl ?_) (.inl rfl))
  show Barren ((sentError live 0 reason).take count)
  rcases Nat.lt_or_ge count (sentError live 0 reason).length with hlt | hge
  · exact (sendable_error reason).barren_take hlt
  · rw [List.take_of_length_le hge]
    exact barren_sentError reason

lemma SystemStep.met (hpaired : system.Paired) (hstep : SystemStep options system event system')
    (hclient : system'.clients[c]? = some client)
    (hconnection : system'.server.connections[c]? = some connection) :
    Met options system event c client connection := by
  cases hstep with
  | server hevent hserver =>
    have hsame : system.server.connections[c]? = some connection := by
      rcases hevent with rfl | ⟨e, rfl⟩
      · cases hserver
        exact hconnection
      · cases hserver
        exact hconnection
    exact .kept rfl rfl hclient hsame
  | @worker index action server old sent live hold hserver hsends =>
    cases hserver with
    | @worker _ _ world before after hbefore hworker =>
      obtain rfl := Option.some.inj (hold.symm.trans hbefore)
      have hlt : index < system.server.connections.length :=
        (List.getElem?_eq_some_iff.mp hold).1
      simp only [LinkSystem.send, List.getElem?_modify, List.getElem?_set] at hclient hconnection
      split_ifs at hclient hconnection with hindex
      · subst hindex
        obtain ⟨before, hc, rfl⟩ := Option.map_eq_some_iff.mp hclient
        obtain rfl := Option.some.inj hconnection
        exact .worked (if_pos rfl) rfl hc hold hworker hsends rfl
      · have hc : system.clients[c]? = some client := by simpa [hindex] using hclient
        exact .kept (if_neg hindex) rfl hc hconnection
  | connected _ _ hsequence _ =>
    exact met_join hpaired rfl rfl (.orderly rfl (.greeting hsequence)) hclient hconnection
  | turnedAway live count =>
    exact met_join hpaired rfl rfl (inStep_turnedAway _ live _ count) hclient hconnection
  | @client index action before after written hbefore hcall =>
    have hlt : index < system.clients.length := (List.getElem?_eq_some_iff.mp hbefore).1
    simp only [LinkServer.write, List.getElem?_modify, List.getElem?_set] at hclient hconnection
    split_ifs at hclient with hindex
    · subst hindex
      obtain rfl := Option.some.inj hclient
      obtain ⟨old, hold, rfl⟩ := Option.map_eq_some_iff.mp hconnection
      exact .called rfl (if_pos rfl) hbefore hold hcall (by simp)
    · have hsame : system.server.connections[c]? = some connection := by
        simpa [hindex] using hconnection
      exact .kept rfl (if_neg hindex) hclient hsame

/-- What is not there after a step was not there before, and did nothing. -/
lemma SystemStep.absent (hpaired : system.Paired)
    (hstep : SystemStep options system event system') (hc : system'.clients[c]? = none) :
    system.clients[c]? = none ∧ event.handed c = [] ∧ event.reply c = [] := by
  cases hstep with
  | server => exact ⟨hc, rfl, rfl⟩
  | worker live hold hserver hsends =>
    have hlt := (List.getElem?_eq_some_iff.mp hold).1
    rw [← hpaired] at hlt
    simp only [LinkSystem.send, List.getElem?_eq_none_iff, List.length_modify] at hc
    exact ⟨List.getElem?_eq_none hc, if_neg (by omega), rfl⟩
  | connected =>
    simp only [LinkSystem.join, List.getElem?_eq_none_iff, List.length_append] at hc
    exact ⟨List.getElem?_eq_none (by omega), rfl, rfl⟩
  | turnedAway =>
    simp only [LinkSystem.join, List.getElem?_eq_none_iff, List.length_append] at hc
    exact ⟨List.getElem?_eq_none (by omega), rfl, rfl⟩
  | client hbefore =>
    have hlt := (List.getElem?_eq_some_iff.mp hbefore).1
    simp only [List.getElem?_eq_none_iff, List.length_set] at hc
    exact ⟨List.getElem?_eq_none hc, rfl, if_neg (by omega)⟩

/-- What the run so far says of a client and its connection. -/
structure Witnessed (trace : List (LinkSystem × SystemEvent)) (system : LinkSystem) (c : ℕ) :
    Prop where
  account : ∀ client ∈ system.clients[c]?, ∀ connection ∈ system.server.connections[c]?,
    client.standing ≠ .wild → ∃ handed recent, handedOn c trace = handed ++ recent ∧
      Accounted (repliesTo c trace) handed ∧ InStep client connection recent
  absent : system.clients[c]? = none → handedOn c trace = [] ∧ repliesTo c trace = []

lemma Witnessed.step (h : Witnessed trace system c) (hpaired : system.Paired)
    (hstep : SystemStep options system event system') :
    Witnessed (trace ++ [(system, event)]) system' c := by
  constructor
  · intro client hclient connection hconnection hstanding
    rw [handedOn_append, repliesTo_append]
    cases hstep.met hpaired hclient hconnection with
    | kept hhanded hreply hbefore hold =>
      rw [hhanded, hreply, List.append_nil, List.append_nil]
      exact h.account client hbefore connection hold hstanding
    | joined hhanded hreply hnone hnew =>
      obtain ⟨hnothing, hsilent⟩ := h.absent hnone
      rw [hhanded, hreply, hnothing, hsilent]
      exact ⟨[], [], rfl, .nil, hnew⟩
    | worked hhanded hreply hbefore hold hworker hsends hclient' =>
      subst hclient'
      obtain ⟨handed, recent, htrace, haccounted, hinStep⟩ :=
        h.account _ hbefore _ hold hstanding
      rw [hhanded, hreply, List.append_nil, htrace, List.append_assoc]
      exact ⟨handed, _, rfl, haccounted, hinStep.work hworker hsends⟩
    | @called action before old written hhanded hreply hbefore hold hcall hconnection' =>
      subst hconnection'
      by_cases hwild : before.standing = .wild
      · exact absurd hwild (hcall.standing hstanding)
      · obtain ⟨handed, recent, htrace, haccounted, hinStep⟩ :=
          h.account _ hbefore _ hold hwild
        rw [hhanded, List.append_nil, htrace]
        rcases InStep.call (fun _ => hinStep) hcall hstanding with
          ⟨hquiet, hinStep'⟩ | ⟨snapshot, ack, hsaid, htreated, hinStep'⟩
        · rw [hreply, hquiet, List.append_nil]
          exact ⟨handed, recent, rfl, haccounted, hinStep'⟩
        · -- the reply settles what was handed over for its snapshot
          rw [hreply, hsaid]
          exact ⟨handed ++ recent, [], (List.append_nil _).symm, haccounted.snoc htreated,
            hinStep'⟩
  · intro hnone
    obtain ⟨hbefore, hhanded, hreply⟩ := hstep.absent hpaired hnone
    obtain ⟨hnothing, hsilent⟩ := h.absent hbefore
    rw [handedOn_append, repliesTo_append, hhanded, hreply, hnothing, hsilent]
    exact ⟨rfl, rfl⟩

/-- Where a client was when it was last asked for something. -/
def LinkClient.last (client : LinkClient) : ClientState :=
  match client.standing with
  | .dropped last => last
  | _ => client.state

lemma Talk.allows {caller : LinkCaller} {state : ClientState} {recent : List Handed}
    {inbox : ByteBuffer} (h : Talk caller state connection recent inbox) : state.Allows recent := by
  cases h with
  | handling _ _ hhandles => exact hhandles.allows
  | answered htreated => exact htreated.allows
  | gone _ hallows => exact hallows
  | _ => exact .inl rfl

lemma InStep.allows {recent : List Handed} (h : InStep client connection recent) :
    client.last.Allows recent := by
  unfold LinkClient.last
  cases h with
  | orderly hstanding htalk =>
    rw [hstanding]
    exact htalk.allows
  | dropped hstanding _ htalk =>
    rw [hstanding]
    exact htalk.allows

end System

/-! ## One exchange -/

section Exchange

variable {options : LinkServerOptions} {g staged live : Governor} {caller : LinkCaller}
  {client client' : LinkClient} {input input' sent written : ByteBuffer} {phase phase' : Phase}
  {action : LinkAction} {snapshot : EvidenceSnapshot}

/-- A system with one connection. -/
def LinkSystem.alone (g : Governor) (input : ByteBuffer) (phase : Phase) (client : LinkClient) :
    LinkSystem := { server := ⟨{ governor := g }, [⟨input, phase⟩]⟩, clients := [client] }

lemma alone_work (hinbox : client.inbox = [])
    (h : WorkerStep options { governor := g } ⟨input, phase⟩ action
      { governor := staged } ⟨input', phase'⟩) (hsends : Sends g phase action sent) :
    SystemStep options (.alone g input phase client) (.worker 0 action)
      (.alone staged input' phase' { client with inbox := sent }) := by
  have hstep := @SystemStep.worker options (.alone g input phase client) 0 action _
    ⟨input, phase⟩ sent g rfl (.worker rfl h) hsends
  simp only [LinkSystem.send, LinkSystem.alone, List.modify_zero_cons, hinbox,
    List.nil_append] at hstep
  exact hstep

/-- A step of the worker that sends nothing. -/
lemma alone_quiet (h : WorkerStep options { governor := g } ⟨input, phase⟩ action
      { governor := staged } ⟨input', phase'⟩) (hanswer : answer g phase action = none) :
    SystemStep options (.alone g input phase client) (.worker 0 action)
      (.alone staged input' phase' client) := by
  have hstep := @SystemStep.worker options (.alone g input phase client) 0 action _
    ⟨input, phase⟩ [] g rfl (.worker rfl h) (.nothing hanswer)
  simp only [LinkSystem.send, LinkSystem.alone, List.modify_zero_cons, List.append_nil] at hstep
  exact hstep

lemma alone_call {action : ClientAction} (h : ClientStep client action client' written) :
    SystemStep options (.alone g input phase client) (.client 0 action)
      (.alone g (input ++ written) phase client') :=
  @SystemStep.client options (.alone g input phase client) 0 action _ client' written rfl h

/-- A client after its first call: it is greeted, and its worker waits. -/
structure Greeted (options : LinkServerOptions) (g : Governor) (caller : LinkCaller)
    (session : Session) (trace : List (LinkSystem × SystemEvent)) (client : LinkClient) :
    Prop where
  run : Run (SystemStep options) (.start g) trace (.alone g [] (.serving session) client)
  handed : handedOn 0 trace = []
  replied : repliesTo 0 trace = []
  inbox : client.inbox = []
  state : client.state = .ready
  standing : client.standing = .orderly
  caller : client.toLinkCaller = { caller with session := session.id }

/-- What the worker sends for a snapshot that is staged and not evaluated. -/
def acceptedAck (g staged : Governor) (snapshot : EvidenceSnapshot) : EvidenceAck :=
  { stagedAck g snapshot with accountingGeneration := staged.accounting.generation }

/-- A client that is greeted submits a snapshot, and is told that it was staged. -/
lemma Greeted.submit {session : Session} {trace : List (LinkSystem × SystemEvent)}
    (h : Greeted options g caller session trace client)
    (hoptions : options.evaluateOnIngest = false)
    (hexpected : session.expected = caller.sequence + 1) (hepoch : snapshot.epoch = g.epoch)
    (hlength : (encodeEvidence snapshot).length < 2 ^ 32)
    (hbound : (encodeEvidence snapshot).length ≤ options.maxPayload.toNat)
    (hdecode : decodeEvidence (encodeEvidence snapshot) = .ok snapshot)
    (hingest : g.ingestEvidence snapshot = (.ok (ingestResult .staged snapshot), staged)) :
    ∃ trace' system client', Run (SystemStep options) (.start g) trace' system ∧
      system.clients[0]? = some client' ∧ client'.standing = .orderly ∧ client'.state = .ready ∧
      handedOn 0 trace' = [(snapshot, .ok (ingestResult .staged snapshot))] ∧
      repliesTo 0 trace' = [(snapshot, (acceptedAck g staged snapshot).received)] := by
  set header := client.count.evidence snapshot with hheader
  set frame : InboundFrame := evidenceFrame header snapshot with hframe
  set ack := { stagedAck g snapshot with detail := "" } with hack
  have hcaller := h.caller
  -- the client writes, and the worker takes what it wrote
  have hask := @alone_call options g client _ [] _ (.serving session) _
    (.submit snapshot h.state)
  rw [List.nil_append] at hask
  have hcontinue := @alone_quiet options g g (client.submitting snapshot)
    (client.count.submission snapshot) _ _ _ _
    (@WorkerStep.continue options { governor := g } _ session rfl) rfl
  have hread := @readFrame_encodeFrame header (encodeEvidence snapshot) [] options.maxPayload
    ⟨.inl rfl, hbound, rfl⟩
  rw [List.append_nil] at hread
  have hadmit : admitFrame session g.epoch frame.header = .ok .evidence := by
    refine admitFrame_eq_evidence.mpr ⟨rfl, ?_, hepoch, ?_⟩
    · show client.session = session.id
      rw [show client.session = _ from congrArg LinkCaller.session hcaller]
    · show client.sequence + 1 = session.expected
      rw [show client.sequence = _ from congrArg LinkCaller.sequence hcaller, hexpected]
  have htake := @alone_quiet options g g (client.submitting snapshot) _ _ _ _ _
    (@WorkerStep.takeEvidence options { governor := g } _ _ session frame hread hadmit) rfl
  have hpayload : frame.payload = encodeEvidence snapshot := rfl
  rw [hpayload, hdecode] at htake
  clear_value frame
  -- then it calls the governor
  have hgeneration := @alone_quiet options g g (client.submitting snapshot) [] [] _ _ _
    (@WorkerStep.readGeneration options { governor := g } [] session.advance frame (.ok snapshot))
    rfl
  have hrequest := @alone_quiet options g g (client.submitting snapshot) [] [] _ _ _
    (@WorkerStep.makeRequest options { governor := g } [] session.advance frame snapshot ack) rfl
  have hcall := @WorkerStep.ingest options { governor := g } [] session.advance frame snapshot ack
    (makeRequestFor g snapshot)
  have hafter : afterIngest options ack (makeRequestFor g snapshot)
      (.ok (ingestResult .staged snapshot)) = .finishing (stagedAck g snapshot) := by
    simp [afterIngest, ingestResult, hoptions, hack, stagedAck]
  dsimp only at hcall
  rw [hingest, hafter] at hcall
  have hingested := @alone_quiet options g staged (client.submitting snapshot) _ _ _ _ _ hcall rfl
  have hfinish := @alone_quiet options staged staged (client.submitting snapshot) [] [] _ _ _
    (@WorkerStep.finish options { governor := staged } [] session.advance frame
      (stagedAck g snapshot)) rfl
  -- and acknowledges, which the client reads
  have hreply := @alone_work options staged staged (client.submitting snapshot) [] [] _ _
    (.serving session.advance) _ h.inbox
    (@WorkerStep.reply options { governor := staged } [] session.advance frame
      (acceptedAck g staged snapshot) true)
    (.whole (answer_acknowledged _ _ _ true) (by simp [LinkAction.sent]))
  have hfits : Fits (acceptedAck g staged snapshot).detail := by
    show Fits "evidence accepted"
    decide
  have hanswer := @readFrame_encodeFrame
    (sentHeader staged .evidenceAck session.advance.id frame.header.sequence)
    (encodeEvidenceAck (acceptedAck g staged snapshot)) [] kMaxFramePayloadBytes
    ⟨.inl rfl, length_encodeEvidenceAck hfits, rfl⟩
  rw [List.append_nil] at hanswer
  have hread := @ClientStep.submitted { client.submitting snapshot with
    inbox := sentFrame staged .evidenceAck session.advance.id frame.header.sequence
      (encodeEvidenceAck (acceptedAck g staged snapshot)) } _ _ snapshot rfl hanswer
  rw [readSubmission_evidenceAck rfl rfl hfits] at hread
  have hanswered := @alone_call options staged _ _ [] _ (.serving session.advance) _ hread
  have hrun := h.run.append (.cons hask (.cons hcontinue (.cons htake (.cons hgeneration
    (.cons hrequest (.cons hingested (.cons hfinish (.cons hreply (.cons hanswered .nil)))))))))
  refine ⟨_, _, _, hrun, rfl, ?_, rfl, ?_, ?_⟩
  · show client.standing.call (encodeEvidence snapshot).length = .orderly
    rw [h.standing, Standing.call_orderly hlength]
  · rw [handedOn_append_list, h.handed]
    simp [handedOn, SystemEvent.handed, LinkAction.handed]
  · rw [repliesTo_append_list, h.replied]
    simp [repliesTo, SystemEvent.reply, ClientAction.reply]

end Exchange

end FairnessGovernor
