/-
# Publisher identities

A HELLO names a publisher and its incarnation, and every later frame names them again.  The
frame loop compares neither with the HELLO's, and no worker looks at the sessions of the others.
So a session carries one identity, and a publisher's sessions one boot, just as long as the
peers see to it themselves.
-/
import FairnessGovernor.Link.ServerSpec
import FairnessGovernor.Persist.RoundTrips

namespace FairnessGovernor

open Program Runs

variable {options : LinkServerOptions}

/-! ## The fence -/

/-- Two headers name the same publisher in the same incarnation. -/
structure SameIdentity (header header' : FrameHeader) : Prop where
  publisher : header.publisher = header'.publisher
  boot : header.publisherBoot = header'.publisherBoot
  ordinal : header.publisherOrdinal = header'.publisherOrdinal

/-- The HELLO of the session that is open at a point of a worker. -/
def Phase.openHello : Phase → Option FrameHeader
  | .accepted session | .serving session | .reading session | .processing session _ _ =>
    some session.hello
  | _ => none

/-- The HELLO of the open session of a connection. -/
def LinkServer.openHello (server : LinkServer) (i : ℕ) : Option FrameHeader :=
  server.connections[i]?.bind fun connection => connection.phase.openHello

/-- No two open sessions name the same publisher with different boots. -/
def FencedSessions (server : LinkServer) : Prop :=
  ∀ i j hello hello', server.openHello i = some hello → server.openHello j = some hello' →
    hello.publisher = hello'.publisher → hello.publisherBoot = hello'.publisherBoot

/-- Every evidence frame that was handed to the governor names the identity of the HELLO that
was accepted on its connection. -/
def HandedIdentities (trace : List (LinkServer × LinkEvent)) : Prop :=
  ∀ before t c frame snapshot result after,
    trace = before ++ (t, .worker c (.ingest frame snapshot result)) :: after →
    ∃ hello, t.openHello c = some hello ∧ Admitted (actionsOf c before) hello ∧
      SameIdentity frame.header hello

/-- What the peers have to see to: an evidence frame that can be decoded names the identity of
its session, and a HELLO does not name the publisher of an open session with another boot. -/
def IdentityMeets (server : LinkServer) : LinkEvent → Prop
  | .worker c (.evidence frame _) => ∀ hello, server.openHello c = some hello →
    (decodeEvidence frame.payload).isOk = true → SameIdentity frame.header hello
  | .worker _ (.opened hello _) => ∀ i other, server.openHello i = some other →
    other.publisher = hello.publisher → other.publisherBoot = hello.publisherBoot
  | _ => True

/-! ## Open sessions -/

variable {world world' : LinkWorld} {connection connection' : Connection} {action : LinkAction}
  {server server' : LinkServer} {event : LinkEvent} {trace : List (LinkServer × LinkEvent)}

/-- A step of a worker opens a session, ends it or leaves it. -/
lemma WorkerStep.openHello (hstep : WorkerStep options world connection action world' connection') :
    connection'.phase.openHello = none ∨
    connection'.phase.openHello = connection.phase.openHello ∨
    ∃ hello, action = .opened hello (sessionId hello) ∧
      connection'.phase.openHello = some hello := by
  cases hstep with
  | @openSession _ hello => exact .inr (.inr ⟨hello, rfl, rfl⟩)
  | welcome sent =>
    cases sent with
    | false => exact .inl rfl
    | true => exact .inr (.inl rfl)
  | reply sent =>
    cases sent with
    | false => exact .inl rfl
    | true => exact .inr (.inl rfl)
  | observeStop | «continue» | takeEvidence | readGeneration | makeRequest | ingest | evaluate
  | commit | finish => first | exact .inr (.inl rfl) | exact .inl rfl
  | _ => exact .inl rfl

/-- A worker's step changes the session of its own connection only. -/
lemma LinkServer.openHello_set {index : ℕ} (world : LinkWorld)
    (hconnection : server.connections[index]? = some connection) (i : ℕ) :
    LinkServer.openHello
      { world := world, connections := server.connections.set index connection' } i =
      if i = index then connection'.phase.openHello else server.openHello i := by
  have hlt : index < server.connections.length := (List.getElem?_eq_some_iff.mp hconnection).1
  unfold LinkServer.openHello
  split_ifs with hi
  · rw [hi, List.getElem?_set_self hlt]
    rfl
  · rw [List.getElem?_set_ne (Ne.symm hi)]

/-- A new connection has no session. -/
lemma LinkServer.openHello_accept (input : ByteBuffer) (i : ℕ) :
    LinkServer.openHello
      { server with connections := server.connections ++ [⟨input, .handshake⟩] } i =
      server.openHello i := by
  unfold LinkServer.openHello
  by_cases hi : i < server.connections.length
  · rw [List.getElem?_append_left hi]
  · rw [not_lt] at hi
    rw [List.getElem?_append_right hi, List.getElem?_eq_none hi, List.getElem?_singleton]
    split_ifs <;> rfl

/-- The sessions stay fenced when the peers see to it. -/
lemma LinkStep.fenced (hstep : LinkStep options server event server')
    (hmeets : IdentityMeets server event) (h : FencedSessions server) :
    FencedSessions server' := by
  cases hstep with
  | accept input =>
    intro i j hello hello' hi hj
    rw [LinkServer.openHello_accept] at hi hj
    exact h i j hello hello' hi hj
  | requestStop => exact h
  | client => exact h
  | @worker index action world connection connection' hconnection hworker =>
    -- what the worker's session has in common with the others
    have hfits : ∀ i hello other, i ≠ index → connection'.phase.openHello = some hello →
        server.openHello i = some other → other.publisher = hello.publisher →
        other.publisherBoot = hello.publisherBoot := by
      intro i hello other _ hhello hother
      rcases hworker.openHello with hnone | hsame | ⟨hello', rfl, hopened⟩
      · rw [hnone] at hhello
        cases hhello
      · rw [hsame] at hhello
        refine h i index other hello hother ?_
        rw [LinkServer.openHello, hconnection]
        exact hhello
      · obtain rfl := Option.some.inj (hopened.symm.trans hhello)
        exact hmeets i other hother
    intro i j hello hello' hi hj hpublisher
    rw [LinkServer.openHello_set world hconnection] at hi hj
    split_ifs at hi hj with hindex hindex' hindex'
    · obtain rfl := Option.some.inj (hi.symm.trans hj)
      rfl
    · exact (hfits j hello hello' hindex' hi hj hpublisher.symm).symm
    · exact hfits i hello' hello hindex hj hi hpublisher
    · exact h i j hello hello' hi hj hpublisher

/-- After an opening the sessions are fenced exactly when the HELLO meets the condition. -/
lemma LinkStep.opened_fenced_iff {c : ℕ} {hello : FrameHeader} {session : UInt64}
    (hstep : LinkStep options server (.worker c (.opened hello session)) server')
    (h : FencedSessions server) :
    FencedSessions server' ↔ IdentityMeets server (.worker c (.opened hello session)) := by
  constructor
  · intro h' i other hi hpublisher
    cases hstep with
    | worker hconnection hworker =>
      cases hworker with
      | openSession =>
        have hne : i ≠ c := by
          rintro rfl
          rw [LinkServer.openHello, hconnection] at hi
          cases hi
        refine h' i c other hello ?_ ?_ hpublisher
        · rw [LinkServer.openHello_set _ hconnection, if_neg hne]
          exact hi
        · rw [LinkServer.openHello_set _ hconnection, if_pos rfl]
          rfl
  · exact fun hmeets => hstep.fenced hmeets h

/-! ## Identities of frames -/

/-- The frame that a worker is at names the identity of its session, if it can be decoded. -/
def Connection.Carries (connection : Connection) : Prop :=
  ∀ session frame stage, connection.phase = .processing session frame stage →
    (decodeEvidence frame.payload).isOk = true → SameIdentity frame.header session.hello

lemma WorkerStep.carries (hstep : WorkerStep options world connection action world' connection')
    (hcarries : connection.Carries)
    (hmeets : ∀ frame live, action = .evidence frame live → ∀ hello,
      connection.phase.openHello = some hello → (decodeEvidence frame.payload).isOk = true →
      SameIdentity frame.header hello) : connection'.Carries := by
  intro session frame stage hphase hdecode
  cases hstep with
  | takeEvidence =>
    cases hphase
    exact hmeets _ _ rfl _ rfl hdecode
  | welcome sent => cases sent <;> cases hphase
  | reply sent => cases sent <;> cases hphase
  | readGeneration | makeRequest | ingest | evaluate | commit | finish =>
    cases hphase
    exact hcarries _ _ _ rfl hdecode
  | _ => cases hphase

/-- Every frame that a worker is at names the identity of its session, if it can be decoded. -/
def CarriedIdentities (server : LinkServer) : Prop :=
  ∀ (i : ℕ) (connection : Connection), server.connections[i]? = some connection →
    connection.Carries

lemma LinkStep.carried (hstep : LinkStep options server event server')
    (hmeets : IdentityMeets server event) (h : CarriedIdentities server) :
    CarriedIdentities server' := by
  intro i connection hi
  cases hstep.connected hi with
  | kept _ hsame => exact h i connection hsame
  | accepted _ _ hhandshake =>
    intro session frame stage hphase
    rw [hhandshake] at hphase
    cases hphase
  | stepped hevent hbefore hworker =>
    subst hevent
    refine hworker.carries (h i _ hbefore) ?_
    rintro frame live rfl hello hhello
    refine hmeets hello ?_
    rw [LinkServer.openHello, hbefore]
    exact hhello

/-! ## Runs -/

/-- As long as the peers see to it, the frames that are handed to the governor name the identity
of their session, and a publisher's sessions have one boot. -/
theorem identities_fenced (g : Governor)
    (hrun : Run (LinkStep options) (LinkServer.start g) trace server)
    (hmeets : ∀ step ∈ trace, IdentityMeets step.1 step.2) :
    HandedIdentities trace ∧ FencedSessions server := by
  constructor
  · rintro before t c frame snapshot result after rfl
    obtain ⟨t', hbefore, hstep, -⟩ := hrun.split
    have hcarried : CarriedIdentities t :=
      hbefore.keeps (fun i connection hi => by cases hi) fun t e u hmem h hstep =>
        hstep.carried (hmeets (t, e) (List.mem_append_left _ hmem)) h
    have htracked := run_tracked rfl hbefore c
    cases hstep with
    | @worker _ _ world connection connection' hconnection hworker =>
      have hcarries := hcarried c connection hconnection
      obtain ⟨p, hfollows, hat⟩ := htracked.at_ connection hconnection
      cases hworker with
      | ingest =>
        obtain ⟨n, pending, rfl, -, -, hdecode⟩ := hat
        have hsame := hcarries _ frame _ rfl (by rw [hdecode]; rfl)
        refine ⟨_, ?_, hfollows.accounts.2.1, hsame⟩
        rw [LinkServer.openHello, hconnection]
        rfl
  · refine hrun.keeps (P := FencedSessions) ?_ fun t e u hmem h hstep =>
      hstep.fenced (hmeets (t, e) hmem) h
    intro i j hello hello' hi
    cases hi

/-! ## Two sessions of one publisher -/

/-- A connection that was added is the last one. -/
lemma LinkServer.openHello_joined (input : ByteBuffer) (phase : Phase) (i : ℕ) :
    (server.joined input phase).openHello i =
      if i = server.connections.length then phase.openHello else server.openHello i := by
  unfold LinkServer.openHello LinkServer.joined
  split_ifs with hi
  · rw [hi, List.getElem?_append_right (le_refl _), Nat.sub_self]
    rfl
  · by_cases hlt : i < server.connections.length
    · rw [List.getElem?_append_left hlt]
    · rw [List.getElem?_eq_none (by simp; omega), List.getElem?_eq_none (by omega)]

/-- An opening meets the condition where its HELLO does. -/
lemma opening_meets {hello : FrameHeader} {rest : ByteBuffer}
    (h : ∀ i other, server.openHello i = some other → other.publisher = hello.publisher →
      other.publisherBoot = hello.publisherBoot) :
    ∀ step ∈ opening options server hello rest, IdentityMeets step.1 step.2 := by
  unfold opening
  simp only [List.forall_mem_cons, List.not_mem_nil, false_implies, implies_true, and_true]
  refine ⟨trivial, trivial, ?_, trivial, trivial⟩
  intro i other hother
  rw [LinkServer.openHello_joined] at hother
  split_ifs at hother
  · cases hother
  · exact h i other hother

/-- A HELLO of the same publisher, from a boot. -/
def secondHello (boot : BootId) : FrameHeader := { sampleHello with publisherBoot := boot }

/-- The server while the session of the publisher is open. -/
def firstOpen : LinkServer :=
  (LinkServer.start (memoryGovernor pairPolicy)).joined [] (.reading sampleSession)

/-- The server once a session was opened for the second HELLO as well. -/
def bothOpen (boot : BootId) : LinkServer :=
  firstOpen.joined [] (.reading (Session.issue ((secondHello boot).sealed [])))

/-- The openings of the two sessions. -/
def openings (boot : BootId) : List (LinkServer × LinkEvent) :=
  opening {} (LinkServer.start (memoryGovernor pairPolicy)) sampleHello [] ++
    opening {} firstOpen (secondHello boot) []

lemma bothOpen_run {boot : BootId} (hboot : boot.valid) :
    Run (LinkStep {}) (LinkServer.start (memoryGovernor pairPolicy)) (openings boot)
      (bothOpen boot) := by
  refine Run.append (opening_run ?_ (.inl rfl) rfl rfl) (opening_run ?_ (.inl rfl) rfl rfl)
  · exact ⟨rfl, by decide, by decide, by decide, rfl⟩
  · exact ⟨rfl, (by decide : sampleHello.publisher.valid), hboot,
      (by decide : sampleHello.publisherOrdinal ≠ 0), rfl⟩

/-- Two sessions of one publisher from one boot. -/
theorem identities_fenced_sample :
    HandedIdentities (openings ⟨0xAA⟩) ∧ FencedSessions (bothOpen ⟨0xAA⟩) := by
  refine identities_fenced _ (bothOpen_run (by decide)) fun step hstep => ?_
  rcases List.mem_append.mp hstep with hstep | hstep
  · exact opening_meets (fun i other hother => by cases hother) step hstep
  · refine opening_meets (fun i other hother _ => ?_) step hstep
    rw [firstOpen, LinkServer.openHello_joined] at hother
    split_ifs at hother
    · obtain rfl := Option.some.inj hother
      rfl
    · cases hother

/-- An evidence frame that names another publisher than its session's HELLO. -/
def strangerEvidence : FrameHeader := { sampleEvidence with publisher := ⟨10⟩ }

/-- Its payload is the snapshot of the first window. -/
def strangerFrame : InboundFrame :=
  ⟨strangerEvidence.sealed (encodeEvidence pairSnapshot), encodeEvidence pairSnapshot⟩

/-- The server while that frame is at one of its stages. -/
def strangerAt (stage : Stage) : LinkServer :=
  (LinkServer.start (memoryGovernor pairPolicy)).joined []
    (.processing sampleSession.advance strangerFrame stage)

/-- The server while that snapshot is about to be handed to the governor. -/
def strangerIngesting : LinkServer :=
  strangerAt (.ingesting pairSnapshot
    { snapshot := pairSnapshot.id, generation := pairSnapshot.generation }
    (makeRequestFor (memoryGovernor pairPolicy) pairSnapshot))

/-- What happens until then. -/
def strangerBefore : List (LinkServer × LinkEvent) :=
  let start := LinkServer.start (memoryGovernor pairPolicy)
  let input := encodeFrame strangerEvidence (encodeEvidence pairSnapshot)
  opening {} start sampleHello input ++
    [(start.joined input (.reading sampleSession),
        .worker 0 (.evidence strangerFrame start.world.governor.epoch)),
      (strangerAt (.decoded (.ok pairSnapshot)), .worker 0 .internal),
      (strangerAt (.requesting pairSnapshot
        { snapshot := pairSnapshot.id, generation := pairSnapshot.generation }),
        .worker 0 .internal)]

lemma strangerBefore_run : Run (LinkStep {}) (LinkServer.start (memoryGovernor pairPolicy))
    strangerBefore strangerIngesting := by
  have hdecode : decodeEvidence (encodeEvidence pairSnapshot) = .ok pairSnapshot :=
    decodeEvidence_encodeEvidence (eq_ok_of_isOk (by decide +kernel))
  have hframe : IsFrameOf (encodeFrame strangerEvidence (encodeEvidence pairSnapshot))
      kMaxFramePayloadBytes strangerEvidence (encodeEvidence pairSnapshot) :=
    ⟨.inl rfl, by decide +kernel, rfl⟩
  have hopening := @opening_run (encodeFrame strangerEvidence (encodeEvidence pairSnapshot)) {}
    sampleHello (LinkServer.start (memoryGovernor pairPolicy))
    ⟨rfl, by decide, by decide, by decide, rfl⟩ (.inl rfl) rfl rfl
  have hevidence := @evidence_step strangerEvidence (encodeEvidence pairSnapshot) [] {}
    (LinkServer.start (memoryGovernor pairPolicy)) sampleSession hframe rfl rfl rfl rfl
  rw [List.append_nil, hdecode] at hevidence
  refine hopening.append (.cons hevidence (.cons (LinkServer.joined_step .readGeneration)
    (.cons (LinkServer.joined_step .makeRequest) .nil)))

/-- What the header promises, for a server that is its governor's only client. -/
def FencedAlways (options : LinkServerOptions)
    (promise : List (LinkServer × LinkEvent) → LinkServer → Prop) : Prop :=
  ∀ config boot g trace server, Opens config boot g →
    Run (LinkStep options) (LinkServer.start g) trace server →
    (∀ step ∈ trace, step.2.Own) → promise trace server

/-- Evidence in another publisher's name is handed to the governor, and a second boot is given a
session beside the first. -/
theorem not_identities_fenced :
    ¬ FencedAlways {} (fun trace _ => HandedIdentities trace) ∧
      ¬ FencedAlways {} (fun _ server => FencedSessions server) := by
  have hopens : Opens (memoryConfig pairPolicy) ⟨7⟩ (memoryGovernor pairPolicy) :=
    memoryGovernor_opens (eq_ok_of_isOk (by decide +kernel))
  constructor
  · intro h
    have hingest : LinkStep {} strangerIngesting (.worker 0 (.ingest strangerFrame pairSnapshot
        ((memoryGovernor pairPolicy).ingestEvidence pairSnapshot).1)) _ := .worker rfl .ingest
    obtain ⟨hello, hhello, -, hsame⟩ := h _ _ _ _ _ hopens (strangerBefore_run.snoc hingest)
      (by decide) strangerBefore _ _ _ _ _ [] rfl
    obtain rfl := Option.some.inj hhello
    exact absurd hsame.publisher (by decide)
  · intro h
    have hboot := h _ _ _ _ _ hopens (@bothOpen_run ⟨0xBB⟩ (by decide)) (by decide) 0 1 _ _
      rfl rfl rfl
    exact absurd hboot (by decide)

end FairnessGovernor
