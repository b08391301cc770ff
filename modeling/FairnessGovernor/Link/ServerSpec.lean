/-
# The workers follow the protocol

Each step of a worker is a step of the protocol, so the actions of every connection of a server
are in order, however the connections and the other clients of the governor interleave.
-/
import FairnessGovernor.Governor.Sample
import FairnessGovernor.Link.Arrivals

namespace FairnessGovernor

open Program Runs

variable {options : LinkServerOptions}

/-! ## One step -/

/-- The actions that call the governor to change it. -/
def LinkAction.Calls : LinkAction → Prop
  | .ingest _ _ _ | .commit _ _ _ => True
  | _ => False

/-- A session from which `n` evidence frames were taken. -/
structure Session.Counts (session : Session) (n : ℕ) : Prop where
  id : session.id = sessionId session.hello
  expected : session.expected = UInt64.ofNat (n + 1)

/-- What has become of the evidence frame that a worker is at. -/
def Stage.Fits (frame : InboundFrame) (pending : Pending) : Stage → Prop
  | .decoded decode => pending = .taken frame ∧ decode = decodeEvidence frame.payload
  | .requesting snapshot _ | .ingesting snapshot _ _ =>
    pending = .taken frame ∧ decodeEvidence frame.payload = .ok snapshot
  | .evaluating _ _ => pending = .ingested frame
  | .committing _ _ => pending = .decided frame
  | .finishing _ | .replying _ => True

/-- The point of the protocol that a worker is at. -/
def Phase.At (p : Progress) : Phase → Prop
  | .handshake => p = .fresh
  | .greeted hello => p = .greeted hello
  | .accepted session | .serving session | .reading session =>
    ∃ n pending, p = .serving session.hello n pending ∧ session.Counts n
  | .processing session frame stage =>
    ∃ n pending, p = .serving session.hello n pending ∧ session.Counts n ∧
      stage.Fits frame pending
  | .closed => p = .over

variable {world world' : LinkWorld} {connection connection' : Connection} {action : LinkAction}
  {p : Progress}

lemma Session.counts_issue (hello : FrameHeader) : (Session.issue hello).Counts 0 :=
  ⟨rfl, rfl⟩

lemma Session.Counts.advance {session : Session} {n : ℕ} (h : session.Counts n) :
    session.advance.Counts (n + 1) where
  id := h.id
  expected := by
    rw [Session.advance, h.expected]
    simp

/-- A worker that reads is not over. -/
lemma Phase.At.reading_ne_over {phase : Phase} (h : phase.At p)
    (hphase : phase = .handshake ∨ ∃ session, phase = .reading session) : p ≠ .over := by
  rintro rfl
  rcases hphase with rfl | ⟨session, rfl⟩
  · cases h
  · obtain ⟨_, _, h, -⟩ := h
    cases h

/-- A step of a worker is a step of the protocol. -/
lemma WorkerStep.follows (hstep : WorkerStep options world connection action world' connection')
    (hat : connection.phase.At p) :
    ∃ p', Progress.Step p action p' ∧ connection'.phase.At p' := by
  cases hstep with
  | cutOff reason hphase =>
    exact ⟨.over, .finish (hat.reading_ne_over hphase) trivial, rfl⟩
  | unreadable hphase =>
    exact ⟨.over, .finish (hat.reading_ne_over hphase) trivial, rfl⟩
  | rejectHello =>
    exact ⟨.over, .finish (hat.reading_ne_over (.inl rfl)) trivial, rfl⟩
  | greet _ hcheck =>
    obtain rfl : p = .fresh := hat
    exact ⟨_, .greet (checkHello_eq_ok.mp hcheck), rfl⟩
  | turnAway =>
    obtain rfl : p = .greeted _ := hat
    exact ⟨.over, .finish (by simp) trivial, rfl⟩
  | @openSession _ hello =>
    obtain rfl : p = .greeted _ := hat
    exact ⟨_, .openSession, 0, .settled, rfl, Session.counts_issue hello⟩
  | welcome sent =>
    obtain ⟨n, pending, rfl, hcounts⟩ := hat
    cases sent with
    | false => exact ⟨.over, .finish (by simp) rfl, rfl⟩
    | true => exact ⟨_, .welcome, n, pending, rfl, hcounts⟩
  | observeStop =>
    obtain ⟨n, pending, rfl, -⟩ := hat
    exact ⟨.over, .finish (by simp) trivial, rfl⟩
  | «continue» =>
    obtain ⟨n, pending, rfl, hcounts⟩ := hat
    exact ⟨_, .internal, n, pending, rfl, hcounts⟩
  | refuse =>
    exact ⟨.over, .finish (hat.reading_ne_over (.inr ⟨_, rfl⟩)) trivial, rfl⟩
  | goodbye =>
    exact ⟨.over, .finish (hat.reading_ne_over (.inr ⟨_, rfl⟩)) trivial, rfl⟩
  | takeEvidence _ hadmit =>
    obtain ⟨n, pending, rfl, hcounts⟩ := hat
    obtain ⟨hkind, hsession, hepoch, hsequence⟩ := admitFrame_eq_evidence.mp hadmit
    -- the session expects the sequence that the protocol counts
    have hevidence : IsEvidence _ (sessionId _) _ (n + 1) :=
      ⟨hkind, hsession.trans hcounts.id, hepoch, hsequence.trans hcounts.expected⟩
    exact ⟨_, .evidence hevidence, n + 1, .taken _, rfl, hcounts.advance, rfl, rfl⟩
  | @readGeneration _ session frame decode =>
    obtain ⟨n, pending, rfl, hcounts, rfl, rfl⟩ := hat
    refine ⟨_, .internal, n, .taken frame, rfl, hcounts, ?_⟩
    cases hdecode : decodeEvidence frame.payload with
    | error e => trivial
    | ok snapshot => exact ⟨rfl, hdecode⟩
  | makeRequest =>
    obtain ⟨n, pending, rfl, hcounts, rfl, hdecode⟩ := hat
    exact ⟨_, .internal, n, _, rfl, hcounts, rfl, hdecode⟩
  | ingest =>
    obtain ⟨n, pending, rfl, hcounts, rfl, hdecode⟩ := hat
    refine ⟨_, .ingest hdecode, n, .ingested _, rfl, hcounts, ?_⟩
    unfold afterIngest
    split
    · trivial
    · dsimp only
      split_ifs
      · exact rfl
      · trivial
  | evaluate =>
    obtain ⟨n, pending, rfl, hcounts, rfl⟩ := hat
    refine ⟨_, .evaluate, n, .decided _, rfl, hcounts, ?_⟩
    unfold afterEvaluate
    split
    · exact rfl
    · trivial
  | commit =>
    obtain ⟨n, pending, rfl, hcounts, rfl⟩ := hat
    exact ⟨_, .commit, n, .settled, rfl, hcounts, trivial⟩
  | finish =>
    obtain ⟨n, pending, rfl, hcounts, -⟩ := hat
    exact ⟨_, .internal, n, pending, rfl, hcounts, trivial⟩
  | reply sent =>
    obtain ⟨n, pending, rfl, hcounts, -⟩ := hat
    cases sent with
    | false => exact ⟨.over, .finish (by simp) rfl, rfl⟩
    | true => exact ⟨_, .acknowledge, n, .settled, rfl, hcounts⟩

/-- What a worker observes as the epoch is the epoch, and the governor changes only by its
ingestions and its commits. -/
lemma WorkerStep.observes
    (hstep : WorkerStep options world connection action world' connection') :
    (∀ hello live, action = .greeted hello live → live = world.governor.epoch) ∧
    (∀ frame live, action = .evidence frame live → live = world.governor.epoch) ∧
    (action.Calls ∨ world'.governor = world.governor) := by
  cases hstep with
  | greet =>
    refine ⟨fun _ _ h => ?_, fun _ _ h => ?_, .inr rfl⟩
    · exact (LinkAction.greeted.inj h).2.symm
    · cases h
  | takeEvidence =>
    refine ⟨fun _ _ h => ?_, fun _ _ h => ?_, .inr rfl⟩
    · cases h
    · exact (LinkAction.evidence.inj h).2.symm
  | ingest => exact ⟨fun _ _ h => (by cases h), fun _ _ h => (by cases h), .inl trivial⟩
  | commit => exact ⟨fun _ _ h => (by cases h), fun _ _ h => (by cases h), .inl trivial⟩
  | _ => exact ⟨fun _ _ h => (by cases h), fun _ _ h => (by cases h), .inr rfl⟩

/-! ## Runs of a server -/

/-- The action of a connection in an event. -/
def LinkEvent.actionOf (c : ℕ) : LinkEvent → Option LinkAction
  | .worker index action => if index = c then some action else none
  | _ => none

/-- The actions of a connection in a run. -/
def actionsOf (c : ℕ) (trace : List (LinkServer × LinkEvent)) : List LinkAction :=
  trace.filterMap fun step => step.2.actionOf c

variable {start server server' : LinkServer} {trace : List (LinkServer × LinkEvent)} {c : ℕ}
  {event : LinkEvent}

lemma actionsOf_append (h : event.actionOf c = none) :
    actionsOf c (trace ++ [(server, event)]) = actionsOf c trace := by
  simp [actionsOf, h]

lemma actionsOf_append_worker :
    actionsOf c (trace ++ [(server, .worker c action)]) = actionsOf c trace ++ [action] := by
  simp [actionsOf, LinkEvent.actionOf]

/-- What a step makes of a connection: it is as it was, or new, or its own worker stepped. -/
inductive Connected (options : LinkServerOptions) (server : LinkServer) (event : LinkEvent)
    (server' : LinkServer) (c : ℕ) (connection : Connection) : Prop
  | kept : event.actionOf c = none → server.connections[c]? = some connection →
      Connected options server event server' c connection
  | accepted : event.actionOf c = none → server.connections[c]? = none →
      connection.phase = .handshake → Connected options server event server' c connection
  | stepped {action : LinkAction} {before : Connection} : event = .worker c action →
      server.connections[c]? = some before →
      WorkerStep options server.world before action server'.world connection →
      Connected options server event server' c connection

lemma LinkStep.connected {connection : Connection}
    (hstep : LinkStep options server event server')
    (hc : server'.connections[c]? = some connection) :
    Connected options server event server' c connection := by
  cases hstep with
  | accept input =>
    dsimp only at hc
    by_cases hlt : c < server.connections.length
    · rw [List.getElem?_append_left hlt] at hc
      exact .kept rfl hc
    · rw [not_lt] at hlt
      rw [List.getElem?_append_right hlt, List.getElem?_singleton] at hc
      split_ifs at hc
      obtain rfl := Option.some.inj hc
      exact .accepted rfl (List.getElem?_eq_none hlt) rfl
  | requestStop => exact .kept rfl hc
  | client => exact .kept rfl hc
  | @worker index action world before after hbefore hworker =>
    have hlt : index < server.connections.length := (List.getElem?_eq_some_iff.mp hbefore).1
    dsimp only at hc
    rw [List.getElem?_set] at hc
    split_ifs at hc with hindex
    · subst hindex
      obtain rfl := Option.some.inj hc
      exact .stepped rfl hbefore hworker
    · exact .kept (if_neg hindex) hc

/-- What is not connected after a step was not connected before, and did nothing. -/
lemma LinkStep.unconnected (hstep : LinkStep options server event server')
    (hc : server'.connections[c]? = none) :
    server.connections[c]? = none ∧ event.actionOf c = none := by
  cases hstep with
  | accept input =>
    rw [List.getElem?_eq_none_iff, List.length_append] at hc
    exact ⟨List.getElem?_eq_none (by omega), rfl⟩
  | requestStop => exact ⟨hc, rfl⟩
  | client => exact ⟨hc, rfl⟩
  | worker hbefore =>
    have hlt := (List.getElem?_eq_some_iff.mp hbefore).1
    rw [List.getElem?_eq_none_iff, List.length_set] at hc
    exact ⟨List.getElem?_eq_none hc, if_neg (by omega)⟩

/-- Each connection is where its actions have led it; what is not connected has no actions. -/
structure Tracked (trace : List (LinkServer × LinkEvent)) (server : LinkServer) (c : ℕ) :
    Prop where
  at_ : ∀ connection ∈ server.connections[c]?,
    ∃ p, Follows (actionsOf c trace) p ∧ connection.phase.At p
  unconnected : server.connections[c]? = none → actionsOf c trace = []

/-- Only a worker's own step takes its connection further. -/
lemma Tracked.step (h : Tracked trace server c) (hstep : LinkStep options server event server') :
    Tracked (trace ++ [(server, event)]) server' c := by
  constructor
  · intro connection hconnection
    cases hstep.connected hconnection with
    | kept hidle hsame =>
      rw [actionsOf_append hidle]
      exact h.at_ connection hsame
    | accepted hidle hnone hphase =>
      rw [actionsOf_append hidle, h.unconnected hnone, hphase]
      exact ⟨.fresh, Follows.start, rfl⟩
    | stepped hevent hbefore hworker =>
      subst hevent
      obtain ⟨p, hfollows, hat⟩ := h.at_ _ hbefore
      obtain ⟨p', hprogress, hat'⟩ := hworker.follows hat
      rw [actionsOf_append_worker]
      exact ⟨p', hfollows.snoc hprogress, hat'⟩
  · intro hnone
    obtain ⟨hbefore, hidle⟩ := hstep.unconnected hnone
    rw [actionsOf_append hidle]
    exact h.unconnected hbefore

/-- Every connection of a server follows the protocol. -/
lemma run_tracked (hstart : start.connections = [])
    (hrun : Run (LinkStep options) start trace server) (c : ℕ) : Tracked trace server c := by
  induction hrun with
  | nil =>
    constructor
    · intro connection hconnection
      rw [hstart] at hconnection
      cases hconnection
    · exact fun _ => rfl
  | snoc _ hstep ih => exact ih.step hstep

/-- The actions of a connection are those of the protocol. -/
lemma run_follows (hstart : start.connections = [])
    (hrun : Run (LinkStep options) start trace server) (c : ℕ) :
    ∃ p, Follows (actionsOf c trace) p := by
  have htracked := run_tracked hstart hrun c
  cases hconnection : server.connections[c]? with
  | none =>
    rw [htracked.unconnected hconnection]
    exact ⟨.fresh, Follows.start⟩
  | some connection =>
    obtain ⟨p, hfollows, -⟩ := htracked.at_ connection hconnection
    exact ⟨p, hfollows⟩

/-- The actions of every connection of a server are in order, whatever the peers send and the
clients of the governor do.  The epoch that a frame is checked against is the governor's at that
moment, and an action that changes the governor is an ingestion or a commit. -/
theorem connection_orderly (g : Governor)
    (hrun : Run (LinkStep options) (LinkServer.start g) trace server) (c : ℕ) :
    Orderly (actionsOf c trace) ∧
    (∀ t hello live, (t, .worker c (.greeted hello live)) ∈ trace →
      live = t.world.governor.epoch) ∧
    (∀ t frame live, (t, .worker c (.evidence frame live)) ∈ trace →
      live = t.world.governor.epoch) ∧
    ∀ t action t', LinkStep options t (.worker c action) t' →
      action.Calls ∨ t'.world.governor = t.world.governor := by
  refine ⟨?_, ?_, ?_, ?_⟩
  · obtain ⟨p, hfollows⟩ := run_follows rfl hrun c
    exact hfollows.orderly
  · intro t hello live hmem
    obtain ⟨_, _, t', -, -, hstep, -⟩ := hrun.upTo hmem
    cases hstep with
    | worker _ hworker => exact hworker.observes.1 hello live rfl
  · intro t frame live hmem
    obtain ⟨_, _, t', -, -, hstep, -⟩ := hrun.upTo hmem
    cases hstep with
    | worker _ hworker => exact hworker.observes.2.1 frame live rfl
  · intro t action t' hstep
    cases hstep with
    | worker _ hworker => exact hworker.observes.2.2

/-- A publisher is given a session and its first evidence frame is taken. -/
theorem connection_orderly_sample :
    ∃ trace server, Run (LinkStep {}) (LinkServer.start (memoryGovernor pairPolicy)) trace server ∧
      takenCount (actionsOf 0 trace) = 1 ∧ Orderly (actionsOf 0 trace) := by
  have hopening := @opening_run (encodeFrame sampleEvidence []) {} sampleHello
    (LinkServer.start (memoryGovernor pairPolicy))
    ⟨rfl, by decide, by decide, by decide, rfl⟩ (.inl rfl) rfl rfl
  have hevidence := @evidence_step sampleEvidence [] [] {}
    (LinkServer.start (memoryGovernor pairPolicy)) sampleSession ⟨.inl rfl, Nat.zero_le _, rfl⟩
    rfl rfl rfl rfl
  rw [List.append_nil] at hevidence
  have hrun := hopening.snoc hevidence
  exact ⟨_, _, hrun, rfl, (connection_orderly _ hrun 0).1⟩

end FairnessGovernor
