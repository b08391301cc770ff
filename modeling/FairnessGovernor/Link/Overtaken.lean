/-
# A window that is overtaken

A commit that takes the window of a worker between its ingestion and its commit does not keep that
worker from acknowledging its snapshot.  So the condition under which every acknowledged window is
committed leaves out nothing but the defect, and two publishers suffice to reach it.
-/
import FairnessGovernor.Link.Windows

namespace FairnessGovernor

open Program Runs

variable {options : LinkServerOptions} {server server' : LinkServer} {event : LinkEvent}
  {trace : List (LinkServer × LinkEvent)} {g g' : Governor}

/-! ## Windows that are taken -/

/-- The committed windows are at most the last one. -/
lemma committedIn_le {start : LinkServer} {window : ServiceWindowId}
    (hrun : Run (LinkStep options) start trace server) (hown : ∀ step ∈ trace, step.2.Own)
    (h : CommittedIn trace window) :
    window.value ≤ server.world.governor.accounting.lastWindow.value := by
  induction hrun with
  | nil =>
    obtain ⟨_, _, _, _, hmem, -⟩ := h
    cases hmem
  | @snoc trace t u e hrun hstep ih =>
    have hbefore := ih fun step hmem => hown step (List.mem_append_left _ hmem)
    obtain ⟨t', c, frame, decision, hmem, rfl⟩ := h
    -- the window was committed before, or by the last step
    have hcases : CommittedIn trace decision.authority.window ∨
        e = .worker c (.commit frame decision (.ok ())) := by
      rcases List.mem_append.mp hmem with hmem | hmem
      · exact .inl ⟨t', c, frame, decision, hmem, rfl⟩
      · obtain ⟨-, heq⟩ := Prod.mk_inj.mp (List.mem_singleton.mp hmem)
        exact .inr heq.symm
    cases hstep with
    | accept | requestStop =>
      rcases hcases with hcommitted | heq
      · exact hbefore hcommitted
      · cases heq
    | client =>
      have hfalse := hown _ (List.mem_append_right _ (List.mem_singleton_self _))
      exact hfalse.elim
    | @worker index action world _ _ hconnection hworker =>
      rcases hworker.serves with ⟨hingested, hother⟩ |
        ⟨frame', decision', accounting, rfl, hchecked, happlied, haccounting⟩
      · show _ ≤ world.governor.accounting.lastWindow.value
        rw [hingested.lastWindow]
        rcases hcases with hcommitted | heq
        · exact hbefore hcommitted
        · exact absurd (LinkEvent.worker.inj heq).2 (hother frame decision)
      · show _ ≤ world.governor.accounting.lastWindow.value
        rw [haccounting, happlied.lastWindow]
        rcases hcases with hcommitted | heq
        · exact UInt64.le_trans (hbefore hcommitted) (UInt64.le_of_lt hchecked.window_lt)
        · obtain ⟨-, heq⟩ := LinkEvent.worker.inj heq
          obtain ⟨-, rfl, -⟩ := LinkAction.commit.inj heq
          exact UInt64.le_refl _

/-- Where another worker's commit has left a worker without its window. -/
def Stage.Lost (g : Governor) : Stage → Prop
  | .evaluating _ request => g.accounting.lastWindow.valid ∧
    request.window.value ≤ g.accounting.lastWindow.value
  | .committing _ decision => g.checkDecision decision ≠ .ok ()
  | _ => False

/-- The acknowledgement that a worker has ready while it evaluates and commits. -/
def Stage.ack : Stage → Option EvidenceAck
  | .evaluating ack _ | .committing ack _ | .finishing ack => some ack
  | _ => none

section Worker

variable {i : ℕ} {connection connection' : Connection} {action : LinkAction}
  {input : ByteBuffer} {session : Session} {frame : InboundFrame} {stage : Stage}
  {ack : EvidenceAck}

/-- A server whose connection `i` is as given. -/
def LinkServer.moved (server : LinkServer) (i : ℕ) (connection : Connection) : LinkServer :=
  { server with connections := server.connections.set i connection }

lemma LinkServer.moved_step (hi : i < server.connections.length)
    (h : WorkerStep options server.world connection action server.world connection') :
    LinkStep options (server.moved i connection) (.worker i action)
      (server.moved i connection') := by
  have hconnection : (server.moved i connection).connections[i]? = some connection :=
    List.getElem?_set_self hi
  have hstep := @LinkStep.worker options (server.moved i connection) i action _ _ _ hconnection h
  rw [show (server.moved i connection).connections = server.connections.set i connection from rfl,
    List.set_set] at hstep
  exact hstep

/-- What a worker does without committing anything, up to its acknowledgement. -/
structure Acknowledges (server : LinkServer) (i : ℕ) (frame : InboundFrame) (ack : EvidenceAck)
    (steps : List (LinkServer × LinkEvent)) : Prop where
  world : ∀ step ∈ steps, step.1.world = server.world
  own : ∀ step ∈ steps, step.2.Own
  store : ∀ step ∈ steps, StoreServes step.1 step.2
  commitless : ∀ window, ¬ CommittedIn steps window
  acknowledged : ∃ before t ack', steps = before ++ [(t, .worker i (.acknowledged frame ack' true))] ∧
    ack'.code = ack.code ∧ ack'.disposition = ack.disposition

lemma Acknowledges.cons {steps : List (LinkServer × LinkEvent)} {t : LinkServer}
    (h : Acknowledges server i frame ack steps) (hworld : t.world = server.world)
    (hown : event.Own) (hstore : StoreServes t event)
    (hother : ∀ c frame decision, event ≠ .worker c (.commit frame decision (.ok ()))) :
    Acknowledges server i frame ack ((t, event) :: steps) := by
  refine ⟨?_, ?_, ?_, ?_, ?_⟩
  · exact List.forall_mem_cons.mpr ⟨hworld, h.world⟩
  · exact List.forall_mem_cons.mpr ⟨hown, h.own⟩
  · exact List.forall_mem_cons.mpr ⟨hstore, h.store⟩
  · rintro window ⟨t', c, frame', decision, hmem, hwindow⟩
    rcases List.mem_cons.mp hmem with heq | hmem
    · exact hother c frame' decision (Prod.mk_inj.mp heq).2.symm
    · exact h.commitless window ⟨t', c, frame', decision, hmem, hwindow⟩
  · obtain ⟨before, t', ack', rfl, hack⟩ := h.acknowledged
    exact ⟨(t, event) :: before, t', ack', rfl, hack⟩

/-- A run in which a worker acknowledges a snapshot without committing anything. -/
def AcknowledgesFrom (options : LinkServerOptions) (server : LinkServer) (i : ℕ)
    (frame : InboundFrame) (ack : EvidenceAck) (connection : Connection) : Prop :=
  ∃ steps last, Run (LinkStep options) (server.moved i connection) steps last ∧
    Acknowledges server i frame ack steps

lemma finishing_acknowledges (hi : i < server.connections.length) :
    AcknowledgesFrom options server i frame ack
      ⟨input, .processing session frame (.finishing ack)⟩ := by
  refine ⟨_, _, .cons (server.moved_step hi .finish) (.cons (server.moved_step hi (.reply true))
    .nil), ?_⟩
  refine Acknowledges.cons ?_ rfl trivial trivial fun _ _ _ h => by cases h
  refine ⟨?_, ?_, ?_, ?_, ?_⟩
  · exact List.forall_mem_singleton.mpr rfl
  · exact List.forall_mem_singleton.mpr trivial
  · exact List.forall_mem_singleton.mpr trivial
  · rintro window ⟨t, c, frame', decision, hmem, -⟩
    cases List.mem_singleton.mp hmem
  · exact ⟨[], _, _, rfl, rfl, rfl⟩

/-- A decision that fails its checks is dropped, and the snapshot acknowledged. -/
lemma committing_acknowledges {decision : FairnessDecision} (hi : i < server.connections.length)
    (hlost : server.world.governor.checkDecision decision ≠ .ok ()) :
    AcknowledgesFrom options server i frame ack
      ⟨input, .processing session frame (.committing ack decision)⟩ := by
  obtain ⟨steps, last, hrun, hacknowledges⟩ := @finishing_acknowledges options server i input
    session frame ack hi
  cases hcheck : server.world.governor.checkDecision decision with
  | ok _ => exact absurd hcheck hlost
  | error e =>
    have hreturns : Returns (server.world.governor.commit decision)
        (.error e, server.world.governor) := by
      unfold Governor.commit
      rw [hcheck]
      exact returns_pure.mpr rfl
    refine ⟨_, last, .cons (server.moved_step hi (.commit hreturns)) hrun, ?_⟩
    exact hacknowledges.cons rfl trivial (fun h => absurd h hlost) fun _ _ _ h => by cases h

/-- A window that was closed in the meantime is evaluated for nothing. -/
lemma evaluating_acknowledges {request : EvaluationRequest} (hi : i < server.connections.length)
    (hvalid : server.world.governor.accounting.lastWindow.valid)
    (hlost : request.window.value ≤ server.world.governor.accounting.lastWindow.value) :
    AcknowledgesFrom options server i frame ack
      ⟨input, .processing session frame (.evaluating ack request)⟩ := by
  have hevaluate := @WorkerStep.evaluate options server.world input session frame ack request
  cases hdecision : server.world.governor.evaluate request with
  | error e =>
    rw [hdecision] at hevaluate
    obtain ⟨steps, last, hrun, hacknowledges⟩ := @finishing_acknowledges options server i input
      session frame ack hi
    refine ⟨_, last, .cons (server.moved_step hi hevaluate) hrun, ?_⟩
    exact hacknowledges.cons rfl trivial trivial fun _ _ _ h => by cases h
  | ok decision =>
    rw [hdecision] at hevaluate
    have hrefused : server.world.governor.checkDecision decision ≠ .ok () := by
      intro hcheck
      have hfresh := (checkDecision_eq_ok.mp hcheck).window_fresh hvalid
      rw [evaluate_authority hdecision] at hfresh
      exact UInt64.not_le.mpr hfresh hlost
    obtain ⟨steps, last, hrun, hacknowledges⟩ := @committing_acknowledges options server i input
      session frame ack decision hi hrefused
    refine ⟨_, last, .cons (server.moved_step hi hevaluate) hrun, ?_⟩
    exact hacknowledges.cons rfl trivial trivial fun _ _ _ h => by cases h

/-- A worker whose window was taken acknowledges its snapshot all the same. -/
lemma lost_acknowledges
    (hconnection : server.connections[i]? = some ⟨input, .processing session frame stage⟩)
    (hlost : stage.Lost server.world.governor) (hack : stage.ack = some ack) :
    ∃ steps last, Run (LinkStep options) server steps last ∧
      Acknowledges server i frame ack steps := by
  obtain ⟨hi, hget⟩ := List.getElem?_eq_some_iff.mp hconnection
  have hsame : server.moved i ⟨input, .processing session frame stage⟩ = server := by
    rw [LinkServer.moved, ← hget, List.set_getElem_self]
  have hfrom : AcknowledgesFrom options server i frame ack
      ⟨input, .processing session frame stage⟩ := by
    cases stage with
    | evaluating ack' request =>
      obtain rfl := Option.some.inj hack
      exact evaluating_acknowledges hi hlost.1 hlost.2
    | committing ack' decision =>
      obtain rfl := Option.some.inj hack
      exact committing_acknowledges hi hlost
    | _ => exact hlost.elim
  unfold AcknowledgesFrom at hfrom
  rwa [hsame] at hfrom

/-- What a commit leaves to a worker that it does not spare. -/
lemma Stage.lost_of_not_spared {decision : FairnessDecision} {accounting : FairnessAccounting}
    {payload : ByteBuffer} (hspared : ¬ stage.Spared g decision) (hchecked : Checked g decision)
    (happlied : Applied g decision accounting) (hafter : g'.accounting = accounting)
    (hkeeps : stage.Keeps trace g payload) :
    stage.Lost g' ∧ ∃ ack snapshot, stage.ack = some ack ∧ ack.Newly ∧
      decodeEvidence payload = .ok snapshot ∧ snapshot.window ≠ decision.authority.window ∧
      g.accounting.lastWindow.value < snapshot.window.value := by
  have hlast : g'.accounting.lastWindow = decision.authority.window := by
    rw [hafter]
    exact happlied.lastWindow
  cases stage with
  | evaluating ack request =>
    obtain ⟨hack, snapshot, hdecode, hasks, -⟩ := hkeeps
    have hspared : g.accounting.lastWindow.value < request.window.value ∧
        request.window.value < decision.authority.window.value := by
      simpa [Stage.Spared] using hspared
    obtain ⟨hfresh, hearlier⟩ := hspared
    refine ⟨?_, ack, snapshot, rfl, hack, hdecode, ?_, ?_⟩
    · unfold Stage.Lost
      rw [hlast]
      exact ⟨hchecked.window_valid, UInt64.le_of_lt hearlier⟩
    · rw [← hasks.window]
      intro heq
      rw [heq] at hearlier
      exact UInt64.lt_irrefl _ hearlier
    · rw [← hasks.window]
      exact hfresh
  | committing ack other =>
    obtain ⟨hack, snapshot, hdecode, hnames, -⟩ := hkeeps
    have hspared : g.checkDecision other = .ok () ∧
        other.authority.window ≠ decision.authority.window := by
      simpa [Stage.Spared] using hspared
    obtain ⟨hcheck, hne⟩ := hspared
    have hother := checkDecision_eq_ok.mp hcheck
    refine ⟨?_, ack, snapshot, rfl, hack, hdecode, ?_, ?_⟩
    · -- the decision is of the generation before
      intro hcheck'
      have hgeneration := (checkDecision_eq_ok.mp hcheck').accountingGeneration
      rw [hafter, hother.accountingGeneration] at hgeneration
      have hnext := happlied.generation
      rw [← hgeneration] at hnext
      omega
    · rw [← hnames]
      exact hne
    · rw [← hnames]
      exact hother.window_lt
  | _ => exact absurd trivial hspared

/-- The condition leaves out nothing but the defect: a commit that takes the window of another worker
can be followed by the acknowledgement of a snapshot whose window was never committed. -/
theorem overtaken_unkept {config : GovernorConfig} {boot : BootId} {c : ℕ} {committed : InboundFrame}
    {decision : FairnessDecision} (hoptions : options.evaluateOnIngest = true)
    (hopens : Opens config boot g)
    (hrun : Run (LinkStep options) (LinkServer.start g) trace server)
    (hown : ∀ step ∈ trace, step.2.Own) (hstore : ∀ step ∈ trace, StoreServes step.1 step.2)
    (hmeets : ∀ step ∈ trace, WindowMeets step.1 step.2)
    (hstep : LinkStep options server (.worker c (.commit committed decision (.ok ()))) server')
    (hconnection : server.connections[i]? = some ⟨input, .processing session frame stage⟩)
    (hspared : ¬ stage.Spared server.world.governor decision) :
    ∃ steps last, Run (LinkStep options) server' steps last ∧
      (∀ step ∈ steps, step.1.world = server'.world ∧ step.2.Own ∧ StoreServes step.1 step.2) ∧
      ¬ KeepsWindows (trace ++ (server, .worker c (.commit committed decision (.ok ()))) :: steps) := by
  have hkept := run_kept hoptions hopens hrun hown hstore hmeets
  have hkeeps := hkept.stages i _ session frame stage hconnection rfl
  have hle := fun window => @committedIn_le options server trace (LinkServer.start g) window hrun hown
  cases hstep with
  | @worker _ _ world current current' hcurrent hworker =>
    have hne : c ≠ i := by
      rintro rfl
      obtain rfl := Option.some.inj (hcurrent.symm.trans hconnection)
      cases hworker
      exact hspared fun _ => rfl
    rcases hworker.serves with ⟨-, hother⟩ |
      ⟨committed', decision', accounting, heq, hchecked, happlied, hafter⟩
    · exact absurd rfl (hother committed decision)
    · obtain ⟨rfl, rfl, -⟩ := LinkAction.commit.inj heq
      obtain ⟨hlost, ack, snapshot, hack, hnewly, hdecode, hwindow, hfresh⟩ :=
        Stage.lost_of_not_spared hspared hchecked happlied hafter hkeeps
      have hafter_connection : (server.connections.set c current')[i]? =
          some ⟨input, .processing session frame stage⟩ := by
        rw [List.getElem?_set_ne hne]
        exact hconnection
      obtain ⟨steps, last, hsteps, hacknowledges⟩ := @lost_acknowledges options
        { world := world, connections := server.connections.set c current' } i input session frame
        stage ack hafter_connection hlost hack
      refine ⟨steps, last, hsteps, fun step hmem => ⟨hacknowledges.world step hmem,
        hacknowledges.own step hmem, hacknowledges.store step hmem⟩, fun h => ?_⟩
      obtain ⟨before, t, ack', rfl, hcode, hdisposition⟩ := hacknowledges.acknowledged
      obtain ⟨snapshot', hdecode', hcommitted⟩ := h
        (trace ++ (server, .worker c (.commit committed decision (.ok ()))) :: before) t i frame
        ack' true [] (by rw [List.append_assoc, List.cons_append]) (hcode.trans hnewly.code)
        (hdisposition.trans hnewly.disposition)
      obtain rfl := Except.ok.inj (hdecode.symm.trans hdecode')
      -- the window was committed neither before, nor by this commit, nor since
      obtain ⟨t', c', frame', decision', hmem, hnames⟩ := hcommitted
      rcases List.mem_append.mp hmem with hmem | hmem
      · have hpast := hle _ ⟨t', c', frame', decision', hmem, hnames⟩
        exact UInt64.not_le.mpr hfresh hpast
      · rcases List.mem_cons.mp hmem with heq' | hmem
        · obtain ⟨-, haction⟩ := LinkEvent.worker.inj (Prod.mk_inj.mp heq').2
          obtain ⟨-, rfl, -⟩ := LinkAction.commit.inj haction
          exact hwindow hnames.symm
        · exact hacknowledges.commitless _
            ⟨t', c', frame', decision', List.mem_append_left _ hmem, hnames⟩

end Worker

/-! ## Two publishers -/

/-- The server once the snapshot of the first publisher is staged. -/
def firstStaged (g : Governor) (hello header : FrameHeader) (snapshot : EvidenceSnapshot)
    (staged : Governor) : LinkServer :=
  (LinkServer.start g).staged (Session.issue (hello.sealed [])) header snapshot staged

/-- Two publishers have snapshots staged, and the second one is decided on. -/
def overtaking (options : LinkServerOptions) (g : Governor) (hello header : FrameHeader)
    (snapshot : EvidenceSnapshot) (staged : Governor) (hello' header' : FrameHeader)
    (snapshot' : EvidenceSnapshot) (both : Governor) (decision : FairnessDecision) :
    List (LinkServer × LinkEvent) :=
  let first := firstStaged g hello header snapshot staged
  submitting options (.start g) hello header snapshot ++
    submitting options first hello' header' snapshot' ++
    [(first.staged (Session.issue (hello'.sealed [])) header' snapshot' both,
      .worker 1 (.evaluate (evidenceFrame header' snapshot') (makeRequestFor staged snapshot')
        (.ok decision)))]

/-- The server when the second decision is about to be committed. -/
def secondDecided (g : Governor) (hello header : FrameHeader) (snapshot : EvidenceSnapshot)
    (staged : Governor) (hello' header' : FrameHeader) (snapshot' : EvidenceSnapshot)
    (both : Governor) (decision : FairnessDecision) : LinkServer :=
  let first := firstStaged g hello header snapshot staged
  LinkServer.joined { first with world := { first.world with governor := both } } []
    (.processing (Session.issue (hello'.sealed [])).advance (evidenceFrame header' snapshot')
      (.committing (stagedAck staged snapshot') decision))

section Overtaking

variable {hello header hello' header' : FrameHeader} {snapshot snapshot' : EvidenceSnapshot}
  {staged both committed : Governor} {decision : FairnessDecision}

lemma overtaking_run (hoptions : options.evaluateOnIngest = true)
    (hfirst : Submitted options g hello header snapshot staged)
    (hsecond : Submitted options staged hello' header' snapshot' both)
    (hdecision : both.evaluate (makeRequestFor staged snapshot') = .ok decision) :
    Run (LinkStep options) (.start g)
      (overtaking options g hello header snapshot staged hello' header' snapshot' both decision)
      (secondDecided g hello header snapshot staged hello' header' snapshot' both decision) := by
  have hrun := @Submitted.run options (.start g) hello header snapshot staged hoptions rfl hfirst
  have hrun' := @Submitted.run options (firstStaged g hello header snapshot staged) hello' header'
    snapshot' both hoptions rfl hsecond
  have hevaluate := @WorkerStep.evaluate options { governor := both } []
    (Session.issue (hello'.sealed [])).advance (evidenceFrame header' snapshot')
    (stagedAck staged snapshot') (makeRequestFor staged snapshot')
  rw [hdecision] at hevaluate
  exact (hrun.append hrun').snoc (@LinkServer.joined_step options
    { firstStaged g hello header snapshot staged with world := { governor := both } } _ _ _ _ _
    hevaluate)

lemma overtaking_steps
    (hcarry : ¬ CarryOverflows (both.context (makeRequestFor staged snapshot')) both.policy
      both.accounting) :
    ∀ step ∈ overtaking options g hello header snapshot staged hello' header' snapshot' both decision,
      step.2.Own ∧ StoreServes step.1 step.2 ∧ WindowMeets step.1 step.2 ∧
        step.1.world.governor ∈ [g, staged, both] := by
  intro step hstep
  rcases List.mem_append.mp hstep with hsubmitting | hevaluate
  · rcases List.mem_append.mp hsubmitting with hfirst | hsecond
    · have hcalm := submitting_calm step hfirst
      refine ⟨hcalm.own, hcalm.store, hcalm.meets, ?_⟩
      rw [hcalm.governor]
      exact List.mem_cons_self
    · have hcalm := submitting_calm step hsecond
      refine ⟨hcalm.own, hcalm.store, hcalm.meets, ?_⟩
      rw [hcalm.governor]
      exact List.mem_cons_of_mem _ List.mem_cons_self
  · obtain rfl := List.mem_singleton.mp hevaluate
    exact ⟨trivial, trivial, hcarry,
      List.mem_cons_of_mem _ (List.mem_cons_of_mem _ List.mem_cons_self)⟩

/-- When the second snapshot is of a later window, its commit takes the window of the first. -/
lemma overtaking_unkept {config : GovernorConfig} {boot : BootId}
    (hoptions : options.evaluateOnIngest = true) (hopens : Opens config boot g)
    (hfirst : Submitted options g hello header snapshot staged)
    (hsecond : Submitted options staged hello' header' snapshot' both)
    (hdecision : both.evaluate (makeRequestFor staged snapshot') = .ok decision)
    (hcommit : Step both (.commit decision (.ok ())) committed)
    (hcarry : ¬ CarryOverflows (both.context (makeRequestFor staged snapshot')) both.policy
      both.accounting)
    (hfresh : both.accounting.lastWindow.value < snapshot.window.value)
    (hlater : snapshot.window.value < snapshot'.window.value) :
    ∃ trace server, Run (LinkStep options) (.start g) trace server ∧
      (∀ step ∈ trace, step.2.Own ∧ StoreServes step.1 step.2 ∧
        step.1.world.governor ∈ [g, staged, both, committed]) ∧ ¬ KeepsWindows trace := by
  have hrun := @overtaking_run options g hello header hello' header' snapshot snapshot' staged both
    decision hoptions hfirst hsecond hdecision
  have hsteps := @overtaking_steps options g hello header hello' header' snapshot snapshot' staged
    both decision hcarry
  cases hcommit with
  | commit hreturns =>
    have hstep := @LinkServer.joined_call options
      { firstStaged g hello header snapshot staged with world := { governor := both } } _ _ _ _ _ _
      (@WorkerStep.commit options { governor := both } [] (Session.issue (hello'.sealed [])).advance
        (evidenceFrame header' snapshot') (stagedAck staged snapshot') decision _ _ hreturns)
    -- the later window is committed while the first worker still evaluates the earlier one
    have hspared : ¬ Stage.Spared both decision
        (.evaluating (stagedAck g snapshot) (makeRequestFor g snapshot)) := by
      intro hspared
      have hle := hspared hfresh
      rw [evaluate_authority hdecision] at hle
      exact UInt64.not_le.mpr hlater hle
    obtain ⟨steps, last, hmore, hall, hunkept⟩ := overtaken_unkept hoptions hopens hrun
      (fun step hmem => (hsteps step hmem).1) (fun step hmem => (hsteps step hmem).2.1)
      (fun step hmem => (hsteps step hmem).2.2.1) hstep (i := 0) rfl hspared
    refine ⟨_, last, hrun.append (.cons hstep hmore), ?_, hunkept⟩
    refine List.forall_mem_append.mpr ⟨fun step hmem => ?_, List.forall_mem_cons.mpr ⟨?_, ?_⟩⟩
    · obtain ⟨hown, hstore, -, hgovernor⟩ := hsteps step hmem
      exact ⟨hown, hstore, List.mem_append_left [committed] hgovernor⟩
    · exact ⟨trivial, fun _ _ => rfl, by simp [secondDecided, LinkServer.joined]⟩
    · intro step hmem
      obtain ⟨hworld, hown, hstore⟩ := hall step hmem
      refine ⟨hown, hstore, ?_⟩
      rw [hworld]
      simp [LinkServer.joined]

end Overtaking

lemma eq_ok_decisionOf {result : Eval FairnessDecision} (h : result.isOk = true) :
    result = .ok (decisionOf result) := by
  cases result with
  | error e => cases h
  | ok decision => rfl

/-- The second window. -/
def laterSnapshot : EvidenceSnapshot := { pairSnapshot with id := ⟨2⟩, window := ⟨2⟩ }

/-- A HELLO of another publisher. -/
def laterHello : FrameHeader := { sampleHello with publisher := ⟨10⟩ }

/-- The evidence frame of its session. -/
def laterEvidence : FrameHeader :=
  { laterHello with kind := .evidence, sessionId := sessionId (laterHello.sealed []), sequence := 1 }

/-- A governor with a store, once the first window is staged. -/
def storedFirst : Governor := ((storedGovernor pairPolicy).ingestEvidence pairSnapshot).2

/-- The governor once both windows are staged. -/
def storedBoth : Governor := (storedFirst.ingestEvidence laterSnapshot).2

/-- The decision about the second window. -/
def laterDecision : FairnessDecision :=
  decisionOf (storedBoth.evaluate (makeRequestFor storedFirst laterSnapshot))

/-- Its commit to the store. -/
def laterCommit : Except Status Unit × Governor :=
  (run handle (storedBoth.commit laterDecision) (firstOpening pairPolicy).2).1

/-- A commit that was run is a step. -/
lemma Step.commit_run {σ : Type} (fs : (op : FileOp) → σ → op.Resp × σ) (w : σ) (g : Governor)
    (decision : FairnessDecision) : Step g (.commit decision (run fs (g.commit decision) w).1.1)
      (run fs (g.commit decision) w).1.2 := .commit (returns_run _ _)

lemma laterCommit_step : Step storedBoth (.commit laterDecision (.ok ())) laterCommit.2 := by
  have hok : laterCommit.1 = .ok () := eq_ok_of_isOk (by decide +kernel)
  rw [← hok]
  unfold laterCommit
  exact .commit_run handle _ storedBoth laterDecision

lemma storedGovernors_below :
    ∀ governor ∈ [storedGovernor pairPolicy, storedFirst, storedBoth, laterCommit.2],
      BelowMaxima governor := by
  rw [List.forall_mem_cons, List.forall_mem_cons, List.forall_mem_cons, List.forall_mem_singleton]
  refine ⟨?_, ?_, ?_, ?_⟩ <;> exact .of_all (by decide +kernel) (by decide +kernel)

/-- What the option promises of a governor with a store that does not fail, and whose counters are
not at their maximum. -/
def Promised : Prop :=
  ∀ options config boot g trace server, options.evaluateOnIngest = true → g.store ≠ none →
    Opens config boot g → Run (LinkStep options) (LinkServer.start g) trace server →
    (∀ step ∈ trace, step.2.Own ∧ StoreServes step.1 step.2 ∧
      BelowMaxima step.1.world.governor) → KeepsWindows trace

/-- The window of the first publisher is overtaken: its snapshot is acknowledged as newly staged, and
no decision for its window is ever committed. -/
theorem not_acknowledged_committed : ¬ Promised := by
  intro h
  have hopened : (firstOpening pairPolicy).1.isOk = true := by decide +kernel
  have hopens : Opens (storeConfig pairPolicy) ⟨7⟩ (storedGovernor pairPolicy) :=
    storedGovernor_opens hopened
  have hstore : (storedGovernor pairPolicy).store.isSome = true := by decide +kernel
  -- two publishers submit; the later window is ingested before the first one is evaluated
  have hfirst : Submitted { evaluateOnIngest := true } (storedGovernor pairPolicy) sampleHello
      sampleEvidence pairSnapshot storedFirst :=
    ⟨by decide +kernel, ⟨rfl, by decide, by decide, by decide, by decide +kernel⟩, .inl rfl,
      ⟨.inl rfl, by decide +kernel, rfl⟩, ⟨rfl, rfl, by decide +kernel, rfl⟩,
      decodeEvidence_encodeEvidence (eq_ok_of_isOk (by decide +kernel)),
      ingestEvidence_staged (eq_ok_of_isOk (by decide +kernel)) (by decide +kernel)
        (eq_ok_of_isOk (by decide +kernel))⟩
  have hsecond : Submitted { evaluateOnIngest := true } storedFirst laterHello laterEvidence
      laterSnapshot storedBoth :=
    ⟨by decide +kernel, ⟨rfl, by decide, by decide, by decide, by decide +kernel⟩, .inl rfl,
      ⟨.inl rfl, by decide +kernel, rfl⟩, ⟨rfl, rfl, by decide +kernel, rfl⟩,
      decodeEvidence_encodeEvidence (eq_ok_of_isOk (by decide +kernel)),
      ingestEvidence_staged (eq_ok_of_isOk (by decide +kernel)) (by decide +kernel)
        (eq_ok_of_isOk (by decide +kernel))⟩
  have hdecision : storedBoth.evaluate (makeRequestFor storedFirst laterSnapshot) =
      .ok laterDecision := eq_ok_decisionOf (by decide +kernel)
  have hreachable : Reachable storedBoth :=
    Reachable.step (Reachable.step ⟨_, _, _, _, hopens, .nil⟩ (.ingest _ pairSnapshot))
      (.ingest _ laterSnapshot)
  have hempty : storedBoth.accounting.subjects.isEmpty = true := by decide +kernel
  -- the evaluation of the first window then fails only by an overflow of the carry
  have hcarry : ¬ CarryOverflows
      (storedBoth.context (makeRequestFor storedFirst laterSnapshot)) storedBoth.policy
      storedBoth.accounting := by
    refine hreachable.not_carryOverflows fun entry hentry => ?_
    rw [List.isEmpty_iff.mp hempty] at hentry
    cases hentry
  have hfresh : storedBoth.accounting.lastWindow.value < pairSnapshot.window.value := by
    decide +kernel
  obtain ⟨trace, server, hrun, hsteps, hunkept⟩ := overtaking_unkept rfl hopens hfirst hsecond
    hdecision laterCommit_step hcarry hfresh (by decide)
  refine hunkept (h _ _ _ _ trace server rfl ?_ hopens hrun fun step hmem => ?_)
  · intro hnone
    rw [hnone] at hstore
    cases hstore
  · obtain ⟨hown, hserves, hgovernor⟩ := hsteps step hmem
    exact ⟨hown, hserves, storedGovernors_below _ hgovernor⟩

end FairnessGovernor
