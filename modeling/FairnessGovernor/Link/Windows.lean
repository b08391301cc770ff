/-
# Windows of acknowledged snapshots

With `evaluateOnIngest` a worker stages a snapshot, evaluates it and commits the decision, in
three calls of the governor, and acknowledges the snapshot whatever became of the last two.
Between them another worker may commit: a later window closes this one for good, and any window
makes a decision that was already taken stale.  As long as no commit does either of this to a
worker that can still commit, every acknowledged window is committed.
-/
import FairnessGovernor.Governor.Carry
import FairnessGovernor.Governor.Effect
import FairnessGovernor.Link.ServerSpec
import FairnessGovernor.Persist.RoundTrips

namespace FairnessGovernor

open Program Runs

variable {options : LinkServerOptions} {server server' : LinkServer} {event : LinkEvent}
  {trace more : List (LinkServer × LinkEvent)} {g g' : Governor}

/-! ## The promise -/

/-- A decision for the window was committed. -/
def CommittedIn (trace : List (LinkServer × LinkEvent)) (window : ServiceWindowId) : Prop :=
  ∃ t c frame decision, (t, .worker c (.commit frame decision (.ok ()))) ∈ trace ∧
    decision.authority.window = window

/-- Before a snapshot is acknowledged as newly staged, a decision for its window was committed. -/
def KeepsWindows (trace : List (LinkServer × LinkEvent)) : Prop :=
  ∀ before t c frame ack sent after,
    trace = before ++ (t, .worker c (.acknowledged frame ack sent)) :: after →
    ack.code = .ok → ack.disposition = 0 →
    ∃ snapshot, decodeEvidence frame.payload = .ok snapshot ∧ CommittedIn before snapshot.window

/-- The store takes what a commit hands to it. -/
def StoreServes (server : LinkServer) : LinkEvent → Prop
  | .worker _ (.commit _ decision result) =>
    server.world.governor.checkDecision decision = .ok () →
      (server.world.governor.applyDecision decision).isOk = true → result = .ok ()
  | _ => True

/-- A commit of the decision leaves a worker its window: what is still to be evaluated is not of
an earlier window, and what was decided is of the same window, if a commit would take it now. -/
def Stage.Spared (g : Governor) (decision : FairnessDecision) : Stage → Prop
  | .evaluating _ request => g.accounting.lastWindow.value < request.window.value →
    decision.authority.window.value ≤ request.window.value
  | .committing _ other => g.checkDecision other = .ok () →
    other.authority.window = decision.authority.window
  | _ => True

/-- The counters have room for what is evaluated and committed, and a commit leaves the other
workers their windows. -/
def WindowMeets (server : LinkServer) : LinkEvent → Prop
  | .worker _ (.evaluate _ request _) => ¬ CarryOverflows (server.world.governor.context request)
    server.world.governor.policy server.world.governor.accounting
  | .worker _ (.commit _ decision _) =>
    server.world.governor.checkDecision decision = .ok () →
      HasRoom server.world.governor decision ∧
      ∀ (i : ℕ) (connection : Connection) session frame stage,
        server.connections[i]? = some connection →
        connection.phase = .processing session frame stage →
        stage.Spared server.world.governor decision
  | _ => True

/-! ## What a worker is about to commit -/

lemma CommittedIn.append {window : ServiceWindowId} (h : CommittedIn trace window) :
    CommittedIn (trace ++ more) window := by
  obtain ⟨t, c, frame, decision, hmem, hwindow⟩ := h
  exact ⟨t, c, frame, decision, List.mem_append_left _ hmem, hwindow⟩

/-- Only snapshots were staged in between. -/
def OnlyIngested (g g' : Governor) : Prop :=
  ∃ staged ingested sequences,
    g' = { g with staged := staged, ingested := ingested, publisherSequences := sequences }

lemma OnlyIngested.refl (g : Governor) : OnlyIngested g g := ⟨_, _, _, rfl⟩

lemma OnlyIngested.trans {g'' : Governor} (h : OnlyIngested g g') (h' : OnlyIngested g' g'') :
    OnlyIngested g g'' := by
  obtain ⟨_, _, _, rfl⟩ := h
  obtain ⟨staged, ingested, sequences, rfl⟩ := h'
  exact ⟨staged, ingested, sequences, rfl⟩

/-- A commit checks nothing of what was ingested. -/
lemma OnlyIngested.checked (h : OnlyIngested g g') {decision : FairnessDecision}
    (hchecked : Checked g decision) : Checked g' decision := by
  obtain ⟨_, _, _, rfl⟩ := h
  have hcheck : g.checkDecision decision = .ok () := checkDecision_eq_ok.mpr hchecked
  exact checkDecision_eq_ok.mp hcheck

lemma OnlyIngested.lastWindow (h : OnlyIngested g g') :
    g'.accounting.lastWindow = g.accounting.lastWindow := by
  obtain ⟨_, _, _, rfl⟩ := h
  rfl

/-- The governor's own decision, which a commit would take. -/
def Current (g : Governor) (decision : FairnessDecision) : Prop :=
  ∃ g₀ request, OnlyIngested g₀ g ∧ Sound g₀ ∧ g₀.evaluate request = .ok decision ∧
    Checked g₀ decision

lemma Current.ingested {decision : FairnessDecision} (h : Current g decision)
    (hingested : OnlyIngested g g') : Current g' decision := by
  obtain ⟨g₀, request, hbefore, hsound, hevaluated, hchecked⟩ := h
  exact ⟨g₀, request, hbefore.trans hingested, hsound, hevaluated, hchecked⟩

lemma Current.checked {decision : FairnessDecision} (h : Current g decision) :
    Checked g decision := by
  obtain ⟨g₀, request, hbefore, -, -, hchecked⟩ := h
  exact hbefore.checked hchecked

/-- Where the counters have room such a decision can be applied. -/
lemma Current.applies {decision : FairnessDecision} (h : Current g decision)
    (hroom : HasRoom g decision) : (g.applyDecision decision).isOk = true := by
  obtain ⟨g₀, request, ⟨_, _, _, rfl⟩, hsound, hevaluated, -⟩ := h
  obtain ⟨accounting, happly⟩ := applyDecision_ok hsound hevaluated
    ⟨hroom.generation, hroom.entries⟩
  have hsame : g₀.applyDecision decision = .ok accounting := happly
  show (g₀.applyDecision decision).isOk = true
  rw [hsame]
  rfl

/-- The request asks for the window of the snapshot. -/
structure AsksFor (request : EvaluationRequest) (snapshot : EvidenceSnapshot) : Prop where
  window : request.window = snapshot.window
  windowGeneration : request.windowGeneration = snapshot.windowGeneration

/-- The acknowledgement of a newly staged snapshot. -/
structure EvidenceAck.Newly (ack : EvidenceAck) : Prop where
  code : ack.code = .ok
  disposition : ack.disposition = 0

/-- What is known at a stage of the window that the payload is about: once its snapshot is staged,
the window was committed or a commit would still take it. -/
def Stage.Keeps (trace : List (LinkServer × LinkEvent)) (g : Governor) (payload : ByteBuffer) :
    Stage → Prop
  | .decoded decode => decode = decodeEvidence payload
  | .requesting snapshot _ => decodeEvidence payload = .ok snapshot
  | .ingesting snapshot _ request =>
    decodeEvidence payload = .ok snapshot ∧ AsksFor request snapshot
  | .evaluating ack request => ack.Newly ∧ ∃ snapshot, decodeEvidence payload = .ok snapshot ∧
    AsksFor request snapshot ∧ (CommittedIn trace snapshot.window ∨
      g.accounting.lastWindow.value < snapshot.window.value)
  | .committing ack decision => ack.Newly ∧ ∃ snapshot, decodeEvidence payload = .ok snapshot ∧
    decision.authority.window = snapshot.window ∧
    (CommittedIn trace snapshot.window ∨ Current g decision)
  | .finishing ack | .replying ack => ack.Newly →
    ∃ snapshot, decodeEvidence payload = .ok snapshot ∧ CommittedIn trace snapshot.window

/-! ## One step -/

lemma ingestEvidence_refuses (g : Governor) (snapshot : EvidenceSnapshot) :
    Refuses (g.ingestEvidence snapshot).1 :=
  (Governor.ingestEvidence_failsWith g snapshot).refuses (by decide)

/-- A snapshot that is accepted is of a window above the last committed one. -/
lemma window_of_ingested {snapshot : EvidenceSnapshot} {result : IngestResult}
    (h : (g.ingestEvidence snapshot).1 = .ok result) :
    g.accounting.lastWindow.value < snapshot.window.value := by
  have hcheck : g.checkSnapshot snapshot = .ok () := by
    unfold Governor.ingestEvidence at h
    cases hsnapshot : g.checkSnapshot snapshot with
    | error e =>
      rw [hsnapshot] at h
      cases h
    | ok _ => rfl
  obtain ⟨hvalid, hcheck⟩ := bind_unit_eq_ok.mp hcheck
  simp only [rejectIf_bind_eq_ok, rejectIf_eq_ok, not_and, UInt64.not_le] at hcheck
  obtain ⟨-, -, -, hfresh⟩ := hcheck
  by_cases hlast : g.accounting.lastWindow.valid
  · exact hfresh hlast
  · have hzero : g.accounting.lastWindow.value = 0 := not_not.mp hlast
    rw [hzero]
    exact UInt64.pos_iff_ne_zero.mpr (ValidEvidence.of_ok hvalid).window_valid

/-- Staging changes nothing that a commit checks. -/
lemma ingestEvidence_onlyIngested (g : Governor) (snapshot : EvidenceSnapshot) :
    OnlyIngested g (g.ingestEvidence snapshot).2 := by
  rcases g.ingestEvidence_cases snapshot with h | ⟨-, -, h⟩
  · rw [h]
    exact .refl g
  · rw [h]
    exact ⟨_, _, _, rfl⟩

section Others

variable {stage : Stage} {payload : ByteBuffer}

/-- A step that stages at most leaves a worker what it is about to commit. -/
lemma Stage.Keeps.ingested (h : stage.Keeps trace g payload) (hingested : OnlyIngested g g') :
    stage.Keeps (trace ++ more) g' payload := by
  cases stage with
  | decoded | requesting | ingesting => exact h
  | evaluating ack request =>
    obtain ⟨hack, snapshot, hdecode, hasks, hwindow⟩ := h
    refine ⟨hack, snapshot, hdecode, hasks, hwindow.imp CommittedIn.append fun hfresh => ?_⟩
    rw [hingested.lastWindow]
    exact hfresh
  | committing ack decision =>
    obtain ⟨hack, snapshot, hdecode, hasks, hwindow⟩ := h
    exact ⟨hack, snapshot, hdecode, hasks,
      hwindow.imp CommittedIn.append fun hcurrent => hcurrent.ingested hingested⟩
  | finishing | replying =>
    intro hack
    obtain ⟨snapshot, hdecode, hcommitted⟩ := h hack
    exact ⟨snapshot, hdecode, hcommitted.append⟩

/-- A commit leaves a worker it spares its window. -/
lemma Stage.Keeps.committed {decision : FairnessDecision} {accounting : FairnessAccounting}
    (h : stage.Keeps trace g payload) (hspared : stage.Spared g decision)
    (happlied : Applied g decision accounting) (hlast : g'.accounting = accounting)
    (hmore : CommittedIn more decision.authority.window) :
    stage.Keeps (trace ++ more) g' payload := by
  have hcommitted : CommittedIn (trace ++ more) decision.authority.window := by
    obtain ⟨t, c, frame, other, hmem, hwindow⟩ := hmore
    exact ⟨t, c, frame, other, List.mem_append_right _ hmem, hwindow⟩
  have hwindow : g'.accounting.lastWindow = decision.authority.window := by
    rw [hlast]
    exact happlied.lastWindow
  cases stage with
  | decoded | requesting | ingesting => exact h
  | evaluating ack request =>
    obtain ⟨hack, snapshot, hdecode, hasks, hkept⟩ := h
    refine ⟨hack, snapshot, hdecode, hasks, ?_⟩
    rcases hkept with hkept | hfresh
    · exact .inl hkept.append
    · -- the commit is of the same window or of an earlier one
      rw [← hasks.window] at hfresh ⊢
      by_cases hsame : request.window = decision.authority.window
      · rw [hsame]
        exact .inl hcommitted
      · right
        rw [hwindow]
        exact UInt64.lt_of_le_of_ne (hspared hfresh) fun heq => hsame (Id.ext heq.symm)
  | committing ack other =>
    obtain ⟨hack, snapshot, hdecode, hnames, hkept⟩ := h
    refine ⟨hack, snapshot, hdecode, hnames, .inl ?_⟩
    rcases hkept with hkept | hcurrent
    · exact hkept.append
    · rw [← hnames, hspared (checkDecision_eq_ok.mpr hcurrent.checked)]
      exact hcommitted
  | finishing | replying =>
    intro hack
    obtain ⟨snapshot, hdecode, hkept⟩ := h hack
    exact ⟨snapshot, hdecode, hkept.append⟩

end Others

/-- The request of a staged snapshot is decided on, and a commit would take the decision unless
the window was committed already. -/
lemma evaluate_current {request : EvaluationRequest} {decision : FairnessDecision}
    {snapshot : EvidenceSnapshot} (hg : Sound g) (h : g.evaluate request = .ok decision)
    (hasks : AsksFor request snapshot) (hvalid : validateEvidence snapshot = .ok ())
    (hfresh : g.accounting.lastWindow.value < snapshot.window.value) : Current g decision := by
  have hevidence := ValidEvidence.of_ok hvalid
  have hcommittable : Committable g request := by
    refine ⟨?_, ?_, fun _ => ?_⟩
    · rw [hasks.window]
      exact hevidence.window_valid
    · rw [hasks.windowGeneration]
      exact hevidence.windowGeneration_valid
    · rw [hasks.window]
      exact hfresh
  exact ⟨g, request, .refl g, hg, h, (evaluate_checked_iff hg h).mpr hcommittable⟩

section Own

variable {connection connection' : Connection} {action : LinkAction} {world' : LinkWorld} {c : ℕ}

/-- What is known of the frame that a worker is at, it carries along with its own steps. -/
lemma WorkerStep.keeps (hoptions : options.evaluateOnIngest = true)
    (hstep : WorkerStep options server.world connection action world' connection')
    (hreachable : Reachable server.world.governor)
    (hrunning : server.world.governor.stopping = false)
    (hstore : StoreServes server (.worker c action))
    (hmeets : WindowMeets server (.worker c action))
    (hkeeps : ∀ session frame stage, connection.phase = .processing session frame stage →
      stage.Keeps trace server.world.governor frame.payload)
    {session : Session} {frame : InboundFrame} {stage : Stage}
    (hphase : connection'.phase = .processing session frame stage) :
    stage.Keeps (trace ++ [(server, .worker c action)]) world'.governor frame.payload := by
  cases hstep with
  | takeEvidence =>
    cases hphase
    exact rfl
  | @readGeneration _ _ _ decode =>
    cases hphase
    have hdecode : decode = decodeEvidence frame.payload := hkeeps _ _ _ rfl
    cases decode with
    | error e =>
      intro hack
      exact absurd hack.code (decodeEvidence_refuses frame.payload e hdecode.symm)
    | ok snapshot => exact hdecode.symm
  | makeRequest =>
    cases hphase
    have hdecode := hkeeps _ _ _ rfl
    exact ⟨hdecode, rfl, rfl⟩
  | @ingest _ _ _ snapshot ack request =>
    cases hphase
    obtain ⟨hdecode, hasks⟩ := hkeeps _ _ _ rfl
    cases hresult : (server.world.governor.ingestEvidence snapshot).1 with
    | error e =>
      intro hack
      exact absurd hack.code (ingestEvidence_refuses _ snapshot e hresult)
    | ok ingested =>
      cases hdisposition : ingested.disposition with
      | staged =>
        rw [afterIngest_staged hoptions hdisposition]
        refine ⟨⟨rfl, rfl⟩, snapshot, hdecode, hasks, .inr ?_⟩
        rw [(ingestEvidence_onlyIngested _ snapshot).lastWindow]
        exact window_of_ingested hresult
      | duplicateIgnored =>
        rw [afterIngest_duplicate hdisposition]
        intro hack
        have hone : (1 : UInt8) = 0 := hack.disposition
        exact absurd hone (by decide)
  | @evaluate _ _ _ ack request =>
    cases hphase
    obtain ⟨hack, snapshot, hdecode, hasks, hkept⟩ := hkeeps _ _ _ rfl
    obtain ⟨decision, hdecision⟩ := hreachable.evaluate_ok hrunning hmeets
    rw [hdecision]
    refine ⟨hack, snapshot, hdecode, ?_, hkept.imp CommittedIn.append fun hfresh => ?_⟩
    · rw [evaluate_authority hdecision]
      exact hasks.window
    · exact evaluate_current hreachable.sound hdecision hasks
        (validateEvidence_of_decode hdecode) hfresh
  | @commit _ _ _ ack decision result g hreturns =>
    cases hphase
    obtain ⟨hack, snapshot, hdecode, hnames, hkept⟩ := hkeeps _ _ _ rfl
    intro _
    refine ⟨snapshot, hdecode, ?_⟩
    rcases hkept with hkept | hcurrent
    · exact hkept.append
    · -- nothing is left that could fail
      have hcheck := checkDecision_eq_ok.mpr hcurrent.checked
      obtain rfl : result = .ok () := hstore hcheck (hcurrent.applies (hmeets hcheck).1)
      exact ⟨server, c, frame, decision, List.mem_append_right _ (List.mem_singleton_self _), hnames⟩
  | finish =>
    cases hphase
    have hkept := hkeeps _ _ _ rfl
    intro hack
    obtain ⟨snapshot, hdecode, hcommitted⟩ := hkept ⟨hack.code, hack.disposition⟩
    exact ⟨snapshot, hdecode, hcommitted.append⟩
  | welcome sent => cases sent <;> cases hphase
  | reply sent => cases sent <;> cases hphase
  | _ => cases hphase

/-- A worker stages at most, or it commits a decision that passed its checks. -/
lemma WorkerStep.serves
    (hstep : WorkerStep options server.world connection action world' connection') :
    (OnlyIngested server.world.governor world'.governor ∧
        ∀ frame decision, action ≠ .commit frame decision (.ok ())) ∨
      ∃ frame decision accounting, action = .commit frame decision (.ok ()) ∧
        Checked server.world.governor decision ∧
        Applied server.world.governor decision accounting ∧
        world'.governor.accounting = accounting := by
  cases hstep with
  | ingest => exact .inl ⟨ingestEvidence_onlyIngested _ _, fun _ _ h => by cases h⟩
  | @commit _ _ frame _ decision result _ hreturns =>
    rcases Governor.commit_returns hreturns with
      ⟨e, rfl, rfl⟩ | ⟨rfl, hcheck, accounting, _, happly, rfl⟩
    · exact .inl ⟨.refl _, fun _ _ h => by cases h⟩
    · exact .inr ⟨frame, decision, accounting, rfl, checkDecision_eq_ok.mp hcheck,
        applyDecision_eq_ok happly, rfl⟩
  | _ => exact .inl ⟨.refl _, fun _ _ h => by cases h⟩

end Own

/-! ## Runs -/

/-- What holds after a run that meets the condition. -/
structure Kept (trace : List (LinkServer × LinkEvent)) (server : LinkServer) : Prop where
  reachable : Reachable server.world.governor
  running : server.world.governor.stopping = false
  stages : ∀ (i : ℕ) (connection : Connection) session frame stage,
    server.connections[i]? = some connection →
    connection.phase = .processing session frame stage →
    stage.Keeps trace server.world.governor frame.payload

lemma Reachable.step {e : Event} (h : Reachable g) (hstep : Step g e g') : Reachable g' := by
  obtain ⟨config, boot, start, trace, hopens, hrun⟩ := h
  exact ⟨config, boot, start, _, hopens, hrun.snoc hstep⟩

/-- The workers leave the governor reachable, and they do not shut it down. -/
lemma WorkerStep.reachable {world world' : LinkWorld} {connection connection' : Connection}
    {action : LinkAction} (hstep : WorkerStep options world connection action world' connection')
    (h : Reachable world.governor) :
    Reachable world'.governor ∧ world'.governor.stopping = world.governor.stopping := by
  cases hstep with
  | @ingest _ _ _ snapshot =>
    refine ⟨h.step (.ingest _ snapshot), ?_⟩
    obtain ⟨_, _, _, heq⟩ := ingestEvidence_onlyIngested world.governor snapshot
    rw [heq]
  | commit hreturns =>
    refine ⟨h.step (.commit hreturns), ?_⟩
    rcases Governor.commit_returns hreturns with ⟨_, -, rfl⟩ | ⟨-, -, _, _, -, rfl⟩
    · rfl
    · rfl
  | _ => exact ⟨h, rfl⟩

lemma Kept.step (hoptions : options.evaluateOnIngest = true) (h : Kept trace server)
    (hstep : LinkStep options server event server') (hown : event.Own)
    (hstore : StoreServes server event) (hmeets : WindowMeets server event) :
    Kept (trace ++ [(server, event)]) server' := by
  obtain ⟨hreachable, hrunning⟩ : Reachable server'.world.governor ∧
      server'.world.governor.stopping = false := by
    cases hstep with
    | accept | requestStop => exact ⟨h.reachable, h.running⟩
    | client => exact hown.elim
    | worker _ hworker =>
      obtain ⟨hreachable, hstopping⟩ := hworker.reachable h.reachable
      exact ⟨hreachable, hstopping.trans h.running⟩
  refine ⟨hreachable, hrunning, fun i connection session frame stage hi hphase => ?_⟩
  cases hstep.connected hi with
  | accepted _ _ hhandshake =>
    rw [hhandshake] at hphase
    cases hphase
  | @stepped _ current hevent hcurrent hworker =>
    subst hevent
    exact hworker.keeps hoptions h.reachable h.running hstore hmeets
      (fun session frame stage => h.stages i current session frame stage hcurrent) hphase
  | kept _ hsame =>
    have hkeeps := h.stages i connection session frame stage hsame hphase
    cases hstep with
    | accept | requestStop => exact hkeeps.ingested (.refl _)
    | client => exact hown.elim
    | @worker index _ _ _ _ _ hworker =>
      -- another worker's commit leaves the stage alone where it spares it
      rcases hworker.serves with ⟨hingested, -⟩ |
        ⟨committed, decision, accounting, rfl, hchecked, happlied, haccounting⟩
      · exact hkeeps.ingested hingested
      · have hspared := (hmeets (checkDecision_eq_ok.mpr hchecked)).2
          i connection session frame stage hsame hphase
        exact hkeeps.committed hspared happlied haccounting
          ⟨server, index, committed, decision, List.mem_singleton_self _, rfl⟩

variable {config : GovernorConfig} {boot : BootId}

lemma run_kept (hoptions : options.evaluateOnIngest = true) (hopens : Opens config boot g)
    (hrun : Run (LinkStep options) (LinkServer.start g) trace server)
    (hown : ∀ step ∈ trace, step.2.Own) (hstore : ∀ step ∈ trace, StoreServes step.1 step.2)
    (hmeets : ∀ step ∈ trace, WindowMeets step.1 step.2) : Kept trace server := by
  induction hrun with
  | nil =>
    refine ⟨⟨config, boot, g, [], hopens, .nil⟩, hopens.booted.1.not_stopping, ?_⟩
    intro i connection session frame stage hi
    cases hi
  | @snoc trace t u e hrun hstep ih =>
    have hkept := ih (fun step hmem => hown step (List.mem_append_left _ hmem))
      (fun step hmem => hstore step (List.mem_append_left _ hmem))
      (fun step hmem => hmeets step (List.mem_append_left _ hmem))
    have hlast : (t, e) ∈ trace ++ [(t, e)] := List.mem_append_right _ (List.mem_singleton_self _)
    exact hkept.step hoptions hstep (hown _ hlast) (hstore _ hlast) (hmeets _ hlast)

/-- In every interleaving of the workers over a governor whose store does not fail: as long as the
counters have room and no commit takes another worker's window, every snapshot that is acknowledged
as newly staged has a committed decision. -/
theorem acknowledged_committed (hoptions : options.evaluateOnIngest = true)
    (hopens : Opens config boot g)
    (hrun : Run (LinkStep options) (LinkServer.start g) trace server)
    (hown : ∀ step ∈ trace, step.2.Own) (hstore : ∀ step ∈ trace, StoreServes step.1 step.2)
    (hmeets : ∀ step ∈ trace, WindowMeets step.1 step.2) : KeepsWindows trace := by
  rintro before t c frame ack sent after rfl hcode hdisposition
  obtain ⟨t', hbefore, hstep, -⟩ := hrun.split
  have hkept := run_kept hoptions hopens hbefore
    (fun step hmem => hown step (List.mem_append_left _ hmem))
    (fun step hmem => hstore step (List.mem_append_left _ hmem))
    (fun step hmem => hmeets step (List.mem_append_left _ hmem))
  cases hstep with
  | worker hconnection hworker =>
    cases hworker with
    | reply => exact hkept.stages c _ _ _ _ hconnection rfl ⟨hcode, hdisposition⟩

/-! ## One publisher -/

/-- A step that neither evaluates nor commits, at a governor. -/
structure CalmAt (g : Governor) (step : LinkServer × LinkEvent) : Prop where
  governor : step.1.world.governor = g
  own : step.2.Own
  store : StoreServes step.1 step.2
  meets : WindowMeets step.1 step.2

lemma opening_calm {hello : FrameHeader} {rest : ByteBuffer} :
    ∀ step ∈ opening options server hello rest, CalmAt server.world.governor step := by
  unfold opening
  simp only [List.forall_mem_cons, List.not_mem_nil, false_implies, implies_true, and_true]
  refine ⟨?_, ?_, ?_, ?_, ?_⟩ <;> exact ⟨rfl, trivial, trivial, trivial⟩

lemma staging_calm {session : Session} {header : FrameHeader} {snapshot : EvidenceSnapshot}
    {result : IngestResult} :
    ∀ step ∈ staging server session header snapshot result, CalmAt server.world.governor step := by
  unfold staging
  simp only [List.forall_mem_cons, List.not_mem_nil, false_implies, implies_true, and_true]
  refine ⟨?_, ?_, ?_, ?_⟩ <;> exact ⟨rfl, trivial, trivial, trivial⟩

/-- A snapshot that passes its checks and is not known is staged. -/
lemma ingestEvidence_staged {snapshot : EvidenceSnapshot}
    (hsnapshot : g.checkSnapshot snapshot = .ok ())
    (hnew : g.ingested[Governor.ingestKey snapshot]? = none)
    (horder : g.checkOrder snapshot = .ok ()) :
    g.ingestEvidence snapshot =
      (.ok (ingestResult .staged snapshot), (g.ingestEvidence snapshot).2) := by
  unfold Governor.ingestEvidence
  rw [hsnapshot]
  dsimp only
  rw [hnew]
  dsimp only
  rw [horder]

/-- How a worker decides on the window of a snapshot it has staged, and acknowledges it. -/
def deciding (server : LinkServer) (session : Session) (frame : InboundFrame) (ack : EvidenceAck)
    (request : EvaluationRequest) (decision : FairnessDecision) (g : Governor) :
    List (LinkServer × LinkEvent) :=
  let at_ := fun (g : Governor) stage =>
    LinkServer.joined { server with world := { server.world with governor := g } } []
      (.processing session frame stage)
  let ack' := { ack with accountingGeneration := g.accounting.generation }
  let index := server.connections.length
  [(at_ server.world.governor (.evaluating ack request),
      .worker index (.evaluate frame request (.ok decision))),
    (at_ server.world.governor (.committing ack decision),
      .worker index (.commit frame decision (.ok ()))),
    (at_ g (.finishing ack), .worker index .internal),
    (at_ g (.replying ack'), .worker index (.acknowledged frame ack' true))]

lemma deciding_run {session : Session} {frame : InboundFrame} {ack : EvidenceAck}
    {request : EvaluationRequest} {decision : FairnessDecision}
    (hdecision : server.world.governor.evaluate request = .ok decision)
    (hcommit : Returns (server.world.governor.commit decision) (.ok (), g)) :
    Run (LinkStep options) (server.joined [] (.processing session frame (.evaluating ack request)))
      (deciding server session frame ack request decision g)
      (LinkServer.joined { server with world := { server.world with governor := g } } []
        (.serving session)) := by
  have hevaluate := @WorkerStep.evaluate options server.world [] session frame ack request
  rw [hdecision] at hevaluate
  refine .cons (LinkServer.joined_step hevaluate) (.cons (LinkServer.joined_call (.commit hcommit))
    (.cons ?_ (.cons ?_ .nil)))
  · exact LinkServer.joined_step .finish
  · exact LinkServer.joined_step (.reply true)

/-- How a new peer has a snapshot staged. -/
def submitting (options : LinkServerOptions) (server : LinkServer) (hello header : FrameHeader)
    (snapshot : EvidenceSnapshot) : List (LinkServer × LinkEvent) :=
  opening options server hello (encodeFrame header (encodeEvidence snapshot)) ++
    staging server (Session.issue (hello.sealed [])) header snapshot (ingestResult .staged snapshot)

/-- What that takes of the peer and the governor. -/
structure Submitted (options : LinkServerOptions) (g : Governor) (hello header : FrameHeader)
    (snapshot : EvidenceSnapshot) (staged : Governor) : Prop where
  running : g.stopping = false
  greets : Greets hello g.epoch
  flags : AcceptedFlags hello.flags
  frame : IsFrameOf (encodeFrame header (encodeEvidence snapshot)) options.maxPayload header
    (encodeEvidence snapshot)
  evidence : IsEvidence header (sessionId (hello.sealed [])) g.epoch 1
  decodes : decodeEvidence (encodeEvidence snapshot) = .ok snapshot
  ingested : g.ingestEvidence snapshot = (.ok (ingestResult .staged snapshot), staged)

section Submitted

variable {hello header : FrameHeader} {snapshot : EvidenceSnapshot}
  {decision : FairnessDecision} {staged committed : Governor}

lemma Submitted.run (hoptions : options.evaluateOnIngest = true)
    (hstop : server.world.stop = false)
    (h : Submitted options server.world.governor hello header snapshot staged) :
    Run (LinkStep options) server (submitting options server hello header snapshot)
      (server.staged (Session.issue (hello.sealed [])) header snapshot staged) :=
  (opening_run h.greets h.flags hstop h.running).append
    (staging_run hoptions h.frame h.evidence.kind h.evidence.session h.evidence.epoch
      h.evidence.sequence h.decodes h.ingested rfl)

lemma submitting_calm :
    ∀ step ∈ submitting options server hello header snapshot, CalmAt server.world.governor step := by
  intro step hstep
  rcases List.mem_append.mp hstep with hopening | hstaging
  · exact opening_calm step hopening
  · exact staging_calm step hstaging

/-- One publisher has a snapshot staged, decided on and acknowledged. -/
def publishing (options : LinkServerOptions) (g : Governor) (hello header : FrameHeader)
    (snapshot : EvidenceSnapshot) (staged : Governor) (decision : FairnessDecision)
    (committed : Governor) : List (LinkServer × LinkEvent) :=
  submitting options (.start g) hello header snapshot ++
    deciding (.start staged) (Session.issue (hello.sealed [])).advance
      (evidenceFrame header snapshot) (stagedAck g snapshot) (makeRequestFor g snapshot) decision
      committed

lemma publishing_run (hoptions : options.evaluateOnIngest = true)
    (h : Submitted options g hello header snapshot staged)
    (hdecision : staged.evaluate (makeRequestFor g snapshot) = .ok decision)
    (hcommit : Step staged (.commit decision (.ok ())) committed) :
    ∃ last, Run (LinkStep options) (.start g)
      (publishing options g hello header snapshot staged decision committed) last := by
  have hsubmitting := @Submitted.run options (.start g) hello header snapshot staged hoptions rfl h
  cases hcommit with
  | commit hreturns =>
    have hdeciding := @deciding_run options (.start staged) committed
      (Session.issue (hello.sealed [])).advance (evidenceFrame header snapshot)
      (stagedAck g snapshot) (makeRequestFor g snapshot) decision hdecision hreturns
    exact ⟨_, hsubmitting.append hdeciding⟩

/-- A worker that is alone meets the condition while the counters have room. -/
lemma deciding_meets {session : Session} {frame : InboundFrame} {ack : EvidenceAck}
    {request : EvaluationRequest} {decision : FairnessDecision} {staged : Governor}
    (hcarry : ¬ CarryOverflows (staged.context request) staged.policy staged.accounting)
    (hroom : HasRoom staged decision) :
    ∀ step ∈ deciding (.start staged) session frame ack request decision g,
      step.2.Own ∧ StoreServes step.1 step.2 ∧ WindowMeets step.1 step.2 := by
  unfold deciding
  simp only [List.forall_mem_cons, List.not_mem_nil, false_implies, implies_true, and_true]
  refine ⟨⟨trivial, trivial, hcarry⟩, ⟨trivial, fun _ _ => rfl, fun _ => ⟨hroom, ?_⟩⟩,
    ⟨trivial, trivial, trivial⟩, ⟨trivial, trivial, trivial⟩⟩
  -- the worker that commits is the only one
  intro i connection session' frame' stage hconnection hphase
  have hsingle : connection ∈
      [Connection.mk [] (.processing session frame (.committing ack decision))] :=
    List.mem_of_getElem? hconnection
  obtain rfl := List.mem_singleton.mp hsingle
  cases hphase
  exact fun _ => rfl

lemma publishing_meets
    (hcarry : ¬ CarryOverflows (staged.context (makeRequestFor g snapshot)) staged.policy
      staged.accounting) (hroom : HasRoom staged decision) :
    ∀ step ∈ publishing options g hello header snapshot staged decision committed,
      step.2.Own ∧ StoreServes step.1 step.2 ∧ WindowMeets step.1 step.2 := by
  intro step hstep
  rcases List.mem_append.mp hstep with hsubmitting | hdeciding
  · have hcalm := submitting_calm step hsubmitting
    exact ⟨hcalm.own, hcalm.store, hcalm.meets⟩
  · exact deciding_meets hcarry hroom step hdeciding

/-- Its snapshot is acknowledged as newly staged. -/
lemma publishing_acknowledged : ∃ t frame ack,
    (t, LinkEvent.worker 0 (.acknowledged frame ack true)) ∈
      publishing options g hello header snapshot staged decision committed ∧ ack.Newly := by
  refine ⟨_, _, _, List.mem_append_right _ (List.mem_cons_of_mem _ (List.mem_cons_of_mem _
    (List.mem_cons_of_mem _ List.mem_cons_self))), ?_⟩
  exact ⟨rfl, rfl⟩

end Submitted

/-- The first window of one publisher. -/
theorem acknowledged_committed_sample :
    ∃ trace, (∃ t frame ack, (t, LinkEvent.worker 0 (.acknowledged frame ack true)) ∈ trace ∧
      ack.Newly) ∧ KeepsWindows trace := by
  have hopens : Opens (memoryConfig pairPolicy) ⟨7⟩ (memoryGovernor pairPolicy) :=
    memoryGovernor_opens (eq_ok_of_isOk (by decide +kernel))
  have hreachable : Reachable stagedGovernor :=
    Reachable.step ⟨_, _, _, _, hopens, .nil⟩ (Step.ingest _ pairSnapshot)
  have hsubmitted : Submitted { evaluateOnIngest := true } (memoryGovernor pairPolicy) sampleHello
      sampleEvidence pairSnapshot stagedGovernor :=
    ⟨rfl, ⟨rfl, by decide, by decide, by decide, rfl⟩, .inl rfl, ⟨.inl rfl, by decide +kernel, rfl⟩,
      ⟨rfl, rfl, rfl, rfl⟩, decodeEvidence_encodeEvidence (eq_ok_of_isOk (by decide +kernel)),
      ingestEvidence_staged (eq_ok_of_isOk (by decide +kernel)) (by decide +kernel)
        (eq_ok_of_isOk (by decide +kernel))⟩
  have hcommitted := Step.committedTo stagedGovernor firstDecision
  rw [firstDecision_committed] at hcommitted
  obtain ⟨last, hrun⟩ := publishing_run rfl hsubmitted firstDecision_evaluated hcommitted
  have hcarry : ¬ CarryOverflows (stagedGovernor.context pairRequest) stagedGovernor.policy
      stagedGovernor.accounting := by
    refine hreachable.not_carryOverflows fun entry hentry => ?_
    rw [stagedGovernor_books.1] at hentry
    cases hentry
  have hmeets := @publishing_meets { evaluateOnIngest := true } (memoryGovernor pairPolicy)
    sampleHello sampleEvidence pairSnapshot firstDecision stagedGovernor
    (committedTo stagedGovernor firstDecision).2 hcarry firstDecision_hasRoom
  exact ⟨_, publishing_acknowledged, acknowledged_committed rfl hopens hrun
    (fun step hstep => (hmeets step hstep).1) (fun step hstep => (hmeets step hstep).2.1)
    (fun step hstep => (hmeets step hstep).2.2)⟩

end FairnessGovernor
