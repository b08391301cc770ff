/-
# Threads are joined, and shutdown is final

Every thread that was started stands in one place: in the registry, with the accept loop or a
call of `shutdown` that has to join it, or among those that were joined.  The stop flag is set
before the registry is emptied, and a thread is only registered while it is not set; so what a
call of `shutdown` finds in the registry is all that there will be.
-/
import FairnessGovernor.Link.Lifecycle

namespace FairnessGovernor

open Program Runs

/-! ## Where the threads are -/

/-- The finished workers that the accept loop has to join. -/
def AcceptLoop.finished : AcceptLoop → List ℕ
  | .joining finished => finished
  | _ => []

/-- The workers that a call of `shutdown` has to join. -/
def ShutdownCall.pending : ShutdownCall → List ℕ
  | .joining pending => pending
  | _ => []

/-- The workers that calls of `shutdown` have to join. -/
def LinkLife.pending (life : LinkLife) : List ℕ := life.calls.flatMap ShutdownCall.pending

/-- The threads that were started: those in the registry, those that somebody has to join, and
those that were joined. -/
def LinkLife.places (life : LinkLife) : List ℕ :=
  life.registry ++ life.loop.finished ++ life.pending ++ life.joined

/-- What holds of a server and its threads at any time. -/
structure LinkLife.Sound (life : LinkLife) : Prop where
  paired : life.threads.length = life.server.connections.length
  places : ∀ thread, life.places.count thread = if thread < life.threads.length then 1 else 0
  finished : ∀ thread ∈ life.loop.finished, life.threads[thread]? = some .done
  joined : ∀ thread ∈ life.joined, life.threads[thread]? = some .done
  stop : life.calls ≠ [] → life.stop = true
  drained : ∀ call ∈ life.calls, call ≠ .waiting → life.registry = []

section Calls

variable {calls : List ShutdownCall} {call : ShutdownCall} {k thread : ℕ}

/-- What a call holds is counted among what the calls hold. -/
lemma count_pending_set (h : calls[k]? = some call) (call' : ShutdownCall) :
    ((calls.set k call').flatMap ShutdownCall.pending).count thread + call.pending.count thread =
      (calls.flatMap ShutdownCall.pending).count thread + call'.pending.count thread := by
  induction calls generalizing k with
  | nil => simp at h
  | cons first rest ih =>
    cases k with
    | zero =>
      obtain rfl : first = call := by simpa using h
      simp only [List.set_cons_zero, List.flatMap_cons, List.count_append]
      omega
    | succ k =>
      have hrest := @ih k (by simpa using h)
      simp only [List.set_cons_succ, List.flatMap_cons, List.count_append]
      omega

end Calls

section Sound

variable {options : ServingOptions} {life life' : LinkLife} {event : LifeEvent} {thread : ℕ}

lemma count_places : life.places.count thread = life.registry.count thread +
    life.loop.finished.count thread + life.pending.count thread + life.joined.count thread := by
  simp only [LinkLife.places, List.count_append]

/-- A step of the accept loop that moves no thread. -/
lemma LinkLife.Sound.of_loop (h : life.Sound) {loop : AcceptLoop} {serving stopped : Bool}
    (hloop : life.loop.finished = loop.finished) :
    LinkLife.Sound { life with loop := loop, serving := serving, stopped := stopped } where
  paired := h.paired
  places := by
    intro thread
    have hplaces := h.places thread
    rw [count_places] at hplaces ⊢
    rwa [hloop] at hplaces
  finished := hloop ▸ h.finished
  joined := h.joined
  stop := h.stop
  drained := h.drained

/-- Taking elements out of a list moves each of them. -/
lemma count_filter_not (l : List ℕ) (p : ℕ → Bool) :
    (l.filter fun t => !p t).count thread + (l.filter p).count thread = l.count thread := by
  have hsplit := (List.filter_append_perm p l).count_eq thread
  rw [List.count_append] at hsplit
  omega

/-- The accept loop keeps the threads. -/
lemma LoopStep.sound (h : life.Sound) (hstep : LoopStep options life event life') :
    life'.Sound := by
  cases hstep with
  | serve hloop => exact h.of_loop (by rw [hloop]; rfl)
  | stop hloop =>
    refine h.of_loop ?_
    rcases hloop with hloop | hloop | hloop <;> (rw [hloop]; rfl)
  | «continue» hloop => exact h.of_loop (by rw [hloop]; rfl)
  | prune finished hloop hdone =>
    -- the registry is divided into what is joined and what stays
    refine ⟨h.paired, fun other => ?_, ?_, h.joined, h.stop, ?_⟩
    · have hplaces := h.places other
      have hsplit := @count_filter_not other life.registry finished
      simp only [count_places, LinkLife.pending, hloop, AcceptLoop.finished] at hplaces ⊢
      rw [← hplaces, ← hsplit]
      simp
    · intro other hother
      obtain ⟨hmem, hfinished⟩ := List.mem_filter.mp hother
      exact hdone other hmem hfinished
    · intro call hcall hwaiting
      show life.registry.filter _ = []
      rw [h.drained call hcall hwaiting, List.filter_nil]
  | @retire thread rest hloop hdone =>
    refine ⟨h.paired, fun other => ?_, ?_, ?_, h.stop, h.drained⟩
    · have hplaces := h.places other
      simp only [count_places, LinkLife.pending, hloop, AcceptLoop.finished, List.count_cons,
        List.count_append, List.count_nil] at hplaces ⊢
      omega
    · intro other hother
      exact h.finished other (by rw [hloop]; exact List.mem_cons_of_mem _ hother)
    · intro other hother
      rcases List.mem_append.mp hother with hother | hother
      · exact h.joined other hother
      · obtain rfl := List.mem_singleton.mp hother
        exact hdone
  | poll hloop => exact h.of_loop (by rw [hloop]; rfl)
  | quiet hloop => exact h.of_loop (by rw [hloop]; rfl)
  | accept hloop => exact h.of_loop (by rw [hloop]; rfl)
  | turnAway hloop => exact h.of_loop (by rw [hloop]; rfl)
  | budget hloop => exact h.of_loop (by rw [hloop]; rfl)
  | register hloop haccept =>
    cases haccept with
    | accept input hrunning =>
      have hnone : life.calls = [] := by
        by_contra hcalls
        have hstop := h.stop hcalls
        rw [LinkLife.stop, hrunning] at hstop
        cases hstop
      refine ⟨?_, fun other => ?_, ?_, ?_, fun hcalls => absurd hnone hcalls, ?_⟩
      · simp [h.paired]
      · have hplaces := h.places other
        simp only [count_places, LinkLife.pending, hloop, AcceptLoop.finished, List.count_cons,
          List.count_append, List.count_nil, List.length_append, List.length_singleton,
          beq_iff_eq] at hplaces ⊢
        split_ifs at hplaces ⊢ <;> omega
      · intro other hother
        cases hother
      · intro other hother
        have hdone := h.joined other hother
        rw [List.getElem?_append_left (List.getElem?_eq_some_iff.mp hdone).1]
        exact hdone
      · intro call hcall
        rw [hnone] at hcall
        cases hcall
  | leave hloop => exact h.of_loop (by rw [hloop]; rfl)
  | finish hloop => exact h.of_loop (by rw [hloop]; rfl)

/-- A thread that is not done leaves those that are as they are. -/
lemma done_of_set {threads : List Thread} {place place' : Thread} {other : ℕ}
    (hplace : threads[thread]? = some place) (hnot : place ≠ .done)
    (hother : threads[other]? = some .done) : (threads.set thread place')[other]? = some .done := by
  rw [List.getElem?_set_ne, hother]
  rintro rfl
  exact hnot (Option.some.inj (hplace.symm.trans hother))

/-- A step of a thread moves it nowhere. -/
lemma LinkLife.Sound.of_set (h : life.Sound) {place place' : Thread} {active : ℕ}
    (hplace : life.threads[thread]? = some place) (hnot : place ≠ .done) :
    LinkLife.Sound { life with threads := life.threads.set thread place', active := active } where
  paired := by
    show (life.threads.set _ _).length = _
    rw [List.length_set]
    exact h.paired
  places := by
    intro other
    show life.places.count other = if other < (life.threads.set _ _).length then 1 else 0
    rw [List.length_set]
    exact h.places other
  finished := fun other hother => done_of_set hplace hnot (h.finished other hother)
  joined := fun other hother => done_of_set hplace hnot (h.joined other hother)
  stop := h.stop
  drained := h.drained

/-- No step of a connection takes the stop flag back. -/
lemma LinkStep.stop {options : LinkServerOptions} {server server' : LinkServer} {event : LinkEvent}
    (hstep : LinkStep options server event server') (h : server.world.stop = true) :
    server'.world.stop = true := by
  cases hstep with
  | accept => exact h
  | requestStop => rfl
  | client => exact h
  | worker _ hworker =>
    cases hworker with
    | goodbye => exact Bool.or_eq_true_iff.mpr (.inl h)
    | _ => exact h

/-- A step of the server below that accepts nothing. -/
lemma LinkLife.Sound.of_server (h : life.Sound) {event : LinkEvent} {server : LinkServer}
    (hstep : LinkStep options.toLinkServerOptions life.server event server)
    (hlength : server.connections.length = life.server.connections.length) :
    LinkLife.Sound { life with server := server } where
  paired := h.paired.trans hlength.symm
  places := h.places
  finished := h.finished
  joined := h.joined
  stop := fun hcalls => hstep.stop (h.stop hcalls)
  drained := h.drained

/-- The threads of the connections keep their places. -/
lemma ThreadStep.sound (h : life.Sound) (hstep : ThreadStep options life event life') :
    life'.Sound := by
  cases hstep with
  | count hplace => exact h.of_set hplace (by simp)
  | work hplace hwork =>
    refine h.of_server hwork ?_
    cases hwork
    rw [List.length_set]
  | uncount hplace => exact h.of_set hplace (by simp)
  | done hplace => exact h.of_set hplace (by simp)

/-- A call of `shutdown` takes what is in the registry, and joins what it took. -/
lemma ShutdownStep.sound (h : life.Sound) (hstep : ShutdownStep life event life') :
    life'.Sound := by
  cases hstep with
  | call =>
    refine ⟨h.paired, fun other => ?_, h.finished, h.joined, fun _ => rfl, ?_⟩
    · have hplaces := h.places other
      simp only [count_places, LinkLife.pending, LinkLife.stopping, List.flatMap_append,
        List.flatMap_singleton, ShutdownCall.pending, List.append_nil] at hplaces ⊢
      exact hplaces
    · intro call hcall hwaiting
      rcases List.mem_append.mp hcall with hcall | hcall
      · exact h.drained call hcall hwaiting
      · exact absurd (List.mem_singleton.mp hcall) hwaiting
  | @drain call hcall =>
    refine ⟨h.paired, fun other => ?_, h.finished, h.joined, fun _ => h.stop ?_, fun _ _ _ => rfl⟩
    · have hplaces := h.places other
      have hmoved := @count_pending_set _ _ _ other hcall (.joining life.registry)
      simp only [count_places, LinkLife.pending, ShutdownCall.pending, List.count_nil]
        at hplaces hmoved ⊢
      omega
    · rintro hnone
      rw [hnone] at hcall
      cases hcall
  | @join call thread rest hcall hdone =>
    refine ⟨h.paired, fun other => ?_, h.finished, ?_, fun _ => h.stop ?_, ?_⟩
    · have hplaces := h.places other
      have hmoved := @count_pending_set _ _ _ other hcall (.joining rest)
      simp only [count_places, LinkLife.pending, ShutdownCall.pending, List.count_cons,
        List.count_append, List.count_nil] at hplaces hmoved ⊢
      omega
    · intro other hother
      rcases List.mem_append.mp hother with hother | hother
      · exact h.joined other hother
      · obtain rfl := List.mem_singleton.mp hother
        exact hdone
    · rintro hnone
      rw [hnone] at hcall
      cases hcall
    · intro _ _ _
      exact h.drained _ (List.mem_of_getElem? hcall) (by simp)
  | @return_ call hcall =>
    refine ⟨h.paired, fun other => ?_, h.finished, h.joined, fun _ => h.stop ?_, ?_⟩
    · have hplaces := h.places other
      have hmoved := @count_pending_set _ _ _ other hcall .returned
      simp only [count_places, LinkLife.pending, ShutdownCall.pending, List.count_nil]
        at hplaces hmoved ⊢
      omega
    · rintro hnone
      rw [hnone] at hcall
      cases hcall
    · intro _ _ _
      exact h.drained _ (List.mem_of_getElem? hcall) (by simp)

/-- What holds at any time is kept by every step. -/
lemma LifeStep.sound (h : life.Sound) (hstep : LifeStep options life event life') :
    life'.Sound := by
  cases hstep with
  | loop hloop => exact hloop.sound h
  | thread hthread => exact hthread.sound h
  | shutdown hshutdown => exact hshutdown.sound h
  | requestStop => exact ⟨h.paired, h.places, h.finished, h.joined, fun _ => rfl, h.drained⟩
  | client hclient =>
    refine h.of_server hclient ?_
    cases hclient
    rfl

/-! ## Nothing is lost -/

/-- The thread that an event joins. -/
def LifeEvent.joins : LifeEvent → List ℕ
  | .retired thread | .joined _ thread => [thread]
  | _ => []

/-- The threads that were joined in a run, in order. -/
def joinedIn (trace : List (LinkLife × LifeEvent)) : List ℕ :=
  trace.flatMap fun step => step.2.joins

/-- An event of a thread that serves, or of one that is about to. -/
def LifeEvent.Serves : LifeEvent → Prop
  | .accepted | .counted _ | .work _ _ | .uncounted _ | .done _ => True
  | _ => False

variable {g : Governor} {trace trace' : List (LinkLife × LifeEvent)} {later : LinkLife}

/-- What is joined is what an event joins. -/
lemma LifeStep.joins (hstep : LifeStep options life event life') :
    life'.joined = life.joined ++ event.joins := by
  cases hstep with
  | loop hloop => cases hloop <;> simp [LifeEvent.joins]
  | thread hthread => cases hthread <;> simp [LifeEvent.joins]
  | shutdown hshutdown => cases hshutdown <;> simp [LifeEvent.joins, LinkLife.stopping]
  | requestStop => simp [LifeEvent.joins, LinkLife.stopping]
  | client => simp [LifeEvent.joins]

lemma run_lifeSound (hrun : Run (LifeStep options) (.start g) trace life) :
    life.Sound ∧ life.joined = joinedIn trace := by
  induction hrun with
  | nil =>
    refine ⟨⟨rfl, fun _ => rfl, ?_, ?_, fun h => absurd rfl h, fun _ _ _ => rfl⟩, rfl⟩
    · intro thread hthread
      cases hthread
    · intro thread hthread
      cases hthread
  | snoc _ hstep ih =>
    refine ⟨hstep.sound ih.1, ?_⟩
    rw [hstep.joins, ih.2]
    simp [joinedIn]

/-- The places of the threads hold each thread once. -/
lemma LinkLife.Sound.perm (h : life.Sound) :
    life.places.Perm (List.range life.threads.length) := by
  rw [List.perm_iff_count]
  intro thread
  rw [h.places thread, List.count_range]

/-- However the accept loop, the threads and any number of calls of `shutdown` interleave, every
thread that was started is in the registry, or one of those who join threads has it to join, or
it was joined, and it is only one of these; a thread that was joined is done.  So no thread is
lost, none is joined twice, and nobody joins a thread that still serves. -/
theorem threads_kept (hrun : Run (LifeStep options) (.start g) trace life) :
    (life.registry ++ life.loop.finished ++ life.pending ++ joinedIn trace).Perm
        (List.range life.threads.length) ∧
      (joinedIn trace).Nodup ∧
      ∀ thread ∈ joinedIn trace, life.threads[thread]? = some .done := by
  obtain ⟨hsound, hjoined⟩ := run_lifeSound hrun
  have hperm := hsound.perm
  rw [LinkLife.places, hjoined] at hperm
  refine ⟨hperm, ?_, hjoined ▸ hsound.joined⟩
  exact (List.nodup_append.mp (hperm.nodup_iff.mpr List.nodup_range)).2.1

/-! ## Nothing serves after shutdown -/

/-- No thread serves, and none can be started. -/
structure LinkLife.Quiet (life : LinkLife) : Prop where
  stop : life.stop = true
  registry : life.registry = []
  done : ∀ place ∈ life.threads, place = .done

/-- A step leaves a quiet server quiet: no thread of it does anything. -/
lemma LinkLife.Quiet.step (h : life.Quiet) (hstep : LifeStep options life event life') :
    life'.Quiet ∧ life'.threads = life.threads ∧
      life'.server.connections = life.server.connections ∧ ¬ event.Serves := by
  cases hstep with
  | loop hloop =>
    cases hloop with
    | register _ haccept =>
      -- the stop flag keeps the loop from registering a connection
      cases haccept with
      | accept _ hrunning =>
        have hstop := h.stop
        rw [LinkLife.stop, hrunning] at hstop
        cases hstop
    | prune finished =>
      refine ⟨⟨h.stop, ?_, h.done⟩, rfl, rfl, id⟩
      show life.registry.filter _ = []
      rw [h.registry, List.filter_nil]
    | _ => exact ⟨⟨h.stop, h.registry, h.done⟩, rfl, rfl, id⟩
  | thread hthread =>
    cases hthread with
    | count hplace => cases h.done _ (List.mem_of_getElem? hplace)
    | work hplace => cases h.done _ (List.mem_of_getElem? hplace)
    | uncount hplace => cases h.done _ (List.mem_of_getElem? hplace)
    | done hplace => cases h.done _ (List.mem_of_getElem? hplace)
  | shutdown hshutdown =>
    cases hshutdown with
    | call => exact ⟨⟨rfl, h.registry, h.done⟩, rfl, rfl, id⟩
    | drain => exact ⟨⟨h.stop, rfl, h.done⟩, rfl, rfl, id⟩
    | join => exact ⟨⟨h.stop, h.registry, h.done⟩, rfl, rfl, id⟩
    | return_ => exact ⟨⟨h.stop, h.registry, h.done⟩, rfl, rfl, id⟩
  | requestStop => exact ⟨⟨rfl, h.registry, h.done⟩, rfl, rfl, id⟩
  | client hclient =>
    refine ⟨⟨hclient.stop h.stop, h.registry, h.done⟩, rfl, ?_, id⟩
    cases hclient
    rfl

/-- What was returned holds nothing. -/
lemma pending_eq_nil (h : ∀ call ∈ life.calls, call = .returned) : life.pending = [] := by
  refine List.flatMap_eq_nil_iff.mpr fun call hcall => ?_
  rw [h call hcall]
  rfl

/-- A server is quiet when a call of `shutdown` has returned and none is under way. -/
lemma LinkLife.Sound.quiet (h : life.Sound) (hreturned : .returned ∈ life.calls)
    (hall : ∀ call ∈ life.calls, call = .returned) : life.Quiet := by
  have hregistry := h.drained _ hreturned (by simp)
  refine ⟨h.stop (List.ne_nil_of_mem hreturned), hregistry, fun place hplace => ?_⟩
  obtain ⟨thread, hlt, rfl⟩ := List.getElem_of_mem hplace
  -- a thread that nobody has to join is done
  have hmem : thread ∈ life.places := h.perm.mem_iff.mpr (List.mem_range.mpr hlt)
  rw [LinkLife.places, hregistry, pending_eq_nil hall] at hmem
  have hdone : life.threads[thread]? = some .done := by
    rcases List.mem_append.mp hmem with hmem | hmem
    · exact h.finished thread (by simpa using hmem)
    · exact h.joined thread hmem
  rw [List.getElem?_eq_getElem hlt] at hdone
  exact Option.some.inj hdone

/-- Once a call of `shutdown` has returned and no other is under way, no thread of the server
serves and none is ever started again, so nothing calls the governor on behalf of a connection:
every thread is done, and each was joined once or waits for the accept loop to join it. -/
theorem shutdown_final (hrun : Run (LifeStep options) (.start g) trace life)
    (hreturned : .returned ∈ life.calls) (hall : ∀ call ∈ life.calls, call = .returned) :
    (∀ place ∈ life.threads, place = .done) ∧
      (life.loop.finished ++ joinedIn trace).Perm (List.range life.threads.length) ∧
      ∀ trace' later, Run (LifeStep options) life trace' later →
        later.threads = life.threads ∧
          later.server.connections = life.server.connections ∧
          ∀ step ∈ trace', ¬ step.2.Serves := by
  obtain ⟨hsound, hjoined⟩ := run_lifeSound hrun
  have hquiet := hsound.quiet hreturned hall
  refine ⟨hquiet.done, ?_, fun trace' later hlater => ?_⟩
  · have hperm := hsound.perm
    rw [LinkLife.places, hquiet.registry, pending_eq_nil hall, hjoined, List.nil_append,
      List.append_nil] at hperm
    exact hperm
  · have hkept : later.Quiet ∧ later.threads = life.threads ∧
        later.server.connections = life.server.connections ∧ ∀ step ∈ trace', ¬ step.2.Serves := by
      clear hrun
      induction hlater with
      | nil => exact ⟨hquiet, rfl, rfl, by simp⟩
      | snoc _ hstep ih =>
        obtain ⟨hbefore, hthreads, hconnections, hsteps⟩ := ih
        obtain ⟨hafter, hthreads', hconnections', hevent⟩ := hbefore.step hstep
        refine ⟨hafter, hthreads'.trans hthreads, hconnections'.trans hconnections, ?_⟩
        intro step hmem
        rcases List.mem_append.mp hmem with hmem | hmem
        · exact hsteps step hmem
        · obtain rfl := List.mem_singleton.mp hmem
          exact hevent
    exact hkept.2

/-! ## Connections that are accepted -/

/-- One more connection was accepted. -/
def LinkLife.took (life : LinkLife) (input : ByteBuffer) : LinkLife :=
  { life with
    server := { life.server with
      connections := life.server.connections ++ [⟨input, .handshake⟩] }
    threads := life.threads ++ [.created]
    registry := life.registry ++ [life.threads.length]
    loop := .top }

/-- The events of a round of the accept loop that accepts a connection. -/
def round : List LifeEvent := [.loop, .loop, .loop, .loop, .loop, .accepted]

/-- A connection that comes while the budget is not exhausted is accepted. -/
lemma round_run (life : LinkLife) (input : ByteBuffer) (hloop : life.loop = .top)
    (hstop : life.stop = false) (hbudget : life.active < options.maxConnections.toNat) :
    ∃ trace, Run (LifeStep options) life trace (life.took input) ∧
      trace.map Prod.snd = round ∧ ∀ step ∈ trace, step.1.threads = life.threads := by
  -- nothing is retired on the way
  have hkeep : life.registry.filter (fun _ => !false) = life.registry := by simp
  have hnone : life.registry.filter (fun _ => false) = [] := by simp
  have hprune : LifeStep options { life with loop := .pruning } .loop
      { life with loop := .joining [] } := by
    have hstep := @LoopStep.prune options { life with loop := .pruning } (fun _ => false) rfl
      (by simp)
    simp only [hkeep, hnone] at hstep
    exact .loop hstep
  have hregister : LifeStep options { life with loop := .registering } .accepted
      (life.took input) := .loop (.register rfl (.accept input hstop))
  exact ⟨_, .cons (.loop (.continue hloop hstop)) (.cons hprune (.cons (.loop (.poll rfl))
    (.cons (.loop (.accept rfl hstop)) (.cons (.loop (.budget rfl hbudget))
    (.cons hregister .nil))))), rfl, by simp⟩

/-- A server that serves and has taken one connection. -/
def LinkLife.single (g : Governor) (phase : Phase) (thread : Thread) (active : ℕ) : LinkLife :=
  { server := { world := { governor := g }, connections := [⟨[], phase⟩] }
    threads := [thread]
    registry := [0]
    active := active
    loop := .top
    serving := true }

/-- The same server while it is shut down. -/
def LinkLife.shutting (g : Governor) (call : ShutdownCall) (registry joined : List ℕ)
    (stopped : Bool) : LinkLife :=
  { server := { world := { governor := g, stop := true }, connections := [⟨[], .closed⟩] }
    threads := [.done]
    registry := registry
    loop := .top
    serving := true
    stopped := stopped
    calls := [call]
    joined := joined }

/-- A server takes one connection and is shut down. -/
lemma shutDown_run (g : Governor) : ∃ trace, Run (LifeStep {}) (.start g) trace
    (.shutting g .returned [] [0] true) ∧ joinedIn trace = [0] := by
  obtain ⟨trace, hround, hevents, -⟩ := @round_run {}
    { LinkLife.start g with loop := .top, serving := true } [] rfl rfl
    (show 0 < (4 : UInt32).toNat by decide)
  have hserve : LifeStep {} (.start g) .serve { LinkLife.start g with loop := .top, serving := true } :=
    .loop (.serve rfl)
  have hcount : LifeStep {} (.single g .handshake .created 0) (.counted 0)
      (.single g .handshake .serving 1) := .thread (.count rfl)
  have hcut : LifeStep {} (.single g .handshake .serving 1)
      (.work 0 (.readFailed ⟨.linkClosed, "peer closed the link between frames"⟩))
      (.single g .closed .serving 1) :=
    .thread (.work rfl (.worker rfl (.cutOff _ (.inl rfl))))
  have huncount : LifeStep {} (.single g .closed .serving 1) (.uncounted 0)
      (.single g .closed .uncounted 0) := .thread (.uncount rfl rfl)
  have hdone : LifeStep {} (.single g .closed .uncounted 0) (.done 0)
      (.single g .closed .done 0) := .thread (.done rfl)
  have hcall : LifeStep {} (.single g .closed .done 0) .shutdown
      (.shutting g .waiting [0] [] false) := .shutdown .call
  have hdrain : LifeStep {} (.shutting g .waiting [0] [] false) (.drained 0)
      (.shutting g (.joining [0]) [] [] false) := .shutdown (.drain rfl)
  have hjoin : LifeStep {} (.shutting g (.joining [0]) [] [] false) (.joined 0 0)
      (.shutting g (.joining []) [] [0] false) := .shutdown (.join rfl rfl)
  have hreturn : LifeStep {} (.shutting g (.joining []) [] [0] false) (.returned 0)
      (.shutting g .returned [] [0] true) := .shutdown (.return_ rfl)
  have hend := Run.cons hcount (.cons hcut (.cons huncount (.cons hdone (.cons hcall
    (.cons hdrain (.cons hjoin (.cons hreturn .nil)))))))
  refine ⟨_, .cons hserve (hround.append hend), ?_⟩
  have hquiet : joinedIn trace = [] := by
    have hjoins : joinedIn trace = (trace.map Prod.snd).flatMap LifeEvent.joins := by
      rw [List.flatMap_map]
      rfl
    rw [hjoins, hevents]
    rfl
  simp only [joinedIn, List.flatMap_cons, List.flatMap_append] at hquiet ⊢
  rw [hquiet]
  rfl

/-- The thread of a connection is joined when its server is shut down. -/
theorem threads_kept_sample : ∃ trace life,
    Run (LifeStep {}) (.start (memoryGovernor pairPolicy)) trace life ∧ joinedIn trace = [0] ∧
      (life.registry ++ life.loop.finished ++ life.pending ++ joinedIn trace).Perm [0] := by
  obtain ⟨trace, hrun, hjoined⟩ := shutDown_run (memoryGovernor pairPolicy)
  exact ⟨trace, _, hrun, hjoined, (threads_kept hrun).1⟩

/-- Nothing serves after that. -/
theorem shutdown_final_sample : ∃ trace life, Run (LifeStep {})
      (.start (memoryGovernor pairPolicy)) trace life ∧ life.threads = [.done] ∧
    ∀ trace' later, Run (LifeStep {}) life trace' later → ∀ step ∈ trace', ¬ step.2.Serves := by
  obtain ⟨trace, hrun, -⟩ := shutDown_run (memoryGovernor pairPolicy)
  have hfinal := shutdown_final hrun (List.mem_singleton.mpr rfl) (by simp [LinkLife.shutting])
  exact ⟨trace, _, hrun, rfl, fun trace' later hlater => (hfinal.2.2 trace' later hlater).2.2⟩

end Sound

end FairnessGovernor
