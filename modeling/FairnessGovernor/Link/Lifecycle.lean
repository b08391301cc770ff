/-
# The accept loop, the workers and shutdown

The thread that serves accepts connections and starts a thread for each; the threads stand in a
registry until they are joined, by the accept loop that retires the finished ones or by a call of
`shutdown`.  A critical section of the registry is one step.  The wait of `shutdown` for the
accept loop is bounded, so it may end at any time.
-/
import FairnessGovernor.Link.ServerSpec

namespace FairnessGovernor

open Program Runs

/-! ## Threads -/

/-- What the server reads of its options when it starts and when it accepts. -/
structure ServingOptions extends LinkServerOptions where
  maxConnections : UInt32 := 4

/-- The checks of `start` on its options. -/
def ServingOptions.check (options : ServingOptions) : Except Status Unit := do
  rejectIf (options.maxPayload = 0 ∨ options.maxPayload > kMaxFramePayloadBytes) .outOfRange
    "max payload is outside the permitted range"
  rejectIf (options.maxConnections = 0 ∨ options.maxConnections > 64) .outOfRange
    "max connections is outside the permitted range"

/-- Where the thread of a connection is: about to count itself among the active workers, in
`serve_connection`, out of it and no longer counted, or done. -/
inductive Thread
  | created
  | serving
  | uncounted
  | done
deriving DecidableEq

/-- Where the accept loop is.  `joining` holds the finished workers that `prune_workers` took out
of the registry, and `registering` has a connection within the budget. -/
inductive AcceptLoop
  | out
  | top
  | pruning
  | joining (finished : List ℕ)
  | polling
  | budgeting
  | registering
  | leaving
  | left

/-- Where a call of `shutdown` is: waiting for the accept loop, joining the workers that it took
out of the registry, or back. -/
inductive ShutdownCall
  | waiting
  | joining (pending : List ℕ)
  | returned

/-- A server with its threads: thread `i` serves connection `i`.  `joined` lists the threads that
were joined; nothing below reads it. -/
structure LinkLife where
  server : LinkServer
  threads : List Thread := []
  registry : List ℕ := []
  active : ℕ := 0
  loop : AcceptLoop := .out
  serving : Bool := false
  stopped : Bool := false
  calls : List ShutdownCall := []
  joined : List ℕ := []

/-- What happens in the life of a server. -/
inductive LifeEvent
  | serve
  | loop
  | retired (thread : ℕ)
  | accepted
  | turnedAway
  | counted (thread : ℕ)
  | work (thread : ℕ) (action : LinkAction)
  | uncounted (thread : ℕ)
  | done (thread : ℕ)
  | stopRequested
  | shutdown
  | drained (call : ℕ)
  | joined (call thread : ℕ)
  | returned (call : ℕ)
  | client (event : Event)

namespace LinkLife

variable (life : LinkLife)

/-- `stop`. -/
def stop : Bool := life.server.world.stop

/-- The stop flag is set. -/
def stopping : LinkLife :=
  { life with server := { life.server with world := { life.server.world with stop := true } } }

end LinkLife

/-- A step of the accept loop. -/
inductive LoopStep (options : ServingOptions) : LinkLife → LifeEvent → LinkLife → Prop
  | serve {life : LinkLife} : life.loop = .out →
      LoopStep options life .serve { life with loop := .top, serving := true }
  | stop {life : LinkLife} :
      life.loop = .top ∨ life.loop = .polling ∨ life.loop = .registering → life.stop = true →
      LoopStep options life .loop { life with loop := .leaving }
  | «continue» {life : LinkLife} : life.loop = .top → life.stop = false →
      LoopStep options life .loop { life with loop := .pruning }
  /-- `prune_workers` takes finished workers out of the registry. -/
  | prune {life : LinkLife} (finished : ℕ → Bool) : life.loop = .pruning →
      (∀ thread ∈ life.registry, finished thread = true → life.threads[thread]? = some .done) →
      LoopStep options life .loop { life with
        loop := .joining (life.registry.filter finished)
        registry := life.registry.filter fun thread => !finished thread }
  | retire {life : LinkLife} {thread : ℕ} {rest : List ℕ} : life.loop = .joining (thread :: rest) →
      life.threads[thread]? = some .done →
      LoopStep options life (.retired thread)
        { life with loop := .joining rest, joined := life.joined ++ [thread] }
  | poll {life : LinkLife} : life.loop = .joining [] →
      LoopStep options life .loop { life with loop := .polling }
  /-- Nothing came, or it could not be accepted. -/
  | quiet {life : LinkLife} : life.loop = .polling → life.stop = false →
      LoopStep options life .loop { life with loop := .top }
  | accept {life : LinkLife} : life.loop = .polling → life.stop = false →
      LoopStep options life .loop { life with loop := .budgeting }
  | turnAway {life : LinkLife} : life.loop = .budgeting →
      options.maxConnections.toNat ≤ life.active →
      LoopStep options life .turnedAway { life with loop := .top }
  | budget {life : LinkLife} : life.loop = .budgeting →
      life.active < options.maxConnections.toNat →
      LoopStep options life .loop { life with loop := .registering }
  | register {life : LinkLife} {server : LinkServer} : life.loop = .registering →
      LinkStep options.toLinkServerOptions life.server .accepted server →
      LoopStep options life .accepted { life with
        server := server
        threads := life.threads ++ [.created]
        registry := life.registry ++ [life.threads.length]
        loop := .top }
  | leave {life : LinkLife} : life.loop = .leaving →
      LoopStep options life .loop { life with loop := .left, serving := false }
  | finish {life : LinkLife} : life.loop = .left →
      LoopStep options life .loop { life with loop := .out, stopped := true }

/-- A step of the thread of a connection. -/
inductive ThreadStep (options : ServingOptions) : LinkLife → LifeEvent → LinkLife → Prop
  | count {life : LinkLife} {thread : ℕ} : life.threads[thread]? = some .created →
      ThreadStep options life (.counted thread)
        { life with threads := life.threads.set thread .serving, active := life.active + 1 }
  | work {life : LinkLife} {thread : ℕ} {action : LinkAction} {server : LinkServer} :
      life.threads[thread]? = some .serving →
      LinkStep options.toLinkServerOptions life.server (.worker thread action) server →
      ThreadStep options life (.work thread action) { life with server := server }
  | uncount {life : LinkLife} {thread : ℕ} {input : ByteBuffer} :
      life.threads[thread]? = some .serving →
      life.server.connections[thread]? = some ⟨input, .closed⟩ →
      ThreadStep options life (.uncounted thread)
        { life with threads := life.threads.set thread .uncounted, active := life.active - 1 }
  | done {life : LinkLife} {thread : ℕ} : life.threads[thread]? = some .uncounted →
      ThreadStep options life (.done thread)
        { life with threads := life.threads.set thread .done }

/-- A step of a call of `shutdown`. -/
inductive ShutdownStep : LinkLife → LifeEvent → LinkLife → Prop
  | call {life : LinkLife} :
      ShutdownStep life .shutdown { life.stopping with calls := life.calls ++ [.waiting] }
  | drain {life : LinkLife} {call : ℕ} : life.calls[call]? = some .waiting →
      ShutdownStep life (.drained call) { life with
        calls := life.calls.set call (.joining life.registry)
        registry := [] }
  | join {life : LinkLife} {call thread : ℕ} {rest : List ℕ} :
      life.calls[call]? = some (.joining (thread :: rest)) →
      life.threads[thread]? = some .done →
      ShutdownStep life (.joined call thread) { life with
        calls := life.calls.set call (.joining rest)
        joined := life.joined ++ [thread] }
  | return_ {life : LinkLife} {call : ℕ} : life.calls[call]? = some (.joining []) →
      ShutdownStep life (.returned call)
        { life with calls := life.calls.set call .returned, stopped := true }

/-- One step in the life of a server. -/
inductive LifeStep (options : ServingOptions) : LinkLife → LifeEvent → LinkLife → Prop
  | loop {life life' : LinkLife} {event : LifeEvent} :
      LoopStep options life event life' → LifeStep options life event life'
  | thread {life life' : LinkLife} {event : LifeEvent} :
      ThreadStep options life event life' → LifeStep options life event life'
  | shutdown {life life' : LinkLife} {event : LifeEvent} :
      ShutdownStep life event life' → LifeStep options life event life'
  | requestStop {life : LinkLife} : LifeStep options life .stopRequested life.stopping
  | client {life : LinkLife} {event : Event} {server : LinkServer} :
      LinkStep options.toLinkServerOptions life.server (.client event) server →
      LifeStep options life (.client event) { life with server := server }

/-- A server that was started and does not serve yet. -/
def LinkLife.start (g : Governor) : LinkLife := { server := .start g }

end FairnessGovernor
