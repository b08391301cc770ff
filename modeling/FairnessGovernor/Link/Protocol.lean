/-
# The protocol of a connection

What a peer may count on, as an automaton over the actions of one worker: a HELLO is heard, a
session is opened, and then evidence is taken frame by frame, numbered from one, each frame
handed to the governor at most once; an end is final.  The workers of the server follow it,
whatever the peers send and whatever else happens to the governor.
-/
import FairnessGovernor.Link.Server

namespace FairnessGovernor

open Runs

/-! ## The automaton -/

/-- A HELLO that may be accepted while `live` is the epoch. -/
structure Greets (hello : FrameHeader) (live : FabricEpoch) : Prop where
  kind : hello.kind = .hello
  publisher : hello.publisher.valid
  boot : hello.publisherBoot.valid
  ordinal : hello.publisherOrdinal ≠ 0
  epoch : hello.epoch = live

/-- The frame of the `n`-th evidence payload of a session, taken while `live` is the epoch. -/
structure IsEvidence (header : FrameHeader) (session : UInt64) (live : FabricEpoch) (n : ℕ) :
    Prop where
  kind : header.kind = .evidence
  session : header.sessionId = session
  epoch : header.epoch = live
  sequence : header.sequence = UInt64.ofNat n

/-- What has become of the last evidence frame. -/
inductive Pending
  | settled
  | taken (frame : InboundFrame)
  | ingested (frame : InboundFrame)
  | decided (frame : InboundFrame)

/-- How far a connection has come. -/
inductive Progress
  | fresh
  | greeted (hello : FrameHeader)
  | serving (hello : FrameHeader) (taken : ℕ) (pending : Pending)
  | over

/-- The actions after which a connection is over. -/
def LinkAction.Ends : LinkAction → Prop
  | .refused _ | .goodbye _ | .readFailed _ | .stopped => True
  | .welcomed _ sent | .acknowledged _ _ sent => sent = false
  | _ => False

/-- What a connection may do next. -/
inductive Progress.Step : Progress → LinkAction → Progress → Prop
  | greet {hello : FrameHeader} {live : FabricEpoch} :
      Greets hello live → Step .fresh (.greeted hello live) (.greeted hello)
  | openSession {hello : FrameHeader} :
      Step (.greeted hello) (.opened hello (sessionId hello)) (.serving hello 0 .settled)
  | welcome {hello : FrameHeader} {n : ℕ} {pending : Pending} {ack : HelloAck} :
      Step (.serving hello n pending) (.welcomed ack true) (.serving hello n pending)
  | internal {hello : FrameHeader} {n : ℕ} {pending : Pending} :
      Step (.serving hello n pending) .internal (.serving hello n pending)
  | evidence {hello : FrameHeader} {n : ℕ} {pending : Pending} {frame : InboundFrame}
      {live : FabricEpoch} : IsEvidence frame.header (sessionId hello) live (n + 1) →
      Step (.serving hello n pending) (.evidence frame live)
        (.serving hello (n + 1) (.taken frame))
  | ingest {hello : FrameHeader} {n : ℕ} {frame : InboundFrame} {snapshot : EvidenceSnapshot}
      {result : Except Status IngestResult} : decodeEvidence frame.payload = .ok snapshot →
      Step (.serving hello n (.taken frame)) (.ingest frame snapshot result)
        (.serving hello n (.ingested frame))
  | evaluate {hello : FrameHeader} {n : ℕ} {frame : InboundFrame} {request : EvaluationRequest}
      {result : Eval FairnessDecision} :
      Step (.serving hello n (.ingested frame)) (.evaluate frame request result)
        (.serving hello n (.decided frame))
  | commit {hello : FrameHeader} {n : ℕ} {frame : InboundFrame} {decision : FairnessDecision}
      {result : Except Status Unit} :
      Step (.serving hello n (.decided frame)) (.commit frame decision result)
        (.serving hello n .settled)
  | acknowledge {hello : FrameHeader} {n : ℕ} {pending : Pending} {frame : InboundFrame}
      {ack : EvidenceAck} :
      Step (.serving hello n pending) (.acknowledged frame ack true)
        (.serving hello n .settled)
  | finish {p : Progress} {action : LinkAction} : p ≠ .over → action.Ends → Step p action .over

/-- The actions of a connection lead it to this point of the protocol. -/
def Follows (actions : List LinkAction) (p : Progress) : Prop :=
  ∃ trace, Run Progress.Step .fresh trace p ∧ trace.map Prod.snd = actions

lemma Follows.start : Follows [] .fresh := ⟨[], .nil, rfl⟩

lemma Follows.snoc {actions : List LinkAction} {action : LinkAction} {p p' : Progress}
    (h : Follows actions p) (hstep : Progress.Step p action p') :
    Follows (actions ++ [action]) p' := by
  obtain ⟨trace, hrun, rfl⟩ := h
  exact ⟨trace ++ [(p, action)], hrun.snoc hstep, by simp⟩

/-! ## What the automaton promises -/

/-- An evidence frame was taken. -/
def LinkAction.isEvidence : LinkAction → Bool
  | .evidence _ _ => true
  | _ => false

/-- How many evidence frames were taken. -/
def takenCount (actions : List LinkAction) : ℕ := actions.countP LinkAction.isEvidence

/-- A session was opened for a HELLO that was heard. -/
structure Admitted (actions : List LinkAction) (hello : FrameHeader) : Prop where
  heard : ∃ live, .greeted hello live ∈ actions ∧ Greets hello live
  opened : .opened hello (sessionId hello) ∈ actions

/-- What the actions so far say of a point of the protocol. -/
def Accounts (actions : List LinkAction) : Progress → Prop
  | .fresh => takenCount actions = 0
  | .greeted hello => takenCount actions = 0 ∧
      ∃ live, .greeted hello live ∈ actions ∧ Greets hello live
  | .serving hello n pending => takenCount actions = n ∧ Admitted actions hello ∧
      ∀ frame, pending = .taken frame → ∃ live, .evidence frame live ∈ actions
  | .over => True

variable {actions before after : List LinkAction} {action : LinkAction} {p p' : Progress}

lemma takenCount_append : takenCount (actions ++ [action]) =
    takenCount actions + if action.isEvidence then 1 else 0 := by
  rw [takenCount, List.countP_append, List.countP_singleton, takenCount]

lemma Admitted.append {hello : FrameHeader} (h : Admitted actions hello) :
    Admitted (actions ++ [action]) hello := by
  obtain ⟨⟨live, hheard, hgreets⟩, hopened⟩ := h
  exact ⟨⟨live, List.mem_append_left _ hheard, hgreets⟩, List.mem_append_left _ hopened⟩

/-- An action other than taking evidence leaves the account of a session as it is. -/
lemma Accounts.quiet {hello : FrameHeader} {n : ℕ} {pending pending' : Pending}
    (h : Accounts actions (.serving hello n pending)) (haction : action.isEvidence = false)
    (hpending : ∀ frame, pending' = .taken frame → pending = .taken frame) :
    Accounts (actions ++ [action]) (.serving hello n pending') := by
  obtain ⟨hcount, hadmitted, htaken⟩ := h
  refine ⟨?_, hadmitted.append, ?_⟩
  · rw [takenCount_append, hcount, haction]
    rfl
  · intro frame hframe
    obtain ⟨live, hmem⟩ := htaken frame (hpending frame hframe)
    exact ⟨live, List.mem_append_left _ hmem⟩

/-- A step keeps the account. -/
lemma Accounts.step (h : Accounts actions p) (hstep : Progress.Step p action p') :
    Accounts (actions ++ [action]) p' := by
  cases hstep with
  | @greet hello live hgreets =>
    refine ⟨?_, live, by simp, hgreets⟩
    rw [takenCount_append, show takenCount actions = 0 from h]
    rfl
  | openSession =>
    obtain ⟨hcount, live, hheard, hgreets⟩ := h
    refine ⟨?_, ⟨⟨live, List.mem_append_left _ hheard, hgreets⟩, by simp⟩, ?_⟩
    · rw [takenCount_append, hcount]
      rfl
    · intro frame hframe
      cases hframe
  | welcome => exact h.quiet rfl fun _ => id
  | internal => exact h.quiet rfl fun _ => id
  -- only an admitted frame adds to what was taken
  | @evidence hello n pending frame live hevidence =>
    obtain ⟨hcount, hadmitted, -⟩ := h
    refine ⟨?_, hadmitted.append, ?_⟩
    · rw [takenCount_append, hcount]
      rfl
    · intro frame' hframe
      obtain rfl := Pending.taken.inj hframe
      exact ⟨live, by simp⟩
  | ingest => exact h.quiet rfl fun _ hframe => by cases hframe
  | evaluate => exact h.quiet rfl fun _ hframe => by cases hframe
  | commit => exact h.quiet rfl fun _ hframe => by cases hframe
  | acknowledge => exact h.quiet rfl fun _ hframe => by cases hframe
  | finish => trivial

/-- The actions account for every point of the protocol that they lead to. -/
lemma Follows.accounts (h : Follows actions p) : Accounts actions p := by
  obtain ⟨trace, hrun, rfl⟩ := h
  induction hrun with
  | nil => exact (rfl : takenCount [] = 0)
  | snoc _ hstep ih =>
    rw [List.map_append]
    exact ih.step hstep

/-- Nothing follows an end. -/
lemma run_over {trace : List (Progress × LinkAction)}
    (h : Run Progress.Step .over trace p) : trace = [] ∧ p = .over := by
  induction h with
  | nil => exact ⟨rfl, rfl⟩
  | snoc _ hstep ih =>
    obtain ⟨-, rfl⟩ := ih
    cases hstep with
    | finish hover => exact absurd rfl hover

/-- Taking the actions of a connection apart at one of them. -/
lemma Follows.split (h : Follows (before ++ action :: after) p) :
    ∃ q q', Follows before q ∧ Progress.Step q action q' ∧ (q' = .over → after = []) := by
  obtain ⟨trace, hrun, hactions⟩ := h
  obtain ⟨first, rest, rfl, hfirst, hrest⟩ := List.map_eq_append_iff.mp hactions
  obtain ⟨⟨q, action'⟩, last, rfl, rfl, hlast⟩ := List.map_eq_cons_iff.mp hrest
  obtain ⟨q', hbefore, hstep, hafter⟩ := hrun.split
  refine ⟨q, q', ⟨first, hbefore, hfirst⟩, hstep, ?_⟩
  rintro rfl
  obtain ⟨rfl, -⟩ := run_over hafter
  exact hlast.symm

/-- The order that a connection keeps. -/
structure Orderly (actions : List LinkAction) : Prop where
  /-- Evidence is taken only in a session that was opened for a HELLO with an identity and the
  epoch of that moment; the `n`-th evidence frame has that session's identity, the epoch of the
  moment it was checked, and the sequence `n`, as the 64-bit word that a sequence is. -/
  evidence : ∀ before frame live after, actions = before ++ .evidence frame live :: after →
    ∃ hello, Admitted before hello ∧
      IsEvidence frame.header (sessionId hello) live (takenCount before + 1)
  /-- What is handed to the governor is the payload of a frame that was taken, decoded. -/
  handed : ∀ before frame snapshot result after,
    actions = before ++ .ingest frame snapshot result :: after →
    (∃ live, .evidence frame live ∈ before) ∧ decodeEvidence frame.payload = .ok snapshot
  /-- A refusal, a goodbye, a failure and a stop are final. -/
  final : ∀ before action after, actions = before ++ action :: after → action.Ends → after = []

/-- Whoever follows the protocol keeps the order. -/
theorem Follows.orderly (h : Follows actions p) : Orderly actions where
  evidence := by
    -- The session is cut at the action; what was counted before it decides the step.
    rintro before frame live after rfl
    obtain ⟨q, q', hbefore, hstep, -⟩ := h.split
    have haccounts := hbefore.accounts
    cases hstep with
    | evidence hevidence =>
      obtain ⟨hcount, hadmitted, -⟩ := haccounts
      rw [hcount]
      exact ⟨_, hadmitted, hevidence⟩
    | finish _ hends => exact absurd hends id
  handed := by
    rintro before frame snapshot result after rfl
    obtain ⟨q, q', hbefore, hstep, -⟩ := h.split
    have haccounts := hbefore.accounts
    cases hstep with
    | ingest hdecode =>
      obtain ⟨-, -, htaken⟩ := haccounts
      exact ⟨htaken frame rfl, hdecode⟩
    | finish _ hends => exact absurd hends id
  final := by
    -- An ending action leaves a session that takes no further one.
    rintro before action after rfl hends
    obtain ⟨q, q', -, hstep, hover⟩ := h.split
    apply hover
    cases hstep with
    | finish => rfl
    | _ => cases hends

end FairnessGovernor
