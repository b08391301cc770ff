/-
# A governor without a store

The smallest runs that do something: an in-memory governor of the two-subject policy, the
snapshot of a window and the request for it.
-/
import FairnessGovernor.Governor.Step
import FairnessGovernor.Eval.Redistribution

namespace FairnessGovernor

open Program Runs

/-- The configuration of an in-memory governor. -/
def memoryConfig (policy : FairnessPolicy) : GovernorConfig :=
  { policy := policy, epoch := policy.epoch }

/-- An in-memory governor. -/
def memoryGovernor (policy : FairnessPolicy) : Governor :=
  Governor.initial (memoryConfig policy) ⟨7⟩

/-- Without a store a governor opens in its initial state. -/
lemma initial_opens {config : GovernorConfig} (h : checkConfig config = .ok ())
    (hpath : config.storePath = "") (boot : BootId) :
    Opens config boot (.initial config boot) := by
  unfold Opens Governor.open
  rw [h, if_pos hpath]
  rfl

lemma memoryGovernor_opens {policy : FairnessPolicy} (h : checkConfig (memoryConfig policy) = .ok ()) :
    Opens (memoryConfig policy) ⟨7⟩ (memoryGovernor policy) :=
  initial_opens h rfl _

/-- A commit on a file system that is not used. -/
def committedTo (g : Governor) (decision : FairnessDecision) : Except Status Unit × Governor :=
  (run handle (g.commit decision) fun _ => none).1

/-- The decision of an evaluation that returns one. -/
def decisionOf (result : Eval FairnessDecision) : FairnessDecision := result.toOption.getD {}

/-- Both subjects are observed in the first window. -/
def pairSnapshot : EvidenceSnapshot :=
  pairEvidence [{ id := ⟨1⟩, generation := ⟨1⟩, servedUnits := 10 },
    { id := ⟨2⟩, generation := ⟨1⟩, servedUnits := 4 }]

/-- The governor of the two-subject policy once the first window is staged. -/
def stagedGovernor : Governor := ((memoryGovernor pairPolicy).ingestEvidence pairSnapshot).2

/-- The decision about the first window. -/
def firstDecision : FairnessDecision := decisionOf (stagedGovernor.evaluate pairRequest)

/-- The calls of a client that ingests, evaluates and commits the first window. -/
def firstCalls : List (Governor × Event) :=
  [(memoryGovernor pairPolicy,
      .ingest pairSnapshot ((memoryGovernor pairPolicy).ingestEvidence pairSnapshot).1),
    (stagedGovernor, .evaluate pairRequest (stagedGovernor.evaluate pairRequest)),
    (stagedGovernor, .commit firstDecision (committedTo stagedGovernor firstDecision).1)]

/-- Only the first subject is observed in the first window. -/
def uncoveredSnapshot : EvidenceSnapshot :=
  pairEvidence [{ id := ⟨1⟩, generation := ⟨1⟩, servedUnits := 10 }]

/-- The governor of the two-subject policy once that snapshot is staged. -/
def uncoveredGovernor : Governor :=
  ((memoryGovernor pairPolicy).ingestEvidence uncoveredSnapshot).2

/-- The configuration of an in-memory governor that stages one snapshot at a time. -/
def narrowConfig : GovernorConfig :=
  { memoryConfig pairPolicy with limits := { maxStagedSnapshots := 1 } }

/-- A governor that stages one snapshot at a time. -/
def narrowGovernor : Governor := Governor.initial narrowConfig ⟨7⟩

lemma narrowGovernor_opens : Opens narrowConfig ⟨7⟩ narrowGovernor :=
  initial_opens (by decide +kernel) rfl _

/-- A snapshot of a window under an identity, with nothing observed. -/
def windowSnapshot (id window : UInt64) : EvidenceSnapshot :=
  { pairEvidence [] with id := ⟨id⟩, window := ⟨window⟩ }

lemma Step.committedTo (g : Governor) (decision : FairnessDecision) :
    Step g (.commit decision (committedTo g decision).1) (FairnessGovernor.committedTo g decision).2 :=
  .commit (returns_run _ _)

/-- The run of those calls. -/
lemma firstRun : Run Step (memoryGovernor pairPolicy) firstCalls
    (committedTo stagedGovernor firstDecision).2 :=
  ((Run.nil.snoc (.ingest _ _)).snoc (.evaluate _ _)).snoc (.committedTo _ _)

lemma firstDecision_evaluated : stagedGovernor.evaluate pairRequest = .ok firstDecision := by
  have hrun : (stagedGovernor.evaluate pairRequest).isOk = true := by decide +kernel
  unfold firstDecision
  cases hdecision : stagedGovernor.evaluate pairRequest with
  | error status =>
    rw [hdecision] at hrun
    cases hrun
  | ok decision => rfl

lemma firstDecision_committed : (committedTo stagedGovernor firstDecision).1 = .ok () :=
  eq_ok_of_isOk (by decide +kernel)

/-- The only commit among those calls is of the decision that was evaluated just before. -/
lemma firstCalls_commit {before after : List (Governor × Event)} {t : Governor}
    {decision : FairnessDecision}
    (h : firstCalls = before ++ (t, .commit decision (.ok ())) :: after) :
    decision = firstDecision ∧ ∃ call,
      before = [call, (stagedGovernor, .evaluate pairRequest (.ok firstDecision))] := by
  unfold firstCalls at h
  rw [firstDecision_evaluated] at h
  rcases before with _ | ⟨c₁, _ | ⟨c₂, _ | ⟨c₃, rest⟩⟩⟩
  · cases h
  · cases h
  · simp only [List.cons_append, List.nil_append, List.cons.injEq, Prod.mk.injEq,
      Event.commit.injEq] at h
    obtain ⟨rfl, rfl, ⟨-, rfl, -⟩, -⟩ := h
    exact ⟨rfl, _, rfl⟩
  · simp at h

/-! ## A governor with a store -/

/-- The configuration of a governor on a store. -/
def storeConfig (policy : FairnessPolicy) : GovernorConfig :=
  { memoryConfig policy with storePath := "store" }

/-- Opening on an empty directory, and the directory after it. -/
def firstOpening (policy : FairnessPolicy) : Except Status Governor × Directory :=
  run handle (Governor.open (storeConfig policy) ⟨7⟩).run fun _ => none

/-- The governor opened on an empty directory. -/
def storedGovernor (policy : FairnessPolicy) : Governor :=
  (firstOpening policy).1.toOption.getD (memoryGovernor policy)

lemma storedGovernor_opens {policy : FairnessPolicy} (h : (firstOpening policy).1.isOk = true) :
    Opens (storeConfig policy) ⟨7⟩ (storedGovernor policy) := by
  unfold storedGovernor
  have hreturns : Returns (Governor.open (storeConfig policy) ⟨7⟩).run (firstOpening policy).1 :=
    returns_run _ _
  cases hopened : (firstOpening policy).1 with
  | error status =>
    rw [hopened] at h
    cases h
  | ok g =>
    rw [hopened] at hreturns
    exact hreturns

end FairnessGovernor
