/-
# The governor as a transition system

Every public operation is one atomic step, whatever the file system responds; the events of a
run are the calls of all its clients with their results.  What an operation can do to the
governor is said once, here: by one lemma for each operation, and for a step by `Change`.
-/
import FairnessGovernor.Governor.Operations
import FairnessGovernor.Lib.Runs

namespace FairnessGovernor

open Program Runs

/-- The decision, as a governor signs it. -/
def FairnessDecision.signed (decision : FairnessDecision) (governor : Incarnation) :
    FairnessDecision :=
  { decision with authority := { decision.authority with governor := governor } }

/-- A call of an operation, with its result. -/
inductive Event
  | ingest (snapshot : EvidenceSnapshot) (result : Except Status IngestResult)
  | evaluate (request : EvaluationRequest) (result : Eval FairnessDecision)
  | commit (decision : FairnessDecision) (result : Except Status Unit)
  | installPolicy (policy : FairnessPolicy) (result : Except Status Unit)
  | advanceEpoch (nextEpoch : FabricEpoch) (result : Except Status Unit)
  | clearStaged
  | shutdown

/-- One operation of a governor, on any file system. -/
inductive Step : Governor → Event → Governor → Prop
  | ingest (g : Governor) (snapshot : EvidenceSnapshot) :
      Step g (.ingest snapshot (g.ingestEvidence snapshot).1) (g.ingestEvidence snapshot).2
  | evaluate (g : Governor) (request : EvaluationRequest) :
      Step g (.evaluate request (g.evaluate request)) g
  | commit {g g' : Governor} {decision : FairnessDecision} {result : Except Status Unit} :
      Returns (g.commit decision) (result, g') → Step g (.commit decision result) g'
  | installPolicy {g g' : Governor} {policy : FairnessPolicy} {result : Except Status Unit} :
      Returns (g.installPolicy policy) (result, g') → Step g (.installPolicy policy result) g'
  | advanceEpoch {g g' : Governor} {nextEpoch : FabricEpoch} {result : Except Status Unit} :
      Returns (g.advanceEpoch nextEpoch) (result, g') →
      Step g (.advanceEpoch nextEpoch result) g'
  | clearStaged (g : Governor) : Step g .clearStaged g.clearStaged
  | shutdown (g : Governor) : Step g .shutdown g.shutdown

/-- A governor may be opened, on some file system. -/
def Opens (config : GovernorConfig) (boot : BootId) (g : Governor) : Prop :=
  Returns (Governor.open config boot).run (.ok g)

/-- A state that a governor may reach. -/
def Reachable (g : Governor) : Prop :=
  ∃ config boot start trace, Opens config boot start ∧ Run Step start trace g

lemma Opens.of_run {σ : Type} {fs : (op : FileOp) → σ → op.Resp × σ} {w w' : σ}
    {config : GovernorConfig} {boot : BootId} {g : Governor}
    (h : run fs (Governor.open config boot).run w = (.ok g, w')) : Opens config boot g := by
  have hreturns := @returns_run _ _ _ _ fs (Governor.open config boot).run w
  rwa [h] at hreturns

/-- The governor after the snapshots, in their order. -/
def Governor.ingestAll (g : Governor) (snapshots : List EvidenceSnapshot) : Governor :=
  snapshots.foldl (fun g snapshot => (g.ingestEvidence snapshot).2) g

/-! ## Status programs -/

section Status

variable {α β : Type}

@[simp] lemma returns_of {x r : Except Status α} : Returns (StatusM.of x).run r ↔ x = r := Iff.rfl

/-- A status program that returned a value went through both of its parts. -/
lemma returns_bind_ok {p : StatusM α} {f : α → StatusM β} {b : β} :
    Returns (p >>= f).run (.ok b) ↔ ∃ a, Returns p.run (.ok a) ∧ Returns (f a).run (.ok b) := by
  constructor
  · intro h
    obtain ⟨r, hr, h⟩ := returns_bind.mp h
    cases r with
    | error e => cases h
    | ok a => exact ⟨a, hr, h⟩
  · rintro ⟨a, ha, hf⟩
    exact returns_bind.mpr ⟨.ok a, ha, hf⟩

lemma returns_lift_ok {p : FileM α} {a : α} :
    Returns (liftM p : StatusM α).run (.ok a) ↔ Returns p a := by
  constructor
  · intro h
    obtain ⟨a', ha, h⟩ := returns_bind.mp h
    obtain rfl := Except.ok.inj h
    exact ha
  · intro h
    exact returns_bind.mpr ⟨a, h, rfl⟩

@[simp] lemma returns_pure_ok {a b : α} :
    Returns (pure a : StatusM α).run (.ok b) ↔ a = b := by
  constructor
  · intro h
    exact Except.ok.inj h
  · rintro rfl
    rfl

@[simp] lemma not_returns_fail_ok {code : StatusCode} {detail : String} {a : α} :
    ¬ Returns (StatusM.fail code detail : StatusM α).run (.ok a) := by
  intro h
  cases h

end Status

/-! ## What each operation can do -/

namespace Governor

variable {g g' : Governor} {decision : FairnessDecision} {result : Except Status Unit}

/-- A durable accounting commit changes the record generation only. -/
lemma commitAccounting_returns (h : Returns g.commitAccounting.run (.ok g')) :
    ∃ generation, g' = { g with accountingRecordGeneration := generation } := by
  unfold commitAccounting at h
  split at h
  · exact ⟨g.accountingRecordGeneration, (returns_pure_ok.mp h).symm⟩
  · obtain ⟨_, -, h⟩ := returns_bind_ok.mp h
    exact ⟨_, (returns_pure_ok.mp h).symm⟩

/-- A durable policy commit changes the record generation only. -/
lemma commitPolicy_returns (h : Returns g.commitPolicy.run (.ok g')) :
    ∃ generation, g' = { g with policyRecordGeneration := generation } := by
  unfold commitPolicy at h
  split at h
  · exact ⟨g.policyRecordGeneration, (returns_pure_ok.mp h).symm⟩
  · obtain ⟨_, -, h⟩ := returns_bind_ok.mp h
    exact ⟨_, (returns_pure_ok.mp h).symm⟩

/-- A commit that returns an error changes nothing; one that succeeds has passed its checks and
has the applied accounting. -/
lemma commit_returns (h : Returns (g.commit decision) (result, g')) :
    (∃ e, result = .error e ∧ g' = g) ∨
      result = .ok () ∧ g.checkDecision decision = .ok () ∧
        ∃ accounting generation, g.applyDecision decision = .ok accounting ∧
          g' = { g with accounting := accounting, accountingRecordGeneration := generation } := by
  unfold commit at h
  cases hcheck : g.checkDecision decision with
  | error e =>
    rw [hcheck] at h
    obtain ⟨rfl, rfl⟩ := Prod.mk_inj.mp (returns_pure.mp h)
    exact .inl ⟨e, rfl, rfl⟩
  | ok _ =>
    rw [hcheck] at h
    -- the books are computed before anything is written, and kept only once the record is durable
    cases happly : g.applyDecision decision with
    | error e =>
      rw [happly] at h
      obtain ⟨rfl, rfl⟩ := Prod.mk_inj.mp (returns_pure.mp h)
      exact .inl ⟨e, rfl, rfl⟩
    | ok accounting =>
      rw [happly] at h
      obtain ⟨committed, hcommitted, h⟩ := returns_bind.mp h
      cases committed with
      | error e =>
        obtain ⟨rfl, rfl⟩ := Prod.mk_inj.mp (returns_pure.mp h)
        exact .inl ⟨e, rfl, rfl⟩
      | ok durable =>
        obtain ⟨rfl, rfl⟩ := Prod.mk_inj.mp (returns_pure.mp h)
        obtain ⟨generation, rfl⟩ := commitAccounting_returns hcommitted
        exact .inr ⟨rfl, rfl, accounting, generation, rfl, rfl⟩

/-- An installation that fails its checks changes nothing. -/
lemma installPolicy_refused {policy : FairnessPolicy} {status : Status}
    (hcheck : g.checkInstall policy = .error status)
    (h : Returns (g.installPolicy policy) (result, g')) : result = .error status ∧ g' = g := by
  unfold installPolicy at h
  rw [hcheck] at h
  obtain ⟨rfl, rfl⟩ := Prod.mk_inj.mp (returns_pure.mp h)
  exact ⟨rfl, rfl⟩

/-- After its checks the first durable commit of an installation fails and is undone, or the policy
is in force. -/
lemma installPolicy_accepted {policy : FairnessPolicy} (hcheck : g.checkInstall policy = .ok ())
    (h : Returns (g.installPolicy policy) (result, g')) :
    (∃ e, result = .error e ∧ g' = (g.withPolicy policy).restorePolicy g) ∨
      ∃ generation recordGeneration, g' = { g.withPolicy policy with
        policyRecordGeneration := generation
        accountingRecordGeneration := recordGeneration } := by
  unfold installPolicy at h
  rw [hcheck] at h
  obtain ⟨committed, hcommitted, h⟩ := returns_bind.mp h
  cases committed with
  | error e =>
    obtain ⟨rfl, rfl⟩ := Prod.mk_inj.mp (returns_pure.mp h)
    exact .inl ⟨e, rfl, rfl⟩
  | ok durable =>
    obtain ⟨generation, rfl⟩ := commitPolicy_returns hcommitted
    obtain ⟨accounted, haccounted, h⟩ := returns_bind.mp h
    cases accounted with
    | error e =>
      obtain ⟨rfl, rfl⟩ := Prod.mk_inj.mp (returns_pure.mp h)
      exact .inr ⟨generation, _, rfl⟩
    | ok durable =>
      obtain ⟨rfl, rfl⟩ := Prod.mk_inj.mp (returns_pure.mp h)
      obtain ⟨recordGeneration, rfl⟩ := commitAccounting_returns haccounted
      exact .inr ⟨generation, recordGeneration, rfl⟩

/-- An installation is refused, or its first durable commit fails and is undone, or the policy is
in force. -/
lemma installPolicy_returns {policy : FairnessPolicy}
    (h : Returns (g.installPolicy policy) (result, g')) :
    (∃ e, result = .error e ∧ g' = g) ∨ g.checkInstall policy = .ok () ∧
      ((∃ e, result = .error e ∧ g' = (g.withPolicy policy).restorePolicy g) ∨
        ∃ generation recordGeneration, g' = { g.withPolicy policy with
          policyRecordGeneration := generation
          accountingRecordGeneration := recordGeneration }) := by
  cases hcheck : g.checkInstall policy with
  | error status => exact .inl ⟨status, installPolicy_refused hcheck h⟩
  | ok _ => exact .inr ⟨rfl, installPolicy_accepted hcheck h⟩

/-- An advance that fails its checks changes nothing. -/
lemma advanceEpoch_refused {nextEpoch : FabricEpoch} {status : Status}
    (hcheck : g.checkAdvance nextEpoch = .error status)
    (h : Returns (g.advanceEpoch nextEpoch) (result, g')) : result = .error status ∧ g' = g := by
  unfold advanceEpoch at h
  rw [hcheck] at h
  obtain ⟨rfl, rfl⟩ := Prod.mk_inj.mp (returns_pure.mp h)
  exact ⟨rfl, rfl⟩

/-- After its checks the durable commit of an advance fails and the epoch is put back, or the epoch
is in force. -/
lemma advanceEpoch_accepted {nextEpoch : FabricEpoch} (hcheck : g.checkAdvance nextEpoch = .ok ())
    (h : Returns (g.advanceEpoch nextEpoch) (result, g')) :
    (∃ e, result = .error e ∧ g' = (g.clearStaged.withEpoch nextEpoch).withEpoch g.epoch) ∨
      result = .ok () ∧ ∃ recordGeneration, g' = { g.clearStaged.withEpoch nextEpoch with
        accountingRecordGeneration := recordGeneration } := by
  unfold advanceEpoch at h
  rw [hcheck] at h
  obtain ⟨committed, hcommitted, h⟩ := returns_bind.mp h
  cases committed with
  | error e =>
    obtain ⟨rfl, rfl⟩ := Prod.mk_inj.mp (returns_pure.mp h)
    exact .inl ⟨e, rfl, rfl⟩
  | ok durable =>
    obtain ⟨rfl, rfl⟩ := Prod.mk_inj.mp (returns_pure.mp h)
    obtain ⟨recordGeneration, rfl⟩ := commitAccounting_returns hcommitted
    exact .inr ⟨rfl, recordGeneration, rfl⟩

/-- An epoch advance is refused, or its durable commit fails and the epoch is put back, or the
epoch is in force. -/
lemma advanceEpoch_returns {nextEpoch : FabricEpoch}
    (h : Returns (g.advanceEpoch nextEpoch) (result, g')) :
    (∃ e, result = .error e ∧ g' = g) ∨ g.checkAdvance nextEpoch = .ok () ∧
      ((∃ e, result = .error e ∧ g' = (g.clearStaged.withEpoch nextEpoch).withEpoch g.epoch) ∨
        result = .ok () ∧ ∃ recordGeneration, g' = { g.clearStaged.withEpoch nextEpoch with
          accountingRecordGeneration := recordGeneration }) := by
  cases hcheck : g.checkAdvance nextEpoch with
  | error status => exact .inl ⟨status, advanceEpoch_refused hcheck h⟩
  | ok _ => exact .inr ⟨rfl, advanceEpoch_accepted hcheck h⟩

/-- What the ingestion of a snapshot is refused for. -/
def ingestCodes : List StatusCode :=
  evidenceCodes ++ [.shuttingDown, .staleEpoch, .staleGeneration, .sequenceViolation]

lemma checkSnapshot_failsWith (g : Governor) (snapshot : EvidenceSnapshot) :
    FailsWith (evidenceCodes ++ [.shuttingDown, .staleEpoch, .staleGeneration])
      (g.checkSnapshot snapshot) := by
  unfold checkSnapshot
  refine ((validateEvidence_failsWith snapshot).mono (List.subset_append_left _ _)).bind fun _ => ?_
  iterate 3 refine rejectIf_bind_failsWith (by decide) ?_
  exact failsWith_rejectIf (by decide)

lemma checkOrder_failsWith (g : Governor) (snapshot : EvidenceSnapshot) :
    FailsWith [.sequenceViolation, .staleGeneration] (g.checkOrder snapshot) :=
  rejectIf_bind_failsWith (by decide) (failsWith_rejectIf (by decide))

lemma ingestEvidence_failsWith (g : Governor) (snapshot : EvidenceSnapshot) :
    FailsWith ingestCodes (g.ingestEvidence snapshot).1 := by
  unfold ingestEvidence
  cases hchecked : g.checkSnapshot snapshot with
  | error e =>
    exact failsWith_error (((checkSnapshot_failsWith g snapshot).mono (by decide)) e hchecked)
  | ok _ =>
    dsimp only
    cases g.ingested[ingestKey snapshot]? with
    | some digest =>
      dsimp only
      split_ifs
      · exact failsWith_error (by decide)
      · exact failsWith_ok _
    | none =>
      dsimp only
      cases hordered : g.checkOrder snapshot with
      | error e =>
        exact failsWith_error (((checkOrder_failsWith g snapshot).mono (by decide)) e hordered)
      | ok _ => exact failsWith_ok _

/-- A snapshot that passes its checks and was not ingested before. -/
structure Accepts (g : Governor) (snapshot : EvidenceSnapshot) : Prop where
  checked : g.checkSnapshot snapshot = .ok ()
  fresh : g.ingested[ingestKey snapshot]? = none
  ordered : g.checkOrder snapshot = .ok ()

/-- An accepted snapshot is staged. -/
lemma Accepts.ingestEvidence_eq {snapshot : EvidenceSnapshot} (h : g.Accepts snapshot) :
    g.ingestEvidence snapshot = (.ok (ingestResult .staged snapshot), g.stage snapshot) := by
  unfold ingestEvidence
  rw [h.checked, h.fresh]
  dsimp only
  rw [h.ordered]

/-- Any other snapshot is refused or known already. -/
lemma ingestEvidence_of_not_accepts {snapshot : EvidenceSnapshot} (h : ¬ g.Accepts snapshot) :
    (g.ingestEvidence snapshot = (.ok (ingestResult .duplicateIgnored snapshot), g)) ∨
      ∃ status, g.ingestEvidence snapshot = (.error status, g) := by
  unfold ingestEvidence
  cases hchecked : g.checkSnapshot snapshot with
  | error status => exact .inr ⟨status, rfl⟩
  | ok _ =>
    dsimp only
    cases hfresh : g.ingested[ingestKey snapshot]? with
    | some digest =>
      dsimp only
      split_ifs
      · exact .inr ⟨_, rfl⟩
      · exact .inl rfl
    | none =>
      dsimp only
      cases hordered : g.checkOrder snapshot with
      | error status => exact .inr ⟨status, rfl⟩
      | ok _ => exact absurd ⟨hchecked, hfresh, hordered⟩ h

lemma ingestEvidence_unchanged {snapshot : EvidenceSnapshot} (h : ¬ g.Accepts snapshot) :
    (g.ingestEvidence snapshot).2 = g := by
  rcases ingestEvidence_of_not_accepts h with heq | ⟨_, heq⟩
  · rw [heq]
  · rw [heq]

/-- A snapshot is refused or known already, or it passed its checks and is staged. -/
lemma ingestEvidence_cases (g : Governor) (snapshot : EvidenceSnapshot) :
    (g.ingestEvidence snapshot).2 = g ∨
      g.checkSnapshot snapshot = .ok () ∧ g.checkOrder snapshot = .ok () ∧
        (g.ingestEvidence snapshot).2 = g.stage snapshot := by
  by_cases h : g.Accepts snapshot
  · rw [h.ingestEvidence_eq]
    exact .inr ⟨h.checked, h.ordered, rfl⟩
  · exact .inl (ingestEvidence_unchanged h)

/-- An evaluation that returns a decision is the engine's, signed by the governor. -/
lemma evaluate_eq_ok {request : EvaluationRequest} (h : g.evaluate request = .ok decision) :
    g.stopping = false ∧ ∃ evaluated, evaluateFairness (g.context request) = .ok evaluated ∧
      decision = evaluated.signed g.incarnation := by
  unfold evaluate at h
  split_ifs at h with hstopping
  · cases h
  · obtain ⟨evaluated, heval, h⟩ := bind_eq_ok.mp h
    exact ⟨by simpa using hstopping, evaluated, heval, (Except.ok.inj h).symm⟩

end Governor

/-! ## What a step can do -/

/-- The calls that may leave a governor as it is: those that fail, those that only read, an
ingestion of what is known, and a second shutdown. -/
def Idle (g : Governor) : Event → Prop
  | .commit _ (.ok _) | .installPolicy _ (.ok _) | .advanceEpoch _ (.ok _) | .clearStaged => False
  | .shutdown => g.stopping = true
  | .ingest _ _ | .evaluate _ _ | .commit _ (.error _) | .installPolicy _ (.error _)
  | .advanceEpoch _ (.error _) => True

/-- What a call makes of a governor. -/
inductive Change (g : Governor) : Event → Governor → Prop
  | none {e : Event} : Idle g e → Change g e g
  | staged {snapshot : EvidenceSnapshot} {result : Except Status IngestResult} :
      g.Accepts snapshot → Change g (.ingest snapshot result) (g.stage snapshot)
  | committed {decision : FairnessDecision} {accounting : FairnessAccounting}
      (generation : UInt64) : g.checkDecision decision = .ok () →
      g.applyDecision decision = .ok accounting →
      Change g (.commit decision (.ok ()))
        { g with accounting := accounting, accountingRecordGeneration := generation }
  | undone {policy : FairnessPolicy} {status : Status} : g.checkInstall policy = .ok () →
      Change g (.installPolicy policy (.error status)) ((g.withPolicy policy).restorePolicy g)
  | installed {policy : FairnessPolicy} {result : Except Status Unit}
      (generation recordGeneration : UInt64) : g.checkInstall policy = .ok () →
      Change g (.installPolicy policy result) { g.withPolicy policy with
        policyRecordGeneration := generation
        accountingRecordGeneration := recordGeneration }
  | putBack {nextEpoch : FabricEpoch} {status : Status} : g.checkAdvance nextEpoch = .ok () →
      Change g (.advanceEpoch nextEpoch (.error status))
        ((g.clearStaged.withEpoch nextEpoch).withEpoch g.epoch)
  | advanced {nextEpoch : FabricEpoch} (recordGeneration : UInt64) :
      g.checkAdvance nextEpoch = .ok () →
      Change g (.advanceEpoch nextEpoch (.ok ())) { g.clearStaged.withEpoch nextEpoch with
        accountingRecordGeneration := recordGeneration }
  | cleared : Change g .clearStaged g.clearStaged
  | stopped : g.stopping = false →
      Change g .shutdown { g.clearStaged with store := none, stopping := true }

variable {g g' : Governor} {e : Event}

/-- Every step is one of these changes. -/
theorem Step.change (h : Step g e g') : Change g e g' := by
  cases h with
  | ingest snapshot =>
    by_cases haccepts : g.Accepts snapshot
    · rw [haccepts.ingestEvidence_eq]
      exact .staged haccepts
    · rw [Governor.ingestEvidence_unchanged haccepts]
      exact .none trivial
  | evaluate request => exact .none trivial
  | commit h =>
    rcases Governor.commit_returns h with
      ⟨_, rfl, rfl⟩ | ⟨rfl, hcheck, accounting, generation, happly, rfl⟩
    · exact .none trivial
    · exact .committed generation hcheck happly
  -- a refused or failed commit leaves the governor, or puts back what it had changed
  | installPolicy h =>
    rcases Governor.installPolicy_returns h with
      ⟨_, rfl, rfl⟩ | ⟨hcheck, ⟨_, rfl, rfl⟩ | ⟨generation, recordGeneration, rfl⟩⟩
    · exact .none trivial
    · exact .undone hcheck
    · exact .installed generation recordGeneration hcheck
  | advanceEpoch h =>
    rcases Governor.advanceEpoch_returns h with
      ⟨_, rfl, rfl⟩ | ⟨hcheck, ⟨_, rfl, rfl⟩ | ⟨rfl, recordGeneration, rfl⟩⟩
    · exact .none trivial
    · exact .putBack hcheck
    · exact .advanced recordGeneration hcheck
  | clearStaged => exact .cleared
  | shutdown =>
    unfold Governor.shutdown
    split_ifs with hstopping
    · exact .none hstopping
    · exact .stopped (Bool.eq_false_of_not_eq_true hstopping)

end FairnessGovernor
