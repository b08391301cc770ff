/-
# A durable governor does what one in memory does

A governor that has lost its store is one in memory: its operations end without touching a file.
Whatever the files of a durable governor respond, it goes through the states that a governor in
memory goes through, with the same results; only where a write fails it reports an error, and then
it has done nothing, has dropped what was staged, or has installed the policy all the same.
-/
import FairnessGovernor.Governor.Administration
import FairnessGovernor.Governor.Site

namespace FairnessGovernor

open Program Runs

/-- The governor without its store, and without what it knows of the records there. -/
def Governor.detached (g : Governor) : Governor :=
  { g with
    store := none, policyRecordGeneration := 0, accountingRecordGeneration := 0, recovery := {} }

/-- An operation that ends without touching a file. -/
def InMemory (g : Governor) (e : Event) (g' : Governor) : Prop :=
  ∃ operation : Operation, operation.run g = pure (e, g')

/-- What a governor in memory does where a durable one reports the event: the same, unless a write
has failed. -/
inductive Echo (g : Governor) : Event → List Event → Prop
  | same (e : Event) : Echo g e [e]
  | unwritten {decision : FairnessDecision} {accounting : FairnessAccounting} {status : Status} :
      g.checkDecision decision = .ok () → g.applyDecision decision = .ok accounting →
      Echo g (.commit decision (.error status)) []
  | undone {policy : FairnessPolicy} {status : Status} : g.checkInstall policy = .ok () →
      policy.epoch = g.epoch → Echo g (.installPolicy policy (.error status)) []
  | dropped {policy : FairnessPolicy} {status : Status} : g.checkInstall policy = .ok () →
      g.epoch.value < policy.epoch.value →
      Echo g (.installPolicy policy (.error status)) [.clearStaged]
  | unreported {policy : FairnessPolicy} {status : Status} : g.checkInstall policy = .ok () →
      Echo g (.installPolicy policy (.error status)) [.installPolicy policy (.ok ())]
  | putBack {nextEpoch : FabricEpoch} {status : Status} : g.checkAdvance nextEpoch = .ok () →
      Echo g (.advanceEpoch nextEpoch (.error status)) [.clearStaged]

variable {g g' : Governor} {e : Event}

/-! ## The checks -/

lemma checkDecision_detached (decision : FairnessDecision) :
    g.detached.checkDecision decision = g.checkDecision decision := rfl

lemma applyDecision_detached (decision : FairnessDecision) :
    g.detached.applyDecision decision = g.applyDecision decision := rfl

lemma checkInstall_detached (policy : FairnessPolicy) :
    g.detached.checkInstall policy = g.checkInstall policy := rfl

lemma checkAdvance_detached (nextEpoch : FabricEpoch) :
    g.detached.checkAdvance nextEpoch = g.checkAdvance nextEpoch := rfl

lemma withPolicy_detached (policy : FairnessPolicy) :
    g.detached.withPolicy policy = (g.withPolicy policy).detached := by
  have hepoch : g.detached.epoch = g.epoch := rfl
  unfold Governor.withPolicy
  rw [hepoch]
  split_ifs
  · rfl
  · rfl

lemma ingestEvidence_detached (snapshot : EvidenceSnapshot) :
    g.detached.ingestEvidence snapshot =
      ((g.ingestEvidence snapshot).1, (g.ingestEvidence snapshot).2.detached) := by
  have hcheck : g.detached.checkSnapshot snapshot = g.checkSnapshot snapshot := rfl
  have horder : g.detached.checkOrder snapshot = g.checkOrder snapshot := rfl
  have hingested : g.detached.ingested = g.ingested := rfl
  have hstage : g.detached.stage snapshot = (g.stage snapshot).detached := by
    simp only [Governor.stage, Governor.detached]
  unfold Governor.ingestEvidence
  rw [hcheck, horder, hingested, hstage]
  cases g.checkSnapshot snapshot with
  | error e => rfl
  | ok _ =>
    cases g.ingested[Governor.ingestKey snapshot]? with
    | some digest =>
      dsimp only
      split_ifs
      · rfl
      · rfl
    | none =>
      cases g.checkOrder snapshot with
      | error e => rfl
      | ok _ => rfl

lemma shutdown_detached : g.detached.shutdown = g.shutdown.detached := by
  have hstopping : g.detached.stopping = g.stopping := rfl
  unfold Governor.shutdown
  rw [hstopping]
  split_ifs
  · rfl
  · rfl

/-! ## The operations -/

/-- A governor in memory comes to the same state. -/
def Echoed (g : Governor) (e : Event) (g' : Governor) : Prop :=
  ∃ trace, Echo g e (trace.map Prod.snd) ∧ Run InMemory g.detached trace g'.detached

lemma Echoed.same (h : InMemory g.detached e g'.detached) : Echoed g e g' :=
  ⟨[(g.detached, e)], .same e, Run.nil.snoc h⟩

lemma Echoed.silent (hecho : Echo g e []) (h : g'.detached = g.detached) : Echoed g e g' :=
  ⟨[], hecho, h ▸ .nil⟩

/-- One event in the place of another. -/
lemma Echoed.single {e' : Event} (hecho : Echo g e [e']) (h : InMemory g.detached e' g'.detached) :
    Echoed g e g' :=
  ⟨[(g.detached, e')], hecho, Run.nil.snoc h⟩

/-- What was ingested is dropped. -/
lemma Echoed.cleared (hecho : Echo g e [.clearStaged]) (h : g'.detached = g.clearStaged.detached) :
    Echoed g e g' := by
  refine .single hecho ⟨.clearStaged, ?_⟩
  rw [h]
  rfl

lemma inMemory_commit {decision : FairnessDecision} {result : Except Status Unit}
    (h : g.commit decision = pure (result, g')) : InMemory g (.commit decision result) g' := by
  refine ⟨.commit decision, ?_⟩
  show g.commit decision >>= _ = _
  rw [h]
  rfl

lemma inMemory_installPolicy {policy : FairnessPolicy} {result : Except Status Unit}
    (h : g.installPolicy policy = pure (result, g')) :
    InMemory g (.installPolicy policy result) g' := by
  refine ⟨.installPolicy policy, ?_⟩
  show g.installPolicy policy >>= _ = _
  rw [h]
  rfl

lemma inMemory_advanceEpoch {nextEpoch : FabricEpoch} {result : Except Status Unit}
    (h : g.advanceEpoch nextEpoch = pure (result, g')) :
    InMemory g (.advanceEpoch nextEpoch result) g' := by
  refine ⟨.advanceEpoch nextEpoch, ?_⟩
  show g.advanceEpoch nextEpoch >>= _ = _
  rw [h]
  rfl

lemma commit_echoed {decision : FairnessDecision} {result : Except Status Unit}
    (h : Returns (g.commit decision) (result, g')) : Echoed g (.commit decision result) g' := by
  unfold Governor.commit at h
  cases hcheck : g.checkDecision decision with
  | error e =>
    rw [hcheck] at h
    obtain ⟨rfl, rfl⟩ := Prod.mk_inj.mp (returns_pure.mp h)
    refine .same (inMemory_commit ?_)
    unfold Governor.commit
    rw [checkDecision_detached, hcheck]
  | ok _ =>
    rw [hcheck] at h
    cases happly : g.applyDecision decision with
    | error e =>
      rw [happly] at h
      obtain ⟨rfl, rfl⟩ := Prod.mk_inj.mp (returns_pure.mp h)
      refine .same (inMemory_commit ?_)
      unfold Governor.commit
      rw [checkDecision_detached, hcheck, applyDecision_detached, happly]
    | ok accounting =>
      rw [happly] at h
      obtain ⟨committed, hcommitted, h⟩ := returns_bind.mp h
      cases committed with
      | error e =>
        obtain ⟨rfl, rfl⟩ := Prod.mk_inj.mp (returns_pure.mp h)
        exact .silent (.unwritten hcheck happly) rfl
      | ok durable =>
        obtain ⟨rfl, rfl⟩ := Prod.mk_inj.mp (returns_pure.mp h)
        obtain ⟨generation, rfl⟩ := Governor.commitAccounting_returns hcommitted
        refine .same (inMemory_commit ?_)
        unfold Governor.commit
        rw [checkDecision_detached, hcheck, applyDecision_detached, happly]
        rfl

/-- In memory a policy that passes its checks is installed. -/
lemma inMemory_install {policy : FairnessPolicy} (hcheck : g.checkInstall policy = .ok ()) :
    InMemory g.detached (.installPolicy policy (.ok ())) (g.withPolicy policy).detached := by
  refine inMemory_installPolicy ?_
  unfold Governor.installPolicy
  rw [checkInstall_detached, hcheck, withPolicy_detached]
  rfl

lemma installPolicy_echoed {policy : FairnessPolicy} {result : Except Status Unit}
    (hs : Stamped g) (h : Returns (g.installPolicy policy) (result, g')) :
    Echoed g (.installPolicy policy result) g' := by
  unfold Governor.installPolicy at h
  cases hcheck : g.checkInstall policy with
  | error e =>
    rw [hcheck] at h
    obtain ⟨rfl, rfl⟩ := Prod.mk_inj.mp (returns_pure.mp h)
    refine .same (inMemory_installPolicy ?_)
    unfold Governor.installPolicy
    rw [checkInstall_detached, hcheck]
  | ok _ =>
    rw [hcheck] at h
    obtain ⟨committed, hcommitted, h⟩ := returns_bind.mp h
    cases committed with
    | error e =>
      obtain ⟨rfl, rfl⟩ := Prod.mk_inj.mp (returns_pure.mp h)
      -- the previous policy and epoch are put back, but what was dropped stays dropped
      rcases withPolicy_cases (checkInstall_eq_ok.mp hcheck).epoch with ⟨hsame, heq⟩ | ⟨hlt, heq⟩
      · refine .silent (.undone hcheck hsame) ?_
        rw [heq]
        unfold Governor.restorePolicy Governor.detached
        rw [hs.restored]
      · refine .cleared (.dropped hcheck hlt) ?_
        rw [heq]
        unfold Governor.restorePolicy Governor.detached
        rw [hs.restored]
        rfl
    | ok durable =>
      obtain ⟨generation, rfl⟩ := Governor.commitPolicy_returns hcommitted
      obtain ⟨accounted, haccounted, h⟩ := returns_bind.mp h
      cases accounted with
      | error e =>
        obtain ⟨rfl, rfl⟩ := Prod.mk_inj.mp (returns_pure.mp h)
        exact .single (.unreported hcheck) (inMemory_install hcheck)
      | ok durable =>
        obtain ⟨rfl, rfl⟩ := Prod.mk_inj.mp (returns_pure.mp h)
        obtain ⟨recordGeneration, rfl⟩ := Governor.commitAccounting_returns haccounted
        exact .same (inMemory_install hcheck)

lemma advanceEpoch_echoed {nextEpoch : FabricEpoch} {result : Except Status Unit}
    (hs : Stamped g) (h : Returns (g.advanceEpoch nextEpoch) (result, g')) :
    Echoed g (.advanceEpoch nextEpoch result) g' := by
  unfold Governor.advanceEpoch at h
  cases hcheck : g.checkAdvance nextEpoch with
  | error e =>
    rw [hcheck] at h
    obtain ⟨rfl, rfl⟩ := Prod.mk_inj.mp (returns_pure.mp h)
    refine .same (inMemory_advanceEpoch ?_)
    unfold Governor.advanceEpoch
    rw [checkAdvance_detached, hcheck]
  | ok _ =>
    rw [hcheck] at h
    obtain ⟨committed, hcommitted, h⟩ := returns_bind.mp h
    cases committed with
    | error e =>
      obtain ⟨rfl, rfl⟩ := Prod.mk_inj.mp (returns_pure.mp h)
      have hepoch : { g.accounting with epoch := g.epoch } = g.accounting := by
        rw [← hs.epoch]
      refine .cleared (.putBack hcheck) ?_
      unfold Governor.withEpoch Governor.clearStaged Governor.detached
      rw [hepoch]
    | ok durable =>
      obtain ⟨rfl, rfl⟩ := Prod.mk_inj.mp (returns_pure.mp h)
      obtain ⟨recordGeneration, rfl⟩ := Governor.commitAccounting_returns hcommitted
      refine .same (inMemory_advanceEpoch ?_)
      unfold Governor.advanceEpoch
      rw [checkAdvance_detached, hcheck]
      rfl

/-- Whatever a step of a durable governor is, one in memory comes to the same state. -/
lemma Step.echoed (hs : Stamped g) (h : Step g e g') : Echoed g e g' := by
  cases h with
  | ingest snapshot =>
    refine .same ⟨.ingest snapshot, ?_⟩
    show pure _ = _
    rw [ingestEvidence_detached]
  | evaluate request =>
    refine .same ⟨.evaluate request, ?_⟩
    rfl
  | commit h => exact commit_echoed h
  | installPolicy h => exact installPolicy_echoed hs h
  | advanceEpoch h => exact advanceEpoch_echoed hs h
  | clearStaged => exact .same ⟨.clearStaged, rfl⟩
  | shutdown =>
    refine .same ⟨.shutdown, ?_⟩
    show pure _ = _
    rw [shutdown_detached]

/-! ## Runs -/

/-- A snapshot is ingested, and then the epoch is to advance, on whatever file system. -/
lemma advanced_run {σ : Type} (fs : (op : FileOp) → σ → op.Resp × σ) (w : σ) (g : Governor)
    (snapshot : EvidenceSnapshot) (nextEpoch : FabricEpoch) :
    let staged := (g.ingestEvidence snapshot).2
    let advanced := (run fs (staged.advanceEpoch nextEpoch) w).1
    Run Step g [(g, .ingest snapshot (g.ingestEvidence snapshot).1),
      (staged, .advanceEpoch nextEpoch advanced.1)] advanced.2 := by
  intro staged advanced
  exact (Run.nil.snoc (.ingest g snapshot)).snoc (.advanceEpoch (returns_run _ _))

/-- The states that a durable governor goes through are, its store aside, those of a run in memory,
whatever the files respond; and there the events are the same, but for the writes that failed. -/
theorem durable_run_echoed {config : GovernorConfig} {boot : BootId} {start : Governor}
    {trace : List (Governor × Event)} (hopens : Opens config boot start)
    (hrun : Run Step start trace g) :
    ∃ trace' groups, Run InMemory start.detached trace' g.detached ∧
      trace'.map Prod.snd = groups.flatten ∧
      List.Forall₂ (fun entry events => Echo entry.1 entry.2 events) trace groups :=
  (hrun.weakly_simulates Governor.detached hopens.sound fun _ _ _ hs hstep =>
    ⟨hstep.echoed hs.stamped, hstep.sound hs⟩).1

/-- The accounting record cannot be written. -/
theorem durable_run_echoed_refused :
    let staged := ((storedGovernor pairPolicy).ingestEvidence pairSnapshot).2
    let advanced := (run (refusing "store/fairness_accounting.rec.tmp") (staged.advanceEpoch ⟨2⟩)
      (firstOpening pairPolicy).2).1
    ∃ trace groups, Run InMemory (storedGovernor pairPolicy).detached trace advanced.2.detached ∧
      trace.map Prod.snd = groups.flatten ∧
      List.Forall₂ (fun entry events => Echo entry.1 entry.2 events)
        [(storedGovernor pairPolicy,
            .ingest pairSnapshot ((storedGovernor pairPolicy).ingestEvidence pairSnapshot).1),
          (staged, .advanceEpoch ⟨2⟩ advanced.1)] groups := by
  have hopened : (firstOpening pairPolicy).1.isOk = true := by decide +kernel
  have hopens := storedGovernor_opens hopened
  -- nothing of what follows depends on the governor, the snapshot or the files
  generalize storedGovernor pairPolicy = g at hopens ⊢
  generalize pairSnapshot = snapshot
  generalize (firstOpening pairPolicy).2 = dir
  exact durable_run_echoed hopens (advanced_run _ dir g snapshot ⟨2⟩)

end FairnessGovernor
