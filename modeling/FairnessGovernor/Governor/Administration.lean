/-
# Failed administrative operations

`install_policy` and `advance_epoch` change the governor in memory before they write to the
store, and put back some of it when a write fails.  What they put back is everything exactly
when nothing had been ingested or the epoch was not to move, and when the second write of an
installation does not fail.
-/
import FairnessGovernor.Governor.Sample
import FairnessGovernor.Governor.Sound

namespace FairnessGovernor

open Program Runs

/-! ## The property and its condition -/

/-- Nothing of what a governor serves or remembers has changed. -/
structure Unchanged (g g' : Governor) : Prop where
  policy : g'.policy = g.policy
  epoch : g'.epoch = g.epoch
  accounting : g'.accounting = g.accounting
  staged : g'.staged = g.staged
  ingested : g'.ingested = g.ingested
  publisherSequences : g'.publisherSequences = g.publisherSequences

/-- An operation that returned an error has changed nothing. -/
def FailsClean (g : Governor) (outcome : Except Status Unit × Governor) : Prop :=
  ∀ status, outcome.1 = .error status → Unchanged g outcome.2

/-- No evidence was ingested since the last clearing. -/
structure NothingIngested (g : Governor) : Prop where
  staged : g.staged.isEmpty = true
  ingested : g.ingested.isEmpty = true
  publisherSequences : g.publisherSequences.isEmpty = true

section Condition

variable {σ : Type} (fs : (op : FileOp) → σ → op.Resp × σ) (w : σ) (g : Governor)

/-- The store takes both records of an installation, or it refuses the first where nothing was
dropped. -/
def InstallRestores (policy : FairnessPolicy) : Prop :=
  match run fs (g.withPolicy policy).commitPolicy.run w with
  | (.error _, _) => policy.epoch = g.epoch ∨ NothingIngested g
  | (.ok stored, w') => ∃ accounted, (run fs stored.commitAccounting.run w').1 = .ok accounted

/-- The store takes the record of an advance, or nothing was dropped. -/
def AdvanceRestores (nextEpoch : FabricEpoch) : Prop :=
  NothingIngested g ∨
    ∃ accounted, (run fs (g.clearStaged.withEpoch nextEpoch).commitAccounting.run w).1 =
      .ok accounted

end Condition

/-! ## The operations -/

section Operations

variable {σ : Type} {fs : (op : FileOp) → σ → op.Resp × σ} {w : σ} {g : Governor}

lemma Unchanged.rfl' : Unchanged g g := ⟨rfl, rfl, rfl, rfl, rfl, rfl⟩

/-- Clearing what was ingested is no change exactly where nothing was ingested. -/
lemma nothingIngested_iff {g' : Governor} (hstaged : g'.staged = {}) (hingested : g'.ingested = {})
    (hsequences : g'.publisherSequences = {}) :
    NothingIngested g ↔ g'.staged = g.staged ∧ g'.ingested = g.ingested ∧
      g'.publisherSequences = g.publisherSequences := by
  rw [hstaged, hingested, hsequences]
  constructor
  · intro h
    exact ⟨(eq_empty_of_isEmpty h.staged).symm, (eq_empty_of_isEmpty h.ingested).symm,
      (eq_empty_of_isEmpty h.publisherSequences).symm⟩
  · rintro ⟨h1, h2, h3⟩
    exact ⟨h1 ▸ rfl, h2 ▸ rfl, h3 ▸ rfl⟩

lemma Stamped.restored (h : Stamped g) : { g.accounting with
    policyGeneration := g.policy.generation, epoch := g.epoch } = g.accounting := by
  rw [← h.policyGeneration, ← h.epoch]

/-- A failed first write of an installation restores everything but what was ingested. -/
lemma unchanged_restorePolicy_iff {policy : FairnessPolicy} (hs : Stamped g)
    (hp : Installable g policy) :
    Unchanged g ((g.withPolicy policy).restorePolicy g) ↔
      policy.epoch = g.epoch ∨ NothingIngested g := by
  rcases withPolicy_cases hp.epoch with ⟨hsame, heq⟩ | ⟨hlt, heq⟩
  · rw [heq]
    exact ⟨fun _ => .inl hsame, fun _ => ⟨rfl, rfl, hs.restored, rfl, rfl, rfl⟩⟩
  · rw [heq]
    have hne : policy.epoch ≠ g.epoch := by
      rintro hsame
      rw [hsame] at hlt
      exact UInt64.lt_irrefl _ hlt
    rw [@nothingIngested_iff g (({ g.clearStaged with
      policy := policy, epoch := policy.epoch, accounting := _ } : Governor).restorePolicy g)
      rfl rfl rfl]
    constructor
    · intro h
      exact .inr ⟨h.staged, h.ingested, h.publisherSequences⟩
    · rintro (hsame | ⟨h1, h2, h3⟩)
      · exact absurd hsame hne
      · exact ⟨rfl, rfl, hs.restored, h1, h2, h3⟩

/-- A failed advance restores everything but what was ingested. -/
lemma unchanged_withEpoch_iff {nextEpoch : FabricEpoch} (hs : Stamped g) :
    Unchanged g ((g.clearStaged.withEpoch nextEpoch).withEpoch g.epoch) ↔ NothingIngested g := by
  rw [@nothingIngested_iff g ((g.clearStaged.withEpoch nextEpoch).withEpoch g.epoch) rfl rfl rfl]
  constructor
  · intro h
    exact ⟨h.staged, h.ingested, h.publisherSequences⟩
  · rintro ⟨h1, h2, h3⟩
    refine ⟨rfl, rfl, ?_, h1, h2, h3⟩
    show { g.accounting with epoch := g.epoch } = g.accounting
    rw [← hs.epoch]

lemma installPolicy_failsClean_iff {policy : FairnessPolicy} (hs : Stamped g) :
    FailsClean g (run fs (g.installPolicy policy) w).1 ↔
      (g.checkInstall policy = .ok () → InstallRestores fs w g policy) := by
  unfold Governor.installPolicy InstallRestores
  cases hcheck : g.checkInstall policy with
  | error status =>
    constructor
    · intro _ h
      cases h
    · intro _ _ _
      exact .rfl'
  | ok _ =>
    have hp := checkInstall_eq_ok.mp hcheck
    dsimp only
    rw [run_bind]
    obtain ⟨⟨committed, w'⟩, hcommitted⟩ :
      ∃ c, run fs (g.withPolicy policy).commitPolicy.run w = c := ⟨_, rfl⟩
    rw [hcommitted]
    cases committed with
    | error status =>
      -- the policy record is refused: the policy and the epoch are put back
      dsimp only
      rw [← unchanged_restorePolicy_iff hs hp]
      exact ⟨fun h _ => h status rfl, fun h _ _ => h rfl⟩
    | ok stored =>
      dsimp only
      rw [run_bind]
      cases haccounted : (run fs stored.commitAccounting.run w').1 with
      | error status =>
        -- the accounting record is refused: the new policy stays
        refine ⟨fun h => ?_, fun h => ?_⟩
        · have hstored : stored.policy = policy := by
            have hreturns : Returns (g.withPolicy policy).commitPolicy.run
                (run fs (g.withPolicy policy).commitPolicy.run w).1 := returns_run _ _
            rw [hcommitted] at hreturns
            obtain ⟨_, rfl⟩ := Governor.commitPolicy_returns hreturns
            rfl
          have hkept : stored.policy = g.policy := (h status rfl).policy
          have hgeneration := hp.generation
          rw [← hkept, hstored] at hgeneration
          exact absurd hgeneration (UInt64.lt_irrefl _)
        · obtain ⟨_, hbad⟩ := h rfl
          cases hbad
      | ok accounted => exact ⟨fun _ _ => ⟨accounted, rfl⟩, fun _ _ h => by cases h⟩

lemma advanceEpoch_failsClean_iff {nextEpoch : FabricEpoch} (hs : Stamped g) :
    FailsClean g (run fs (g.advanceEpoch nextEpoch) w).1 ↔
      (g.checkAdvance nextEpoch = .ok () → AdvanceRestores fs w g nextEpoch) := by
  unfold Governor.advanceEpoch AdvanceRestores
  cases hcheck : g.checkAdvance nextEpoch with
  | error status =>
    constructor
    · intro _ h
      cases h
    · intro _ _ _
      exact .rfl'
  | ok _ =>
    dsimp only
    rw [run_bind]
    cases hcommitted :
        (run fs (g.clearStaged.withEpoch nextEpoch).commitAccounting.run w).1 with
    | error status =>
      dsimp only
      rw [← @unchanged_withEpoch_iff g nextEpoch hs]
      refine ⟨fun h _ => .inl (h status rfl), fun h _ _ => ?_⟩
      rcases h rfl with hunchanged | ⟨_, hbad⟩
      · exact hunchanged
      · cases hbad
    | ok accounted => exact ⟨fun _ _ => .inr ⟨accounted, rfl⟩, fun _ _ h => by cases h⟩

end Operations

/-- In every reachable state, on every file system: a failed administrative operation changes
nothing exactly when its condition holds. -/
theorem failed_administration_iff {σ : Type} (fs : (op : FileOp) → σ → op.Resp × σ) (w : σ)
    {g : Governor} (hg : Reachable g) (policy : FairnessPolicy) (nextEpoch : FabricEpoch) :
    (FailsClean g (run fs (g.installPolicy policy) w).1 ↔
      (g.checkInstall policy = .ok () → InstallRestores fs w g policy)) ∧
    (FailsClean g (run fs (g.advanceEpoch nextEpoch) w).1 ↔
      (g.checkAdvance nextEpoch = .ok () → AdvanceRestores fs w g nextEpoch)) :=
  ⟨installPolicy_failsClean_iff hg.sound.stamped, advanceEpoch_failsClean_iff hg.sound.stamped⟩

theorem failed_administration_iff_memory :
    Reachable (memoryGovernor pairPolicy) ∧
    (FailsClean (memoryGovernor pairPolicy)
        (run handle ((memoryGovernor pairPolicy).installPolicy pairPolicy) fun _ => none).1 ↔
      ((memoryGovernor pairPolicy).checkInstall pairPolicy = .ok () →
        InstallRestores handle (fun _ => none) (memoryGovernor pairPolicy) pairPolicy)) ∧
    (FailsClean (memoryGovernor pairPolicy)
        (run handle ((memoryGovernor pairPolicy).advanceEpoch ⟨2⟩) fun _ => none).1 ↔
      ((memoryGovernor pairPolicy).checkAdvance ⟨2⟩ = .ok () →
        AdvanceRestores handle (fun _ => none) (memoryGovernor pairPolicy) ⟨2⟩)) := by
  have hreachable : Reachable (memoryGovernor pairPolicy) :=
    ⟨_, _, _, _, memoryGovernor_opens (by decide +kernel), .nil⟩
  exact ⟨hreachable, failed_administration_iff handle _ hreachable pairPolicy ⟨2⟩⟩

/-- A file system that cannot write one of its files. -/
def refusing (path : String) : (op : FileOp) → Directory → op.Resp × Directory
  | .writeFile target data, dir =>
    if target = path then (.error ⟨.ioError, "short write"⟩, dir)
    else handle (.writeFile target data) dir
  | op, dir => handle op dir

/-- A governor on a store, with the first window staged. -/
def storedStaged : Governor := ((storedGovernor pairPolicy).ingestEvidence pairSnapshot).2

/-- Where the accounting record cannot be written, a failed installation leaves the new policy in
force, and a failed advance has dropped the evidence. -/
theorem not_failed_administration :
    let fs := refusing "store/fairness_accounting.rec.tmp"
    let dir := (firstOpening pairPolicy).2
    let installed := (run fs (storedStaged.installPolicy
      { pairPolicy with generation := ⟨2⟩ }) dir).1
    let advanced := (run fs (storedStaged.advanceEpoch ⟨2⟩) dir).1
    Reachable storedStaged ∧ ¬ FailsClean storedStaged installed ∧
      ¬ FailsClean storedStaged advanced := by
  intro fs dir installed advanced
  have hopened : (firstOpening pairPolicy).1.isOk = true := by decide +kernel
  -- the file system refuses the temporary file of the accounting record
  have hinstall : installed.1.isOk = false ∧ installed.2.policy.generation = ⟨2⟩ := by
    decide +kernel
  have hadvance : advanced.1.isOk = false ∧ advanced.2.staged.isEmpty = true := by
    decide +kernel
  have hbefore : storedStaged.policy.generation = ⟨1⟩ ∧ storedStaged.staged.isEmpty = false := by
    decide +kernel
  refine ⟨⟨_, _, _, _, storedGovernor_opens hopened, Run.nil.snoc (.ingest _ _)⟩, ?_, ?_⟩
  · intro h
    cases hstatus : installed.1 with
    | ok _ =>
      rw [hstatus] at hinstall
      cases hinstall.1
    | error status =>
      have hsame := (h status hstatus).policy
      have hgeneration := hinstall.2
      rw [hsame, hbefore.1] at hgeneration
      exact absurd hgeneration (by decide)
  · intro h
    cases hstatus : advanced.1 with
    | ok _ =>
      rw [hstatus] at hadvance
      cases hadvance.1
    | error status =>
      have hsame := (h status hstatus).staged
      have hempty := hadvance.2
      rw [hsame, hbefore.2] at hempty
      cases hempty

end FairnessGovernor
