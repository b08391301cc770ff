/-
# Epoch fencing

The epoch of a governor never decreases, and everything that belongs to another epoch is kept
out: its snapshots are not staged, its decisions are not committed, and as long as the policy
itself is behind no evaluation has authority.
-/
import FairnessGovernor.Governor.Absence
import FairnessGovernor.Governor.Serialized
import FairnessGovernor.Governor.Sound

namespace FairnessGovernor

open Program Runs

variable {g g' start : Governor} {e : Event} {trace : List (Governor × Event)}

/-! ## One step -/

lemma checkAdvance_eq_ok {nextEpoch : FabricEpoch} (h : g.checkAdvance nextEpoch = .ok ()) :
    g.stopping = false ∧ g.epoch.value < nextEpoch.value := by
  simp only [Governor.checkAdvance, rejectIf_bind_eq_ok, rejectIf_eq_ok, not_or, not_not,
    UInt64.not_le, Bool.not_eq_true] at h
  exact ⟨h.1, h.2.2⟩

lemma withPolicy_epoch {policy : FairnessPolicy} (h : g.epoch.value ≤ policy.epoch.value) :
    (g.withPolicy policy).epoch = policy.epoch := by
  rcases withPolicy_cases h with ⟨hsame, heq⟩ | ⟨-, heq⟩
  · rw [heq, hsame]
  · rw [heq]

/-- What a successful advance has advanced to. -/
lemma Step.advanced {nextEpoch : FabricEpoch} (h : Step g (.advanceEpoch nextEpoch (.ok ())) g') :
    g.epoch.value < nextEpoch.value ∧ g'.epoch = nextEpoch := by
  cases h.change with
  | none hidle => exact hidle.elim
  | advanced _ hcheck => exact ⟨(checkAdvance_eq_ok hcheck).2, rfl⟩

/-- A successful installation brings the governor to the epoch of the policy. -/
lemma Step.installed {policy : FairnessPolicy} (h : Step g (.installPolicy policy (.ok ())) g') :
    g.epoch.value ≤ policy.epoch.value ∧ g'.epoch = policy.epoch := by
  cases h.change with
  | none hidle => exact hidle.elim
  | installed _ _ hcheck =>
    have hepoch := (checkInstall_eq_ok.mp hcheck).epoch
    exact ⟨hepoch, withPolicy_epoch hepoch⟩

/-- No operation takes the epoch back, not even a failed one. -/
lemma Step.epoch_le (h : Step g e g') : g.epoch.value ≤ g'.epoch.value := by
  cases h.change with
  | none | staged | committed | undone | putBack | cleared | stopped => exact UInt64.le_refl _
  | installed _ _ hcheck =>
    have hepoch := (checkInstall_eq_ok.mp hcheck).epoch
    dsimp only
    rw [withPolicy_epoch hepoch]
    exact hepoch
  | advanced _ hcheck => exact UInt64.le_of_lt (checkAdvance_eq_ok hcheck).2

lemma run_epoch_le (h : Run Step start trace g) : start.epoch.value ≤ g.epoch.value :=
  h.related (R := fun a b => a.epoch.value ≤ b.epoch.value) (UInt64.le_refl _)
    fun _ _ _ hle hstep => UInt64.le_trans hle hstep.epoch_le

/-! ## What is kept out -/

/-- A snapshot of another epoch is refused. -/
lemma ingestEvidence_other_epoch {snapshot : EvidenceSnapshot} (h : snapshot.epoch ≠ g.epoch) :
    ∃ status, g.ingestEvidence snapshot = (.error status, g) := by
  unfold Governor.ingestEvidence
  cases hcheck : g.checkSnapshot snapshot with
  | error status => exact ⟨status, rfl⟩
  | ok _ =>
    obtain ⟨-, hcheck⟩ := bind_unit_eq_ok.mp hcheck
    obtain ⟨-, hcheck⟩ := rejectIf_bind_eq_ok.mp hcheck
    exact absurd h (rejectIf_bind_eq_ok.mp hcheck).1

/-- A decision of another epoch is refused. -/
lemma not_commits_other_epoch {decision : FairnessDecision}
    (h : decision.authority.epoch ≠ g.epoch) : ¬ Step g (.commit decision (.ok ())) g' := by
  intro hstep
  cases hstep.change with
  | none hidle => exact hidle
  | committed _ hcheck => exact h (checkDecision_eq_ok.mp hcheck).epoch

/-- While the policy is behind, no evaluation has authority for anyone. -/
lemma evaluate_behind {request : EvaluationRequest} {decision : FairnessDecision}
    (hbehind : g.policy.epoch ≠ g.epoch) (h : g.evaluate request = .ok decision)
    {state : SubjectFairnessState} (hstate : state ∈ decision.subjects) : state.outcome.absent := by
  obtain ⟨-, evaluated, heval, rfl⟩ := Governor.evaluate_eq_ok h
  obtain ⟨tree, eligible, whole, numbered, planned, states, hs, hd, hc, hr⟩ :=
    evaluateFairness_stages rfl rfl heval
  obtain ⟨i, rfl⟩ := hd.mem_iff.mp hstate
  rw [(hr.proposed i).outcome, hs.absent_iff hc, hs.hasAuthority]
  cases eligible with
  | error failure => rfl
  | ok evidence => exact absurd (Eligible.of_ok hs.eligible_eq).policy_epoch hbehind

/-! ## Runs -/

/-- The fence around the epoch of a governor, after a run. -/
structure Fenced (trace : List (Governor × Event)) (g : Governor) : Prop where
  staged : ∀ window snapshot, g.staged[window]? = some snapshot →
    StagedUnder g.epoch window snapshot
  monotone : ∀ t e, (t, e) ∈ trace → t.epoch.value ≤ g.epoch.value
  advanced : ∀ t nextEpoch, (t, .advanceEpoch nextEpoch (.ok ())) ∈ trace →
    t.epoch.value < nextEpoch.value ∧ nextEpoch.value ≤ g.epoch.value
  installed : ∀ t policy, (t, .installPolicy policy (.ok ())) ∈ trace →
    t.epoch.value ≤ policy.epoch.value ∧ policy.epoch.value ≤ g.epoch.value
  refused : ∀ snapshot, snapshot.epoch ≠ g.epoch →
    ∃ status, g.ingestEvidence snapshot = (.error status, g)
  superseded : ∀ t request decision, (t, .evaluate request (.ok decision)) ∈ trace →
    t.epoch ≠ g.epoch → ∀ g', ¬ Step g (.commit decision (.ok ())) g'
  absent : g.policy.epoch ≠ g.epoch → ∀ request decision, g.evaluate request = .ok decision →
    ∀ state ∈ decision.subjects, state.outcome.absent

/-- In every run of an opened governor the epoch is fenced. -/
theorem epochs_fenced {config : GovernorConfig} {boot : BootId} (hopens : Opens config boot start)
    (hrun : Run Step start trace g) : Fenced trace g := by
  refine ⟨(run_sound hrun hopens.sound).staged, ?_, ?_, ?_, fun _ => ingestEvidence_other_epoch, ?_,
    fun hbehind _ _ h _ hstate => evaluate_behind hbehind h hstate⟩
  · intro t e hmem
    obtain ⟨_, _, t', -, -, hstep, hafter⟩ := hrun.upTo hmem
    exact UInt64.le_trans hstep.epoch_le (run_epoch_le hafter)
  · intro t nextEpoch hmem
    obtain ⟨_, _, t', -, -, hstep, hafter⟩ := hrun.upTo hmem
    obtain ⟨hlt, rfl⟩ := hstep.advanced
    exact ⟨hlt, run_epoch_le hafter⟩
  · intro t policy hmem
    obtain ⟨_, _, t', -, -, hstep, hafter⟩ := hrun.upTo hmem
    obtain ⟨hle, heq⟩ := hstep.installed
    exact ⟨hle, heq ▸ run_epoch_le hafter⟩
  · intro t request decision hmem hother g'
    obtain ⟨_, _, t', -, -, hstep, -⟩ := hrun.upTo hmem
    refine not_commits_other_epoch ?_
    rw [evaluate_authority hstep.evaluated.1.symm]
    exact hother

/-- After the first window was evaluated the epoch is advanced: the decision comes too late. -/
theorem epochs_fenced_advanced :
    let calls := [(memoryGovernor pairPolicy,
        .ingest pairSnapshot ((memoryGovernor pairPolicy).ingestEvidence pairSnapshot).1),
      (stagedGovernor, .evaluate pairRequest (stagedGovernor.evaluate pairRequest)),
      (stagedGovernor, .advanceEpoch ⟨2⟩ (.ok ()))]
    let advanced := stagedGovernor.clearStaged.withEpoch ⟨2⟩
    (stagedGovernor.evaluate pairRequest).isOk ∧ stagedGovernor.epoch ≠ advanced.epoch ∧
      Fenced calls advanced := by
  intro calls advanced
  have hopens : Opens (memoryConfig pairPolicy) ⟨7⟩ (memoryGovernor pairPolicy) :=
    memoryGovernor_opens (by decide +kernel)
  have hadvance : Returns (stagedGovernor.advanceEpoch ⟨2⟩) (.ok (), advanced) := by
    have hcheck : stagedGovernor.checkAdvance ⟨2⟩ = .ok () := by decide +kernel
    unfold Governor.advanceEpoch
    rw [hcheck]
    rfl
  exact ⟨by decide +kernel, by decide +kernel, epochs_fenced hopens
    (((Run.nil.snoc (.ingest _ _)).snoc (.evaluate _ _)).snoc (.advanceEpoch hadvance))⟩

end FairnessGovernor
