/-
# What holds of every reachable governor

`Sound` is the invariant: the policy is validated, the accounting is stamped, and every staged
snapshot was accepted, is stored under its own window and carries the governor's epoch.  An
operation that moves the epoch drops what is staged, in its rollback too.
-/
import FairnessGovernor.Governor.Opening

namespace FairnessGovernor

open Program Runs

/-! ## Bounded maps -/

section Bounded

variable {α β : Type} {order : α → α → Ordering} {entries : Std.TreeMap α β order} {key : α}
  {value : β}

lemma eq_empty_of_isEmpty (h : entries.isEmpty = true) : entries = {} := by
  obtain ⟨⟨tree, hwf⟩⟩ := entries
  cases tree with
  | leaf => rfl
  | inner => cases h

variable [Std.TransCmp order]

lemma getElem?_eraseFirst (h : (eraseFirst entries)[key]? = some value) :
    entries[key]? = some value := by
  unfold eraseFirst at h
  split at h
  · exact h
  · rw [Std.TreeMap.getElem?_erase] at h
    split_ifs at h
    exact h

lemma getElem?_evict {count : ℕ} (h : (evict count entries)[key]? = some value) :
    entries[key]? = some value := by
  induction count generalizing entries with
  | zero => exact h
  | succ count ih => exact getElem?_eraseFirst (ih h)

/-- Bringing a map within its bound adds nothing to it. -/
lemma getElem?_bounded {limit : ℕ} (h : (bounded limit entries)[key]? = some value) :
    entries[key]? = some value := getElem?_evict h

end Bounded

/-! ## The invariant -/

/-- A snapshot that may be staged under a window. -/
structure StagedUnder (epoch : FabricEpoch) (window : UInt64) (snapshot : EvidenceSnapshot) :
    Prop where
  valid : validateEvidence snapshot = .ok ()
  window : snapshot.window.value = window
  epoch : snapshot.epoch = epoch

/-- What holds of every reachable governor. -/
structure Sound (g : Governor) : Prop where
  policy_valid : validatePolicy g.policy = .ok ()
  stamped : Stamped g
  staged : ∀ window snapshot, g.staged[window]? = some snapshot →
    StagedUnder g.epoch window snapshot

variable {g g' : Governor} {e : Event}

lemma Opens.sound {config : GovernorConfig} {boot : BootId} (h : Opens config boot g) :
    Sound g := by
  obtain ⟨hbooted, hstamped⟩ := h.booted
  refine ⟨hbooted.policy_valid, hstamped, fun window snapshot hstaged => ?_⟩
  rw [hbooted.staged] at hstaged
  simp at hstaged

/-! ## The operations -/

/-- The generations of the durable records are no part of the invariant. -/
lemma Sound.durable (h : Sound g) (policyRecord accountingRecord : UInt64) :
    Sound { g with policyRecordGeneration := policyRecord
                   accountingRecordGeneration := accountingRecord } :=
  ⟨h.policy_valid, ⟨h.stamped.policyId, h.stamped.policyGeneration, h.stamped.epoch⟩, h.staged⟩

lemma clearStaged_sound (h : Sound g) : Sound g.clearStaged := by
  refine ⟨h.policy_valid, ⟨h.stamped.policyId, h.stamped.policyGeneration, h.stamped.epoch⟩, ?_⟩
  intro window snapshot hstaged
  simp [Governor.clearStaged] at hstaged

/-- Another epoch is sound where nothing is staged. -/
lemma withEpoch_sound (h : Sound g) (epoch : FabricEpoch) :
    Sound (g.clearStaged.withEpoch epoch) := by
  refine ⟨h.policy_valid, ⟨h.stamped.policyId, h.stamped.policyGeneration, rfl⟩, ?_⟩
  intro window snapshot hstaged
  simp [Governor.clearStaged, Governor.withEpoch] at hstaged

/-- What an accepted policy satisfies. -/
structure Installable (g : Governor) (policy : FairnessPolicy) : Prop where
  valid : validatePolicy policy = .ok ()
  not_stopping : g.stopping = false
  id : policy.id = g.policy.id
  generation : g.policy.generation.value < policy.generation.value
  epoch : g.epoch.value ≤ policy.epoch.value

lemma checkInstall_eq_ok {policy : FairnessPolicy} :
    g.checkInstall policy = .ok () ↔ Installable g policy := by
  unfold Governor.checkInstall
  rw [bind_unit_eq_ok]
  simp only [rejectIf_bind_eq_ok, rejectIf_eq_ok, not_not, UInt64.not_le, UInt64.not_lt,
    Bool.not_eq_true]
  constructor
  · rintro ⟨h1, h2, h3, h4, h5⟩
    exact ⟨h1, h2, h3, h4, h5⟩
  · rintro ⟨h1, h2, h3, h4, h5⟩
    exact ⟨h1, h2, h3, h4, h5⟩

/-- The governor serves the new policy in the later of the two epochs. -/
lemma withPolicy_cases {policy : FairnessPolicy} (h : g.epoch.value ≤ policy.epoch.value) :
    (policy.epoch = g.epoch ∧ g.withPolicy policy = { g with
        policy := policy
        accounting := { g.accounting with
          policyGeneration := policy.generation, epoch := g.epoch } }) ∨
      g.epoch.value < policy.epoch.value ∧ g.withPolicy policy = { g.clearStaged with
        policy := policy
        epoch := policy.epoch
        accounting := { g.accounting with
          policyGeneration := policy.generation, epoch := policy.epoch } } := by
  unfold Governor.withPolicy
  by_cases hlt : policy.epoch.value > g.epoch.value
  · rw [if_pos hlt]
    exact .inr ⟨hlt, rfl⟩
  · rw [if_neg hlt]
    refine .inl ⟨?_, rfl⟩
    have hvalue : policy.epoch.value = g.epoch.value :=
      UInt64.le_antisymm (UInt64.not_lt.mp hlt) h
    exact congrArg Generation.mk hvalue

lemma withPolicy_sound {policy : FairnessPolicy} (h : Sound g) (hp : Installable g policy) :
    Sound (g.withPolicy policy) := by
  rcases withPolicy_cases hp.epoch with ⟨-, heq⟩ | ⟨-, heq⟩
  · rw [heq]
    exact ⟨hp.valid, ⟨h.stamped.policyId.trans hp.id.symm, rfl, rfl⟩, h.staged⟩
  · rw [heq]
    refine ⟨hp.valid, ⟨h.stamped.policyId.trans hp.id.symm, rfl, rfl⟩, ?_⟩
    intro window snapshot hstaged
    simp [Governor.clearStaged] at hstaged

/-- After a failed installation the policy and the epoch are back. -/
lemma restorePolicy_sound {policy : FairnessPolicy} (h : Sound g) (hp : Installable g policy) :
    Sound ((g.withPolicy policy).restorePolicy g) := by
  rcases withPolicy_cases hp.epoch with ⟨-, heq⟩ | ⟨-, heq⟩
  · rw [heq]
    exact ⟨h.policy_valid, ⟨h.stamped.policyId, rfl, rfl⟩, h.staged⟩
  · rw [heq]
    refine ⟨h.policy_valid, ⟨h.stamped.policyId, rfl, rfl⟩, ?_⟩
    intro window snapshot hstaged
    simp [Governor.clearStaged, Governor.restorePolicy] at hstaged

/-- A snapshot is staged under its window; the others stay where they were. -/
lemma stage_sound {snapshot : EvidenceSnapshot} (h : Sound g)
    (hcheck : g.checkSnapshot snapshot = .ok ()) : Sound (g.stage snapshot) := by
  refine ⟨h.policy_valid, ⟨h.stamped.policyId, h.stamped.policyGeneration, h.stamped.epoch⟩, ?_⟩
  intro window staged hstaged
  have hlookup := getElem?_bounded hstaged
  rw [Std.TreeMap.getElem?_insert] at hlookup
  split_ifs at hlookup with hwindow
  · obtain rfl := Option.some.inj hlookup
    obtain ⟨hvalid, hcheck⟩ := bind_unit_eq_ok.mp hcheck
    obtain ⟨-, hcheck⟩ := rejectIf_bind_eq_ok.mp hcheck
    obtain ⟨hepoch, -⟩ := rejectIf_bind_eq_ok.mp hcheck
    exact ⟨hvalid, Std.LawfulEqCmp.eq_of_compare hwindow, not_not.mp hepoch⟩
  · exact h.staged window staged hlookup

/-! ## Steps and runs -/

/-- Every operation keeps the invariant. -/
theorem Step.sound (h : Step g e g') (hg : Sound g) : Sound g' := by
  cases h.change with
  | none => exact hg
  | staged haccepts => exact stage_sound hg haccepts.checked
  | committed _ _ happly =>
    unfold Governor.applyDecision at happly
    obtain ⟨_, -, happly⟩ := bind_eq_ok.mp happly
    split at happly
    · cases happly
    · obtain rfl := Except.ok.inj happly
      exact ⟨hg.policy_valid, ⟨rfl, rfl, rfl⟩, hg.staged⟩
  | undone hcheck => exact restorePolicy_sound hg (checkInstall_eq_ok.mp hcheck)
  | installed _ _ hcheck =>
    exact (withPolicy_sound hg (checkInstall_eq_ok.mp hcheck)).durable _ _
  | putBack => exact withEpoch_sound hg g.epoch
  | advanced => exact (withEpoch_sound hg _).durable _ _
  | cleared => exact clearStaged_sound hg
  | stopped =>
    have hcleared := clearStaged_sound hg
    exact ⟨hcleared.policy_valid, ⟨hcleared.stamped.policyId, hcleared.stamped.policyGeneration,
      hcleared.stamped.epoch⟩, hcleared.staged⟩

lemma run_sound {start : Governor} {trace : List (Governor × Event)} (h : Run Step start trace g)
    (hstart : Sound start) : Sound g :=
  h.invariant hstart fun _ _ _ ht hstep => hstep.sound ht

theorem Reachable.sound (h : Reachable g) : Sound g := by
  obtain ⟨config, boot, start, trace, hopens, hrun⟩ := h
  exact run_sound hrun hopens.sound

end FairnessGovernor
