/-
# Decisions between their evaluation and their commit

A commit takes a decision only at the policy and the accounting generation it was evaluated at.
Both generations only advance, so at the commit the policy and the entries are those of the
evaluation, however many operations lie between.
-/
import FairnessGovernor.Governor.Preview

namespace FairnessGovernor

open Program Runs

variable {g g' start : Governor} {e : Event} {trace : List (Governor × Event)}

lemma SameBooks.trans {a b c : FairnessAccounting} (h₁ : SameBooks a b) (h₂ : SameBooks b c) :
    SameBooks a c := by
  obtain ⟨_, _, rfl⟩ := h₁
  obtain ⟨_, _, rfl⟩ := h₂
  exact ⟨_, _, rfl⟩

/-- An operation that is no successful commit leaves the books alone. -/
lemma Step.books_cases (h : Step g e g') :
    (SameBooks g.accounting g'.accounting ∧ ∀ decision, e ≠ .commit decision (.ok ())) ∨
      ∃ decision accounting generation, e = .commit decision (.ok ()) ∧
        Checked g decision ∧ Applied g decision accounting ∧
        g' = { g with accounting := accounting, accountingRecordGeneration := generation } := by
  rcases h.books with hbooks | hcommit
  · refine .inl ⟨hbooks, fun decision heq => ?_⟩
    have hnext := (h.atomic.committed decision heq).1
    rw [hbooks.generation] at hnext
    omega
  · exact .inr hcommit

/-- Along a run the identities of the entries stay distinct. -/
lemma run_nodup (h : Run Step start trace g)
    (hstart : (start.accounting.subjects.map (·.id)).Nodup) :
    (g.accounting.subjects.map (·.id)).Nodup := by
  refine h.invariant (P := fun s => (s.accounting.subjects.map (·.id)).Nodup) hstart ?_
  intro t e u ht hstep
  rcases hstep.books with hbooks | ⟨decision, accounting, _, -, -, happlied, rfl⟩
  · rw [hbooks.subjects]
    exact ht
  · exact happlied.nodup ht

/-- Along a run the accounting generation does not decrease. -/
lemma run_generation_le (h : Run Step start trace g) :
    start.accounting.generation.toNat ≤ g.accounting.generation.toNat := by
  rw [(serialized_run h).1.counted]
  exact Nat.le_add_right _ _

/-- A run that ends at the accounting generation it started from has left the books alone. -/
lemma run_sameBooks (h : Run Step start trace g)
    (hgeneration : g.accounting.generation = start.accounting.generation) :
    SameBooks start.accounting g.accounting := by
  induction h with
  | nil => exact .rfl'
  | @snoc trace t u e hrun hstep ih =>
    have hle := run_generation_le hrun
    rcases hstep.books with hbooks | ⟨decision, accounting, _, -, -, happlied, rfl⟩
    · exact (ih (hbooks.generation.symm.trans hgeneration)).trans hbooks
    · -- a commit would have advanced the generation
      have hnext := happlied.generation
      rw [show accounting.generation = start.accounting.generation from hgeneration] at hnext
      omega

/-- An operation leaves the policy alone, or it puts a later generation in its place. -/
lemma Step.policy_cases (h : Step g e g') :
    g'.policy = g.policy ∨ g.policy.generation.value < g'.policy.generation.value := by
  cases h.change with
  | installed _ _ hcheck => exact .inr (checkInstall_eq_ok.mp hcheck).generation
  | none | staged | committed | undone | putBack | advanced | cleared | stopped => exact .inl rfl

/-- Along a run the policy generation does not decrease, and where it stays the policy stays. -/
lemma run_policy (h : Run Step start trace g) :
    start.policy.generation.value ≤ g.policy.generation.value ∧
      (g.policy.generation = start.policy.generation → g.policy = start.policy) := by
  induction h with
  | nil => exact ⟨UInt64.le_refl _, fun _ => rfl⟩
  | @snoc trace t u e hrun hstep ih =>
    obtain ⟨hle, hsame⟩ := ih
    rcases hstep.policy_cases with heq | hlt
    · rw [heq]
      exact ⟨hle, hsame⟩
    · refine ⟨UInt64.le_of_lt (UInt64.lt_of_le_of_lt hle hlt), fun hgeneration => ?_⟩
      rw [hgeneration] at hlt
      exact absurd (UInt64.lt_of_le_of_lt hle hlt) (UInt64.lt_irrefl _)

/-- The committed decision was evaluated by this governor, earlier in the run. -/
def EvaluatedIn (trace : List (Governor × Event)) (decision : FairnessDecision) : Prop :=
  ∃ t request, (t, .evaluate request (.ok decision)) ∈ trace

/-- At its commit, a decision that was evaluated earlier in the run finds the policy and the
entries it was computed from. -/
theorem evaluatedIn_spec {decision : FairnessDecision} (hstart : Sound start)
    (hrun : Run Step start trace g) (hevaluated : EvaluatedIn trace decision)
    (hchecked : Checked g decision) :
    (decision.subjects.map (·.id)).Nodup ∧ ∀ state ∈ decision.subjects,
      state.hasAuthority = true → Projected g.policy g.accounting.subjects state := by
  obtain ⟨t, request, hmem⟩ := hevaluated
  obtain ⟨_, _, t', -, hbefore, hstep, hafter⟩ := hrun.upTo hmem
  obtain ⟨hresult, rfl⟩ := hstep.evaluated
  have ht : Sound t' := run_sound hbefore hstart
  have hauthority := evaluate_authority hresult.symm
  have hpolicy : g.policy = t'.policy := by
    refine (run_policy hafter).2 ?_
    rw [← hchecked.policyGeneration, hauthority]
    rfl
  have hbooks : SameBooks t'.accounting g.accounting := by
    refine run_sameBooks hafter ?_
    rw [← hchecked.accountingGeneration, hauthority]
    rfl
  constructor
  · obtain ⟨-, evaluated, heval, rfl⟩ := Governor.evaluate_eq_ok hresult.symm
    obtain ⟨_, _, _, _, _, _, -, hd, -⟩ := evaluateFairness_stages rfl rfl heval
    exact hd.nodup (ValidPolicy.of_ok ht.policy_valid)
  · intro state hstate hauth
    rw [hpolicy, hbooks.subjects]
    exact evaluate_projected ht hresult.symm hstate hauth

end FairnessGovernor
