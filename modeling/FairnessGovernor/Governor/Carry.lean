/-
# What the entries of a reachable governor carry

A commit saturates the carry of every entry it updates at the bound of the policy, and a decoded
record is within the largest such bound.  So the carry of every reachable governor is within the
bounded domain, and there an evaluation fails at a shutdown or on a discarded counter only.
-/
import FairnessGovernor.Eval.Overflow
import FairnessGovernor.Governor.Population

namespace FairnessGovernor

open Program Runs

variable {g g' : Governor} {e : Event} {request : EvaluationRequest}
  {decision : FairnessDecision} {accounting : FairnessAccounting}

/-! ## The carry -/

/-- A commit leaves the carry within the bounded domain, whatever the decision reports. -/
lemma Applied.boundedCarry (h : Applied g decision accounting) (hg : Sound g)
    (hcarry : BoundedCarry g.accounting.subjects) : BoundedCarry accounting.subjects := by
  have hmax := (ValidPolicy.of_ok hg.policy_valid).maxCarry_le
  have hword : kMaxCarryUnits < 2 ^ 64 := by decide
  refine h.forall_entries (fun _ _ _ => ⟨Nat.zero_le _, Nat.zero_le _⟩) ?_ ?_ hcarry
  · intro state _ _ entry updated hupdated _
    obtain ⟨carry, happlied, -, rfl⟩ := applyState_eq_ok.mp hupdated
    obtain ⟨-, -, hdeficit, hsurplus, -⟩ := applyWindowCarry_eq_some happlied
    constructor
    · show (UInt64.ofNat carry.cumulativeDeficit).toNat ≤ _
      rw [UInt64.toNat_ofNat_of_lt' (lt_of_le_of_lt (hdeficit.trans hmax) hword)]
      exact hdeficit.trans hmax
    · show (UInt64.ofNat carry.cumulativeSurplus).toNat ≤ _
      rw [UInt64.toNat_ofNat_of_lt' (lt_of_le_of_lt (hsurplus.trans hmax) hword)]
      exact hsurplus.trans hmax
  · rintro a _ ⟨_, _, rfl⟩ ha
    exact ha

lemma Step.boundedCarry (h : Step g e g') (hg : Sound g)
    (hcarry : BoundedCarry g.accounting.subjects) : BoundedCarry g'.accounting.subjects := by
  rcases h.books with hbooks | ⟨decision, accounting, _, -, -, happlied, rfl⟩
  · rw [hbooks.subjects]
    exact hcarry
  · exact happlied.boundedCarry hg hcarry

/-- In every reachable governor the carry is within the bounded domain. -/
theorem Reachable.boundedCarry (h : Reachable g) : BoundedCarry g.accounting.subjects := by
  obtain ⟨config, boot, start, trace, hopens, hrun⟩ := h
  have hboth := hrun.invariant (P := fun s => Sound s ∧ BoundedCarry s.accounting.subjects)
    ⟨hopens.sound, hopens.booted.1.accounting_valid.boundedCarry⟩
    fun t e u ht hstep => ⟨hstep.sound ht.1, hstep.boundedCarry ht.1 ht.2⟩
  exact hboth.2

/-! ## Evaluations that succeed -/

/-- A reachable governor that is not shutting down evaluates every request for which the discarded
counters have room. -/
theorem Reachable.evaluate_ok (h : Reachable g) (hrunning : g.stopping = false)
    (hroom : ¬ CarryOverflows (g.context request) g.policy g.accounting) :
    ∃ decision, g.evaluate request = .ok decision := by
  have hg := h.sound
  unfold Governor.evaluate
  rw [hrunning, if_neg Bool.false_ne_true]
  rcases @evaluateFairness_total (g.context request) g.policy g.accounting rfl rfl hg.policy_valid
    (fun evidence hevidence => (hg.staged _ _ hevidence).valid) h.boundedCarry with
    ⟨decision, hdecision⟩ | ⟨-, hoverflow⟩
  · rw [hdecision]
    exact ⟨_, rfl⟩
  · exact absurd hoverflow hroom

/-- In a reachable governor discarded counters in the lower half of their words have room. -/
lemma Reachable.not_carryOverflows (h : Reachable g)
    (hdiscarded : ∀ entry ∈ g.accounting.subjects, entry.discardedDeficit.toNat < 2 ^ 63 ∧
      entry.discardedSurplus.toNat < 2 ^ 63) :
    ¬ CarryOverflows (g.context request) g.policy g.accounting :=
  FairnessGovernor.not_carryOverflows h.sound.policy_valid
    (fun _ hevidence => (h.sound.staged _ _ hevidence).valid) h.boundedCarry hdiscarded

end FairnessGovernor
