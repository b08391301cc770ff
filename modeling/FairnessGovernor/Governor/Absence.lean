/-
# Absence of authority is not committed

A commit writes the entries of the subjects that the decision has authority for, and records
its intents, which name no others.  So the entry of a subject without authority is after the
commit what it was before.
-/
import FairnessGovernor.Eval.Absence
import FairnessGovernor.Governor.CommitSpec
import FairnessGovernor.Governor.Sample

namespace FairnessGovernor

open Program Runs

variable {g g' : Governor} {decision : FairnessDecision}

/-- A successful commit leaves the entry of everyone alone whom the decision neither has authority
for nor names in an intent. -/
lemma Applied.untouched {accounting : FairnessAccounting} (h : Applied g decision accounting)
    {id : SubjectId}
    (hwithout : ∀ state ∈ decision.subjects, state.hasAuthority = true → state.id ≠ id)
    (hunnamed : ∀ intent ∈ decision.intents, intent.subject ≠ id) :
    accounting.find id = g.accounting.find id := by
  obtain ⟨entries, hentries, hsubjects⟩ := h.subjects
  rw [find_eq_entryOf, find_eq_entryOf, hsubjects, entryOf_recordIntents.1 hunnamed]
  exact foldlM_applySubject_others hentries hwithout

/-- What an evaluation says of absent evidence, and what a commit makes of it: nothing. -/
theorem absence_has_no_effect {context : EvaluationContext} {policy : FairnessPolicy}
    (hpolicy : context.policy = some policy) (hvalid : validatePolicy policy = .ok ())
    (h : evaluateFairness context = .ok decision) :
    AbsenceDominates decision ∧
      ∀ g governor g', Step g (.commit (decision.signed governor) (.ok ())) g' →
        ∀ state ∈ decision.subjects, state.hasAuthority = false →
          g'.accounting.find state.id = g.accounting.find state.id := by
  have hp := ValidPolicy.of_ok hvalid
  have hdominates := absenceDominates hpolicy hp h
  refine ⟨hdominates, ?_⟩
  intro g governor g' hstep state hstate hwithout
  rcases hstep.books with hbooks | ⟨committed, accounting, generation, heq, -, happlied, rfl⟩
  · rw [find_eq_entryOf, find_eq_entryOf, hbooks.subjects]
  · obtain ⟨rfl, -⟩ := Event.commit.inj heq
    obtain ⟨policy', _, _, _, _, _, _, states, -, hd, -⟩ := evaluateFairness_spec h
    obtain rfl : policy = policy' := Option.some.inj (hpolicy.symm.trans hd.policy_eq)
    refine happlied.untouched ?_ (hdominates.unnamed state hstate hwithout)
    intro other hother hauth hid
    have hsame : other = state := List.inj_on_of_nodup_map (hd.nodup hp) hother hstate hid
    rw [hsame, hwithout] at hauth
    cases hauth

theorem absence_has_no_effect_uncovered : ∃ decision,
    evaluateFairness (uncoveredGovernor.context pairRequest) = .ok decision ∧
    (∃ state ∈ decision.subjects, state.hasAuthority = false) ∧
    (committedTo uncoveredGovernor (decision.signed uncoveredGovernor.incarnation)).1 = .ok () ∧
    AbsenceDominates decision ∧
    ∀ g governor g', Step g (.commit (decision.signed governor) (.ok ())) g' →
      ∀ state ∈ decision.subjects, state.hasAuthority = false →
        g'.accounting.find state.id = g.accounting.find state.id := by
  have hrun : (evaluateFairness (uncoveredGovernor.context pairRequest)).toOption.any
      (fun decision => (∃ state ∈ decision.subjects, state.hasAuthority = false) ∧
        (committedTo uncoveredGovernor
          (decision.signed uncoveredGovernor.incarnation)).1 = .ok ()) = true := by
    decide +kernel
  obtain ⟨decision, hdecision, hboth⟩ := exists_ok_of_any hrun
  obtain ⟨hwithout, hcommitted⟩ := of_decide_eq_true hboth
  exact ⟨decision, hdecision, hwithout, hcommitted,
    absence_has_no_effect rfl (by decide +kernel) hdecision⟩

end FairnessGovernor
