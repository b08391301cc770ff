/-
# Decisions without evidence

`commit` checks the authority of a decision, but not that it has any.  A decision about a window
for which there is no eligible evidence is refused only for reasons that have nothing to do with
evidence; otherwise it is committed, and the window and everything before it is burned.
-/
import FairnessGovernor.Governor.Preview

namespace FairnessGovernor

open Program Runs

/-- Nothing of the books has moved, and the commit was refused. -/
structure RefusedUntouched (g : Governor) (outcome : Except Status Unit × Governor) : Prop where
  refused : ∃ status, outcome.1 = .error status
  lastWindow : outcome.2.accounting.lastWindow = g.accounting.lastWindow
  generation : outcome.2.accounting.generation = g.accounting.generation
  entries : outcome.2.accounting.subjects = g.accounting.subjects

/-- The accounting in which a window was committed for nobody. -/
def Governor.burned (g : Governor) (request : EvaluationRequest) : FairnessAccounting :=
  { g.accounting with
    policyId := g.policy.id
    policyGeneration := g.policy.generation
    epoch := g.epoch
    generation := g.accounting.generation + 1
    lastWindow := request.window
    lastWindowGeneration := request.windowGeneration
    writerBoot := g.incarnation.boot }

/-- The request names a window past the last committed one, the accounting generation can
advance, and the store takes the record. -/
structure Burns {σ : Type} (fs : (op : FileOp) → σ → op.Resp × σ) (w : σ) (g : Governor)
    (request : EvaluationRequest) : Prop where
  committable : Committable g request
  room : g.accounting.generation.toNat + 1 ≤ kUInt64Max
  stored : ∃ durable,
    (run fs { g with accounting := g.burned request }.commitAccounting.run w).1 = .ok durable

variable {g : Governor} {request : EvaluationRequest} {decision : FairnessDecision}

/-- Subjects without authority are skipped. -/
lemma foldlM_applySubject_without {policy : FairnessPolicy} {states : List SubjectFairnessState}
    {entries : List SubjectAccounting} (h : ∀ state ∈ states, state.hasAuthority = false) :
    states.foldlM (applySubject policy) entries = .ok entries := by
  induction states with
  | nil => rfl
  | cons state rest ih =>
    have hstate : ¬ state.hasAuthority = true := by
      rw [h state List.mem_cons_self]
      exact Bool.false_ne_true
    rw [List.foldlM_cons, applySubject, if_pos hstate, ok_bind]
    exact ih fun s hs => h s (List.mem_cons_of_mem _ hs)

/-- Without authority for anyone, applying a decision burns its window. -/
lemma applyDecision_burned (h : g.evaluate request = .ok decision)
    (hwithout : ∀ state ∈ decision.subjects, state.hasAuthority = false)
    (hintents : decision.intents = []) :
    g.applyDecision decision =
      if g.accounting.generation.toNat + 1 ≤ kUInt64Max then .ok (g.burned request)
      else .error ⟨.arithmeticOverflow, "accounting generation exhausted"⟩ := by
  unfold Governor.applyDecision
  rw [foldlM_applySubject_without hwithout, ok_bind, hintents, evaluate_authority h]
  by_cases hroom : g.accounting.generation.toNat + 1 ≤ kUInt64Max
  · rw [if_pos hroom, checkedAdd_of_le hroom]
    have hnext : UInt64.ofNat (g.accounting.generation.toNat + 1) = g.accounting.generation + 1 := by
      rw [UInt64.ofNat_add, UInt64.ofNat_toNat]
      rfl
    dsimp only
    rw [hnext]
    rfl
  · rw [if_neg hroom, checkedAdd_eq_none.mpr (by omega)]

/-- In every reachable state, on every file system: a decision without evidence is refused, with
the books untouched, exactly when its window cannot be burned. -/
theorem absence_refused_iff {σ : Type} (fs : (op : FileOp) → σ → op.Resp × σ) (w : σ)
    (hg : Reachable g) (h : g.evaluate request = .ok decision)
    (hmissing : decision.correction.authorityMissing = true) :
    RefusedUntouched g (run fs (g.commit decision) w).1 ↔ ¬ Burns fs w g request := by
  have hchecked := evaluate_checked_iff hg.sound h
  -- without evidence a decision moves no entry, so only the generation can be in the way
  have happly : g.applyDecision decision =
      if g.accounting.generation.toNat + 1 ≤ kUInt64Max then .ok (g.burned request)
      else .error ⟨.arithmeticOverflow, "accounting generation exhausted"⟩ := by
    have hp := ValidPolicy.of_ok hg.sound.policy_valid
    obtain ⟨-, evaluated, heval, hsigned⟩ := Governor.evaluate_eq_ok h
    have hdominates := absenceDominates rfl hp heval
    obtain ⟨tree, eligible, whole, numbered, planned, states, hs, hd, -⟩ :=
      evaluateFairness_stages rfl rfl heval
    rw [hsigned] at hmissing
    refine applyDecision_burned h (fun state hstate => ?_) ?_
    · rw [hsigned] at hstate
      obtain ⟨i, rfl⟩ := hd.mem_iff.mp hstate
      rw [(hd.reported i).hasAuthority]
      exact hs.ineligible (hd.correction ▸ hmissing) i
    · rw [hsigned]
      exact hdominates.ineligible hmissing
  unfold Governor.commit
  cases hcheck : g.checkDecision decision with
  | error status =>
    refine ⟨fun _ hburns => ?_, fun _ => ⟨⟨status, rfl⟩, rfl, rfl, rfl⟩⟩
    rw [checkDecision_eq_ok.mpr (hchecked.mpr hburns.committable)] at hcheck
    cases hcheck
  | ok _ =>
    have hcommittable := hchecked.mp (checkDecision_eq_ok.mp hcheck)
    by_cases hroom : g.accounting.generation.toNat + 1 ≤ kUInt64Max
    · rw [happly, if_pos hroom]
      dsimp only
      rw [run_bind]
      cases hstored : (run fs { g with accounting := g.burned request }.commitAccounting.run w).1 with
      | error status =>
        refine ⟨fun _ hburns => ?_, fun _ => ⟨⟨status, rfl⟩, rfl, rfl, rfl⟩⟩
        obtain ⟨_, hbad⟩ := hburns.stored
        rw [hstored] at hbad
        cases hbad
      | ok durable =>
        refine ⟨fun hrefused => ?_, fun hnot => absurd ⟨hcommittable, hroom, durable, hstored⟩ hnot⟩
        obtain ⟨_, hbad⟩ := hrefused.refused
        cases hbad
    · rw [happly, if_neg hroom]
      exact ⟨fun _ hburns => hroom hburns.room, fun _ => ⟨⟨_, rfl⟩, rfl, rfl, rfl⟩⟩

/-- A request about a window in the far future, for which there is no evidence. -/
def farRequest : EvaluationRequest := { pairRequest with window := ⟨1000000000000⟩ }

/-- The decision about it. -/
def farDecision : FairnessDecision :=
  decisionOf ((memoryGovernor pairPolicy).evaluate farRequest)

lemma memoryGovernor_reachable : Reachable (memoryGovernor pairPolicy) :=
  ⟨_, _, _, _, memoryGovernor_opens (by decide +kernel), .nil⟩

theorem absence_refused_iff_far :
    (RefusedUntouched (memoryGovernor pairPolicy)
        (run handle ((memoryGovernor pairPolicy).commit farDecision) fun _ => none).1 ↔
      ¬ Burns handle (fun _ => none) (memoryGovernor pairPolicy) farRequest) := by
  have hrun : ((memoryGovernor pairPolicy).evaluate farRequest).toOption.any
      (fun decision => decision.correction.authorityMissing = true) = true := by
    decide +kernel
  obtain ⟨decision, hdecision, hmissing⟩ := exists_ok_of_any hrun
  have hfar : farDecision = decision := by
    unfold farDecision
    rw [hdecision]
    rfl
  rw [hfar]
  exact absence_refused_iff handle _ memoryGovernor_reachable hdecision (of_decide_eq_true hmissing)

/-- Without any evidence the window in the far future is committed. -/
theorem not_absence_refused :
    Reachable (memoryGovernor pairPolicy) ∧
    (memoryGovernor pairPolicy).evaluate farRequest = .ok farDecision ∧
    farDecision.correction.authorityMissing = true ∧
    ¬ RefusedUntouched (memoryGovernor pairPolicy)
      (run handle ((memoryGovernor pairPolicy).commit farDecision) fun _ => none).1 := by
  have hrun : ((memoryGovernor pairPolicy).evaluate farRequest).toOption.any
      (fun decision => decision.correction.authorityMissing = true ∧
        (committedTo (memoryGovernor pairPolicy) decision).2.accounting.lastWindow =
          ⟨1000000000000⟩) = true := by
    decide +kernel
  obtain ⟨decision, hdecision, hboth⟩ := exists_ok_of_any hrun
  obtain ⟨hmissing, hburned⟩ := of_decide_eq_true hboth
  have hfar : farDecision = decision := by
    unfold farDecision
    rw [hdecision]
    rfl
  rw [hfar]
  refine ⟨memoryGovernor_reachable, hdecision, hmissing, fun hrefused => ?_⟩
  have hsame := hrefused.lastWindow
  rw [show (run handle ((memoryGovernor pairPolicy).commit decision) fun _ => none).1.2 =
    (committedTo (memoryGovernor pairPolicy) decision).2 from rfl, hburned] at hsame
  exact absurd hsame (by decide)

end FairnessGovernor
