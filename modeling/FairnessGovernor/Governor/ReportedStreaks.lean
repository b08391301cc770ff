/-
# Streaks that a producer reports

A subject starves by the larger of the governor's own streak and the one the producer reports.
The governor's streaks end when a subject is served its floor, and the evidence validator refuses
an observation that is served and unserved at once; it accepts one that is served its floor and
reports a streak below the floor.  Such a subject is treated as starving, and the reported streak
is committed.  `starvesOnlyShort_iff` is the exact condition.
-/
import FairnessGovernor.Eval.Demand
import FairnessGovernor.Governor.Preview

namespace FairnessGovernor

/-! ## Starving now -/

/-- The subject of a record is not treated as starving, and its streak ends. -/
structure NotStarving (decision : FairnessDecision) (state : SubjectFairnessState) : Prop where
  outcome : state.outcome ≠ .starvationRisk
  intents : ∀ intent ∈ decision.intents, intent.subject = state.id → intent.fromStarvation = false
  streak : state.belowFloorStreak = 0
  committed : ∀ (g : Governor) (governor : Incarnation) (accounting : FairnessAccounting),
    g.applyDecision (decision.signed governor) = .ok accounting →
    ∀ entry ∈ accounting.find state.id, entry.belowFloorStreak = 0

/-- Only a subject that was served nothing, or less than its floor, is treated as starving. -/
def StarvesOnlyShort (policy : FairnessPolicy) (decision : FairnessDecision) : Prop :=
  ∀ subject ∈ policy.subjects, ∀ state ∈ decision.subjects, state.id = subject.id →
    0 < state.servedUnits → subject.guaranteeFloor.toNat ≤ state.servedUnits →
    NotStarving decision state

/-- No observation that speaks for a subject reports a streak below a floor it was served. -/
def StreaksAgree (context : EvaluationContext) (policy : FairnessPolicy)
    (accounting : FairnessAccounting) : Prop :=
  ∃ covered, coverage context policy accounting = .ok covered ∧
    ∀ i, ∀ observation ∈ observationFor context policy covered i,
      0 < observation.servedUnits.toNat →
      (subjectAt policy i).guaranteeFloor.toNat ≤ observation.servedUnits.toNat →
      observation.belowFloorStreak = 0

/-! ## The streaks of a plan -/

section Streaks

variable {accounting : FairnessAccounting} {subject : Subject} {observation : SubjectObservation}

lemma max_zero_streak (streak : UInt32) : max 0 streak = streak :=
  if_pos (UInt32.le_iff_toNat_le.mpr (Nat.zero_le _))

/-- Served its floor, a subject starves only by what its producer reports. -/
lemma starvesIn_eq_false (hvalid : ValidObservation observation)
    (hserved : 0 < observation.servedUnits.toNat)
    (hfloor : subject.guaranteeFloor.toNat ≤ observation.servedUnits.toNat)
    (hstreak : observation.belowFloorStreak = 0) :
    starvesIn accounting subject observation = false := by
  have hunserved : observation.unservedStreak = 0 := by
    refine hvalid.served_or_unserved.resolve_left fun h => ?_
    rw [h] at hserved
    exact Nat.lt_irrefl _ hserved
  unfold starvesIn
  dsimp only
  rw [if_neg hserved.ne', if_neg (fun h => hfloor.not_gt h.2), hunserved, hstreak,
    max_zero_streak, Bool.or_eq_false_iff, decide_eq_false_iff_not, decide_eq_false_iff_not]
  exact ⟨fun h => UInt32.not_lt.mpr h.2 h.1, fun h => UInt32.not_lt.mpr h.2.2 h.1⟩

end Streaks

section Evaluation

variable {context : EvaluationContext} {policy : FairnessPolicy}
  {accounting : FairnessAccounting} {tree : GroupTree policy} {decision : FairnessDecision}
  {eligible : Except EvidenceFailure EvidenceSnapshot} {whole : ℕ} {numbered : Plans policy}
  {planned : Planned policy} {states : SubjectIndex policy → SubjectFairnessState}
  {i : SubjectIndex policy} {observation : SubjectObservation}

/-- Served its floor, a subject is reported with the streak its producer reports. -/
lemma EvaluationStages.reported_streak
    (hs : EvaluationStages context policy accounting tree eligible whole numbered planned)
    (hi : (planned.plans i).hasAuthority = true)
    (hobserved : observationFor context policy
      (authorityPlans context.request accounting eligible) i = some observation)
    (hfloor : (subjectAt policy i).guaranteeFloor.toNat ≤ observation.servedUnits.toNat) :
    (planned.plans i).belowFloorStreak = observation.belowFloorStreak := by
  obtain ⟨evidence, found, heligible, hfind, hsame, hserved⟩ := hs.observed hi
  obtain rfl := Option.some.inj (hobserved.symm.trans hsame)
  have hn := hs.numbered_of_authority hi
  have hnumbers := hs.sameNumbers i
  rw [(hs.settled i).belowFloorStreak, heligible]
  show (starvationPlan evidence (subjectAt policy i) (numbered i)).belowFloorStreak = _
  rw [(starvationPlan_observed hn.hasAuthority hfind).2.1, hn.belowFloorStreak,
    ← hnumbers.served, hserved, if_neg (fun h => hfloor.not_gt h.2), max_zero_streak]

/-- An intent is flagged as from starvation when the plan of its subject starves. -/
lemma Evaluated.fromStarvation (hp : ValidPolicy policy)
    (hd : Evaluated context policy accounting planned states decision)
    {intent : CorrectiveIntent} (hintent : intent ∈ decision.intents)
    (hname : intent.subject = (subjectAt policy i).id)
    (hstarving : (planned.plans i).starving = false) : intent.fromStarvation = false := by
  obtain ⟨augments, reduces, hintents, haugments, hreduces⟩ := hd.issued
  rw [hintents, List.mem_append] at hintent
  rcases hintent with hintent | hintent
  · obtain ⟨j, -, _, -, rfl⟩ := haugments.mem hintent
    obtain rfl := hp.subjectAt_injective hname
    exact hstarving
  · obtain ⟨j, -, _, -, rfl⟩ := hreduces.mem hintent
    rfl

/-- What a commit writes is the streak of the record. -/
lemma committed_streak {g : Governor} {governor : Incarnation} {after : FairnessAccounting}
    {state : SubjectFairnessState} {entry : SubjectAccounting}
    (hnodup : (decision.subjects.map (·.id)).Nodup) (hstate : state ∈ decision.subjects)
    (hauth : state.hasAuthority = true)
    (happly : g.applyDecision (decision.signed governor) = .ok after)
    (hentry : after.find state.id = some entry) :
    entry.belowFloorStreak = state.belowFloorStreak := by
  have happlied := applyDecision_eq_ok happly
  obtain ⟨updated, found, hupdated, ⟨_, _, hsame⟩, hfound⟩ :=
    happlied.entry (show ((decision.signed governor).subjects.map (·.id)).Nodup from hnodup)
      hstate hauth
  obtain rfl := Option.some.inj (hentry.symm.trans hfound)
  obtain ⟨carry, -, -, rfl⟩ := applyState_eq_ok.mp hupdated
  rw [hsame]
  rfl

/-- Where only short subjects starve, no producer contradicts what it serves. -/
lemma EvaluationStages.streak_of_short
    (hs : EvaluationStages context policy accounting tree eligible whole numbered planned)
    (hd : Evaluated context policy accounting planned states decision)
    (hshort : StarvesOnlyShort policy decision)
    (hobserved : observationFor context policy
      (authorityPlans context.request accounting eligible) i = some observation)
    (hserved : 0 < observation.servedUnits.toNat)
    (hfloor : (subjectAt policy i).guaranteeFloor.toNat ≤ observation.servedUnits.toNat) :
    observation.belowFloorStreak = 0 := by
  -- only a plan with authority is observed
  have hi : (planned.plans i).hasAuthority = true := by
    by_contra hnot
    rw [hs.unobserved (Bool.eq_false_of_not_eq_true hnot)] at hobserved
    cases hobserved
  obtain ⟨_, found, -, -, hfound, hplan⟩ := hs.observed hi
  obtain rfl := Option.some.inj (hfound.symm.trans hobserved)
  have hstate : (states i).servedUnits = found.servedUnits.toNat :=
    (hd.reported i).served.trans hplan
  have hnot := hshort (subjectAt policy i) (List.get_mem _ _) (states i)
    (hd.mem_iff.mpr ⟨i, rfl⟩) (hd.reported i).id (by rw [hstate]; exact hserved)
    (by rw [hstate]; exact hfloor)
  rw [← hs.reported_streak hi hobserved hfloor, ← (hd.reported i).belowFloorStreak]
  exact hnot.streak

/-- A subject that was served its floor does not starve, unless its producer says so. -/
lemma EvaluationStages.notStarving
    (hs : EvaluationStages context policy accounting tree eligible whole numbered planned)
    (hd : Evaluated context policy accounting planned states decision)
    (hcorrect : correctPlans whole (!eligible.isOk)
      (askingPlans context.request accounting eligible numbered) =
        .ok (planned.plans, planned.correction))
    (hconcluded : Concluded planned states decision) (hp : ValidPolicy policy)
    (hevidence : ∀ evidence ∈ context.evidence, validateEvidence evidence = .ok ())
    (hagree : ∀ observation, observationFor context policy
        (authorityPlans context.request accounting eligible) i = some observation →
      0 < observation.servedUnits.toNat →
      (subjectAt policy i).guaranteeFloor.toNat ≤ observation.servedUnits.toNat →
      observation.belowFloorStreak = 0)
    (hserved : 0 < (states i).servedUnits)
    (hfloor : (subjectAt policy i).guaranteeFloor.toNat ≤ (states i).servedUnits) :
    NotStarving decision (states i) := by
  have hc : Corrected policy whole (!eligible.isOk)
      (askingPlans context.request accounting eligible numbered) planned.plans
      planned.correction := correctPlans_corrected hcorrect
  rw [(hd.reported i).served] at hserved hfloor
  -- a subject without authority was served nothing
  have hi : (planned.plans i).hasAuthority = true := by
    by_contra hnot
    have hzero : (planned.plans i).served = 0 := by
      rw [(hc.settled i).served, hs.without (Bool.eq_false_of_not_eq_true hnot)]
      exact authorityPlans_served_eq_zero (by rwa [← hs.hasAuthority])
    omega
  obtain ⟨evidence, observation, heligible, hfind, hobserved, hplan⟩ := hs.observed hi
  rw [hplan] at hserved hfloor
  have hstreak := hagree observation hobserved hserved hfloor
  have hreported : (states i).belowFloorStreak = 0 := by
    rw [(hd.reported i).belowFloorStreak, hs.reported_streak hi hobserved hfloor, hstreak]
  have hstarving : (planned.plans i).starving = false := by
    have hsnapshot := ValidEvidence.of_ok
      (hevidence evidence (Eligible.of_ok (heligible ▸ hs.eligible_eq)).staged)
    rw [starving_eq hs hi, starvesAt, hobserved]
    exact starvesIn_eq_false
      (hsnapshot.observation_valid _ (List.mem_of_find?_eq_some hfind)) hserved hfloor hstreak
  refine ⟨fun hrisk => ?_, fun intent hintent hintended => ?_, hreported,
    fun g governor after happly entry hentry => ?_⟩
  · rw [(hconcluded.proposed i).outcome] at hrisk
    have hasking := correctPlans_starvationRisk hcorrect
      ((hc.settled i).hasAuthority.symm.trans hi) hrisk
    rw [← (hc.settled i).starving, hstarving] at hasking
    cases hasking
  · exact hd.fromStarvation hp hintent (hintended.trans (hd.reported i).id) hstarving
  · rw [committed_streak (hd.nodup hp) (hd.mem_iff.mpr ⟨i, rfl⟩)
      ((hd.reported i).hasAuthority.trans hi) happly hentry, hreported]

end Evaluation

/-- Only subjects that are short now are treated as starving exactly when no producer reports a
streak below a floor that its subject was served. -/
theorem starvesOnlyShort_iff {context : EvaluationContext} {policy : FairnessPolicy}
    {accounting : FairnessAccounting} {decision : FairnessDecision}
    (hpolicy : context.policy = some policy) (haccounting : context.accounting = some accounting)
    (hvalid : validatePolicy policy = .ok ())
    (hevidence : ∀ evidence ∈ context.evidence, validateEvidence evidence = .ok ())
    (h : evaluateFairness context = .ok decision) :
    StarvesOnlyShort policy decision ↔ StreaksAgree context policy accounting := by
  obtain ⟨policy', accounting', tree, eligible, whole, numbered, planned, states, hs, hd, hcorrect,
    hconcluded⟩ := evaluateFairness_run h
  obtain rfl : policy = policy' := Option.some.inj (hpolicy.symm.trans hd.policy_eq)
  obtain rfl : accounting = accounting' :=
    Option.some.inj (haccounting.symm.trans hd.accounting_eq)
  constructor
  · intro hshort
    exact ⟨_, hs.inputs.coverage, fun i observation hobserved hserved hfloor =>
      hs.streak_of_short hd hshort hobserved hserved hfloor⟩
  · rintro ⟨covered, hcovered, hagree⟩ subject hsubject state hstate hname hserved hfloor
    obtain rfl := Except.ok.inj (hs.inputs.coverage.symm.trans hcovered)
    obtain ⟨i, rfl⟩ := hd.mem_iff.mp hstate
    obtain ⟨j, rfl⟩ := exists_subjectAt hsubject
    obtain rfl := (ValidPolicy.of_ok hvalid).subjectAt_injective
      ((hd.reported i).id.symm.trans hname)
    exact hs.notStarving hd hcorrect hconcluded (ValidPolicy.of_ok hvalid) hevidence
      (fun observation hobserved => hagree i observation hobserved) hserved hfloor

/-- The two-subject policy, whose first subject starves after two windows below its floor of three
units. -/
def guaranteedPolicy : FairnessPolicy :=
  { correctablePolicy with
    subjects :=
      [{ id := ⟨1⟩, generation := ⟨1⟩, group := ⟨1⟩, guaranteeFloor := 3,
         guaranteeStarvationWindows := 2 },
        { id := ⟨2⟩, generation := ⟨1⟩, group := ⟨1⟩ }] }

/-- The first subject was served ten units, and its producer reports a streak below its floor. -/
def guaranteedContext (streak : UInt32) : EvaluationContext :=
  { pairContext [{ id := ⟨1⟩, generation := ⟨1⟩, servedUnits := 10, belowFloorStreak := streak },
      { id := ⟨2⟩, generation := ⟨1⟩, servedUnits := 4 }] with policy := some guaranteedPolicy }

theorem starvesOnlyShort_iff_agreed : ∃ decision,
    evaluateFairness (guaranteedContext 0) = .ok decision ∧
      (StarvesOnlyShort guaranteedPolicy decision ↔
        StreaksAgree (guaranteedContext 0) guaranteedPolicy {}) := by
  have hrun : (evaluateFairness (guaranteedContext 0)).toOption.any (fun _ => true) = true := by
    decide +kernel
  have hevidence : ∀ evidence ∈ (guaranteedContext 0).evidence,
      validateEvidence evidence = .ok () := by
    intro evidence hmem
    obtain rfl := Option.some.inj hmem
    decide +kernel
  obtain ⟨decision, hdecision, -⟩ := exists_ok_of_any hrun
  exact ⟨decision, hdecision,
    starvesOnlyShort_iff rfl rfl (by decide +kernel) hevidence hdecision⟩

/-- Served ten units over a floor of three, the subject is starving for a streak its producer
reports. -/
theorem not_starvesOnlyShort :
    validatePolicy guaranteedPolicy = .ok () ∧
    (∀ evidence ∈ (guaranteedContext 2).evidence, validateEvidence evidence = .ok ()) ∧
    ∃ decision, evaluateFairness (guaranteedContext 2) = .ok decision ∧
      ¬ StarvesOnlyShort guaranteedPolicy decision := by
  refine ⟨by decide +kernel, ?_, ?_⟩
  · intro evidence hmem
    obtain rfl := Option.some.inj hmem
    decide +kernel
  · have hrun : (evaluateFairness (guaranteedContext 2)).toOption.any (fun decision =>
        ∃ subject ∈ guaranteedPolicy.subjects, ∃ state ∈ decision.subjects,
          state.id = subject.id ∧ 0 < state.servedUnits ∧
            subject.guaranteeFloor.toNat ≤ state.servedUnits ∧
            state.outcome = .starvationRisk) = true := by
      decide +kernel
    obtain ⟨decision, hdecision, hstarves⟩ := exists_ok_of_any hrun
    obtain ⟨subject, hsubject, state, hstate, hname, hserved, hfloor, hrisk⟩ :=
      of_decide_eq_true hstarves
    exact ⟨decision, hdecision, fun hshort =>
      (hshort subject hsubject state hstate hname hserved hfloor).outcome hrisk⟩

end FairnessGovernor
