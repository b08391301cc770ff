/-
# Absence of authority in a decision

A subject that evidence does not speak for is UNKNOWN or STALE, and these two outcomes are
nobody else's.  It is entitled to nothing, nothing is moved for it, and the outcome of the
population is at least as bad as its own.
-/
import FairnessGovernor.Eval.CorrectivePlan

namespace FairnessGovernor

/-- The two outcomes of a subject without authority. -/
def Outcome.absent (outcome : Outcome) : Prop := outcome = .unknown ∨ outcome = .stale

instance (outcome : Outcome) : Decidable outcome.absent := inferInstanceAs (Decidable (_ ∨ _))

/-- What a decision says of absent evidence. -/
structure AbsenceDominates (decision : FairnessDecision) : Prop where
  authority_iff : ∀ state ∈ decision.subjects, state.hasAuthority = true ↔ ¬ state.outcome.absent
  population_iff : decision.outcome.absent ↔
    ∃ state ∈ decision.subjects, state.hasAuthority = false
  nothing : ∀ state ∈ decision.subjects, state.hasAuthority = false →
    state.entitlementUnits = 0 ∧ state.proposedAugmentUnits = 0 ∧ state.proposedReduceUnits = 0
  unnamed : ∀ state ∈ decision.subjects, state.hasAuthority = false →
    ∀ intent ∈ decision.intents, intent.subject ≠ state.id
  ineligible : decision.correction.authorityMissing = true → decision.intents = []

/-! ## Severity -/

/-- The absent outcomes are the two worst ones. -/
lemma absent_iff_rank {outcome : Outcome} : outcome.absent ↔ 6 ≤ outcomeRank outcome := by
  cases outcome <;> simp [Outcome.absent, outcomeRank]

/-- The aggregate is bad exactly when the start or one of the outcomes is. -/
lemma le_rank_foldl {rank : ℕ} (outcomes : List Outcome) (worst : Outcome) :
    rank ≤ outcomeRank (outcomes.foldl (fun aggregate outcome =>
        if outcomeRank outcome > outcomeRank aggregate then outcome else aggregate) worst) ↔
      rank ≤ outcomeRank worst ∨ ∃ outcome ∈ outcomes, rank ≤ outcomeRank outcome := by
  induction outcomes generalizing worst with
  | nil => simp
  | cons outcome rest ih =>
    rw [List.foldl_cons, ih]
    simp only [List.mem_cons, exists_eq_or_imp]
    split_ifs with hworse
    · constructor
      · rintro (h | h)
        · exact .inr (.inl h)
        · exact .inr (.inr h)
      · rintro (h | h | h)
        · exact .inl (by omega)
        · exact .inl h
        · exact .inr h
    · constructor
      · rintro (h | h)
        · exact .inl h
        · exact .inr (.inr h)
      · rintro (h | h | h)
        · exact .inl h
        · exact .inl (by omega)
        · exact .inr h

lemma absent_aggregateOutcome {outcomes : List Outcome} :
    (aggregateOutcome outcomes).absent ↔ ∃ outcome ∈ outcomes, outcome.absent := by
  simp only [absent_iff_rank]
  show 6 ≤ outcomeRank (outcomes.foldl _ Outcome.fair) ↔ _
  rw [le_rank_foldl]
  simp [outcomeRank]

/-! ## Plans without authority -/

section Plans

variable {context : EvaluationContext} {policy : FairnessPolicy}
  {accounting : FairnessAccounting} {decision : FairnessDecision} {tree : GroupTree policy}
  {request : EvaluationRequest} {eligible : Except EvidenceFailure EvidenceSnapshot} {whole : ℕ}
  {numbered : Plans policy} {planned : Planned policy}
  {states : SubjectIndex policy → SubjectFairnessState} {missing : Bool}

lemma authorityPlan_absent {evidence : EvidenceSnapshot} {subject : Subject}
    (h : (authorityPlan request accounting evidence subject).hasAuthority = false) :
    (authorityPlan request accounting evidence subject).outcome.absent := by
  rcases authorityPlan_cases with ⟨outcome, reason, houtcome, hplan⟩ | ⟨_, -, hplan⟩
  · rw [hplan]
    exact houtcome
  · rw [hplan] at h
    cases h

lemma authorityPlans_absent {i : SubjectIndex policy}
    (h : (authorityPlans request accounting eligible i).hasAuthority = false) :
    (authorityPlans request accounting eligible i).outcome.absent := by
  cases eligible with
  | ok evidence => exact authorityPlan_absent h
  | error failure =>
    show (failedPlan request failure).outcome.absent
    unfold failedPlan
    dsimp only
    split_ifs
    · exact .inl rfl
    · exact .inr rfl

/-- A final plan has an absent outcome exactly when it has no authority. -/
lemma EvaluationStages.absent_iff
    (hs : EvaluationStages context policy accounting tree eligible whole numbered planned)
    (hc : Corrected policy whole missing
      (askingPlans context.request accounting eligible numbered) planned.plans planned.correction)
    (i : SubjectIndex policy) :
    (planned.plans i).outcome.absent ↔ (planned.plans i).hasAuthority = false := by
  have houtcomes := hc.outcomes i
  have hsame := (hc.settled i).hasAuthority
  cases hauth : (planned.plans i).hasAuthority with
  | true =>
    obtain ⟨hunknown, hstale⟩ := houtcomes.authority (hsame.symm.trans hauth)
    exact ⟨fun h => (h.elim hunknown hstale).elim, fun h => by cases h⟩
  | false =>
    refine ⟨fun _ => rfl, fun _ => ?_⟩
    rw [(houtcomes.without (hsame.symm.trans hauth)).1, hs.without hauth]
    exact authorityPlans_absent ((hs.hasAuthority i).symm.trans hauth)

/-- Nothing is planned for a subject without authority. -/
lemma EvaluationStages.nothing
    (hs : EvaluationStages context policy accounting tree eligible whole numbered planned)
    (hc : Corrected policy whole missing
      (askingPlans context.request accounting eligible numbered) planned.plans planned.correction)
    {i : SubjectIndex policy} (hi : (planned.plans i).hasAuthority = false) :
    (planned.plans i).entitlement = 0 ∧ (planned.plans i).augment = 0 ∧
      (planned.plans i).reduce = 0 := by
  refine ⟨?_, hc.augment_eq_zero hi, hc.reduce_eq_zero hi⟩
  have hblank : (authorityPlans context.request accounting eligible i).Blank := authorityPlans_blank i
  rw [(hc.settled i).entitlement, hs.without hi, hblank.entitlement]

/-- An intent names a subject that is moved. -/
lemma Evaluated.named (hd : Evaluated context policy accounting planned states decision)
    {intent : CorrectiveIntent} (hintent : intent ∈ decision.intents) :
    ∃ i, intent.subject = (subjectAt policy i).id ∧
      ((planned.plans i).augment ≠ 0 ∨ (planned.plans i).reduce ≠ 0) := by
  obtain ⟨augments, reduces, hintents, haugments, hreduces⟩ := hd.issued
  rw [hintents, List.mem_append] at hintent
  rcases hintent with hintent | hintent
  · obtain ⟨i, hi, _, -, rfl⟩ := haugments.mem hintent
    exact ⟨i, rfl, .inl (by simpa using (List.mem_filter.mp hi).2)⟩
  · obtain ⟨i, hi, _, -, rfl⟩ := hreduces.mem hintent
    exact ⟨i, rfl, .inr (by simpa using (List.mem_filter.mp hi).2)⟩

/-- The records name distinct subjects. -/
lemma Evaluated.nodup (hd : Evaluated context policy accounting planned states decision)
    (hp : ValidPolicy policy) : (decision.subjects.map (·.id)).Nodup := by
  rw [hd.subjects, List.map_ofFn, List.nodup_ofFn]
  intro i j h
  have hid : (states i).id = (states j).id := h
  rw [(hd.reported i).id, (hd.reported j).id] at hid
  exact hp.subjectAt_injective hid

/-- Without eligible evidence nobody has authority. -/
lemma EvaluationStages.ineligible
    (hs : EvaluationStages context policy accounting tree eligible whole numbered planned)
    (h : planned.correction.authorityMissing = true) (i : SubjectIndex policy) :
    (planned.plans i).hasAuthority = false := by
  rw [hs.missing] at h
  rw [hs.hasAuthority]
  cases eligible with
  | error failure => rfl
  | ok evidence => cases h

end Plans

/-! ## Decisions -/

lemma absenceDominates {context : EvaluationContext} {policy : FairnessPolicy}
    {decision : FairnessDecision} (hpolicy : context.policy = some policy)
    (hp : ValidPolicy policy) (h : evaluateFairness context = .ok decision) :
    AbsenceDominates decision := by
  obtain ⟨policy', accounting, tree, eligible, whole, numbered, planned, states, hs, hd, hc, hr⟩ :=
    evaluateFairness_spec h
  obtain rfl : policy = policy' := Option.some.inj (hpolicy.symm.trans hd.policy_eq)
  have hauthority := fun i => (hd.reported i).hasAuthority
  constructor
  · intro state hstate
    obtain ⟨i, rfl⟩ := hd.mem_iff.mp hstate
    rw [(hr.proposed i).outcome, hs.absent_iff hc, hauthority, Bool.not_eq_false]
  · -- the aggregate is the strongest outcome, and the absent ones rank above all others
    rw [hr.outcome, absent_aggregateOutcome]
    constructor
    · rintro ⟨outcome, hmem, habsent⟩
      obtain ⟨i, rfl⟩ := List.mem_ofFn.mp hmem
      refine ⟨states i, hd.mem_iff.mpr ⟨i, rfl⟩, ?_⟩
      rw [hauthority]
      exact (hs.absent_iff hc i).mp habsent
    · rintro ⟨state, hstate, hwithout⟩
      obtain ⟨i, rfl⟩ := hd.mem_iff.mp hstate
      rw [hauthority] at hwithout
      exact ⟨_, List.mem_ofFn.mpr ⟨i, rfl⟩, (hs.absent_iff hc i).mpr hwithout⟩
  · intro state hstate hwithout
    obtain ⟨i, rfl⟩ := hd.mem_iff.mp hstate
    rw [hauthority] at hwithout
    rw [(hd.reported i).entitlement, (hr.proposed i).augment, (hr.proposed i).reduce]
    exact hs.nothing hc hwithout
  · intro state hstate hwithout intent hintent hname
    obtain ⟨i, rfl⟩ := hd.mem_iff.mp hstate
    obtain ⟨j, hj, hmoved⟩ := hd.named hintent
    obtain rfl : j = i := hp.subjectAt_injective
      (hj.symm.trans (hname.trans (hd.reported i).id))
    rw [hauthority] at hwithout
    obtain ⟨-, haugment, hreduce⟩ := hs.nothing hc hwithout
    exact hmoved.elim (fun h => h haugment) fun h => h hreduce
  · -- nobody has authority, so an intent would name a subject without it
    intro hmissing
    rw [hd.correction] at hmissing
    refine List.eq_nil_iff_forall_not_mem.mpr fun intent hintent => ?_
    obtain ⟨j, -, hmoved⟩ := hd.named hintent
    obtain ⟨-, haugment, hreduce⟩ := hs.nothing hc (hs.ineligible hmissing j)
    exact hmoved.elim (fun h => h haugment) fun h => h hreduce

end FairnessGovernor
